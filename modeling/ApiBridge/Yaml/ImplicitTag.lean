import ApiBridge.Calendar.Reader
import ApiBridge.Yaml.Cursor
import ApiBridge.Yaml.Node

/-!
# Tags of plain scalars

A plain scalar without a tag gets one from its text: words for truth values and for nothing, and
the ways to write numbers and dates. All else is a text.
-/

namespace ApiBridge.Yaml

/-! ### Words -/

/-- The words for truth values, in lower case. -/
def truthWords : List (String × Bool) :=
  [("yes", true), ("no", false), ("true", true), ("false", false), ("on", true), ("off", false)]

/-- The three ways to write a word: in lower case, with a capital, and in upper case. -/
def spellings (word : String) : List String :=
  match word.toList with
  | [] => [word]
  | c :: cs => [word, String.ofList (c.toUpper :: cs), String.ofList (word.toList.map Char.toUpper)]

def isTruthWord (s : String) : Bool :=
  truthWords.any fun w => (spellings w.1).contains s

def isNullWord (s : String) : Bool :=
  s = "" || s = "~" || (spellings "null").contains s

/-! ### Numbers -/

/-- The text without a sign in front. -/
def dropSign : List Char → List Char
  | '-' :: cs => cs
  | '+' :: cs => cs
  | cs => cs

/-- Is the text made of characters that satisfy `p`, and of underscores? -/
def isRow (p : Char → Bool) (cs : List Char) : Bool :=
  cs.all fun c => p c || c = '_'

/-- Is the text a digit that satisfies `p`, and then digits and underscores? -/
def isDigits (p : Char → Bool) : List Char → Bool
  | [] => false
  | c :: cs => p c && isRow Char.isDigit cs

/-- Is the text one of the places of a number in base sixty? -/
def isSixtieth : List Char → Bool
  | [a] => a.isDigit
  | [a, b] => '0' ≤ a && a ≤ '5' && b.isDigit
  | _ => false

/-- Is the text a number in base sixty, with a first digit that satisfies `p`? -/
def isBaseSixty (p : Char → Bool) (cs : List Char) : Bool :=
  match cs.splitOn ':' with
  | first :: place :: places => isDigits p first && (place :: places).all isSixtieth
  | _ => false

def isNonzeroDigit (c : Char) : Bool :=
  c.isDigit && c != '0'

/-- Is the text a way to write an integer? -/
def isIntegerText (cs : List Char) : Bool :=
  match dropSign cs with
  | ['0'] => true
  | '0' :: 'b' :: ds => !ds.isEmpty && isRow (fun c => c = '0' || c = '1') ds
  | '0' :: 'x' :: ds => !ds.isEmpty && isRow (fun c => (hexValue? c).isSome) ds
  | '0' :: ds => isRow (fun c => '0' ≤ c && c ≤ '7') ds
  | ds => isDigits isNonzeroDigit ds || isBaseSixty isNonzeroDigit ds

/-- Is the text an exponent, with its sign, or nothing? -/
def isExponent : List Char → Bool
  | [] => true
  | [_] => false
  | e :: sign :: ds =>
    (e = 'e' || e = 'E') && (sign = '-' || sign = '+') && !ds.isEmpty && ds.all Char.isDigit

/-- Is the text the places after a point and an exponent? -/
def isPlaces (cs : List Char) : Bool :=
  isExponent (cs.dropWhile fun c => c.isDigit || c = '_')

/-- Is the text a way to write a number with a point? -/
def isFloatText (cs : List Char) : Bool :=
  let signed := dropSign cs
  let word := String.ofList signed
  let (whole, rest) := signed.span (· ≠ '.')
  [".inf", ".Inf", ".INF"].contains word
    || [".nan", ".NaN", ".NAN"].contains (String.ofList cs)
    || match rest with
      | '.' :: places =>
        (isDigits Char.isDigit whole && isPlaces places)
          || (isBaseSixty Char.isDigit whole && isRow Char.isDigit places)
          || (cs.head? = some '.' && (places.head?.any Char.isDigit) && isPlaces places)
      | _ => false

/-- Is the text a way to write a date or a moment? A date alone has all its digits. -/
def isTimestampText (cs : List Char) : Bool :=
  match Timestamp.read? cs with
  | some t => t.isWide || t.time.isSome
  | none => false

/-! ### Tags -/

/-- The text without a line feed at its end. -/
def dropLastNewline (cs : List Char) : List Char :=
  if cs.getLast? = some '\n' then cs.dropLast else cs

/-- The tag of a scalar, from its text. A line feed at the end is passed over, unless it is all
there is. -/
def implicitTag (s : String) : Tag :=
  let cs := if s = "\n" then ['\n'] else dropLastNewline s.toList
  let word := String.ofList cs
  if isTruthWord word then .truth
  else if isFloatText cs then .float
  else if isIntegerText cs then .integer
  else if word = "<<" then .merge
  else if isNullWord word then .null
  else if isTimestampText cs then .timestamp
  else if word = "=" then .value
  else if ["!", "&", "*"].contains word then .other (tagDomain ++ "yaml")
  else .text

example : implicitTag "1_000" = .integer := by decide +kernel
example : implicitTag "1e3" = .text := by decide +kernel
example : implicitTag "1.0e+3" = .float := by decide +kernel
example : implicitTag "190:20:30" = .integer := by decide +kernel

end ApiBridge.Yaml
