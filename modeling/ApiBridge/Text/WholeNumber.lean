import ApiBridge.Text.Integer

/-!
# Whole numbers in generous spelling

A whole number in the text of a setting may have padding around it, a sign, zeros in front, zeros
after a point and single underscores between digits. The spelling is first reduced to a plain one: a
minus sign, if there is one, and digits without zeros in front.
-/

namespace ApiBridge.Text

/-! ### Reduction -/

/-- Drop zeros, and underscores between them, up to a first digit other than zero or a minus sign.
A point keeps the character `last` in front of it, and so does the end of the text. -/
def dropZeros? (last : Char) : List Char → Option (List Char)
  | [] => some [last]
  | c :: cs =>
    if c = '0' || c = '_' then dropZeros? c cs
    else if c.isDigit || c = '-' then some (c :: cs)
    else if c = '.' then some (last :: c :: cs)
    else none

/-- The text without zeros in front. It has to start with a digit or a minus sign. -/
def withoutLeadingZeros? : List Char → Option (List Char)
  | [] => none
  | c :: cs =>
    if c = '0' then dropZeros? c cs
    else if c.isDigit || c = '-' then some (c :: cs)
    else none

/-- The minus sign of a text, if there is one, and the text behind its sign. No minus sign may follow
a plus sign. -/
def splitSign? : List Char → Option (List Char × List Char)
  | '+' :: '-' :: _ => none
  | '+' :: cs => some ([], cs)
  | '-' :: cs => some (['-'], cs)
  | cs => some ([], cs)

/-- The text without a point and the zeros after it, if nothing else follows the point. -/
def withoutZeroPlaces (cs : List Char) : List Char :=
  match cs.span (· ≠ '.') with
  | (whole, '.' :: z :: zs) => if (z :: zs).all (· = '0') then whole else cs
  | _ => cs

/-- Do two underscores stand side by side? -/
def hasDoubleUnderscore : List Char → Bool
  | '_' :: '_' :: _ => true
  | _ :: cs => hasDoubleUnderscore cs
  | [] => false

/-- The text without its underscores, if each of them stands alone and inside. -/
def withoutUnderscores (cs : List Char) : List Char :=
  if cs.head? = some '_' || cs.getLast? = some '_' || hasDoubleUnderscore cs then cs
  else cs.filter (· ≠ '_')

/-- A whole number in generous spelling, reduced to a plain one if it can be. -/
def plainWhole? (cs : List Char) : Option (List Char) := do
  let (sign, cs) ← splitSign? (trimPadding cs)
  let cs ← withoutLeadingZeros? cs
  return sign ++ withoutUnderscores (withoutZeroPlaces cs)

/-! ### Reading -/

/-- How the reading of a whole number ends. -/
inductive WholeNumber
  | number (n : Int)
  | tooLong
  | unreadable
  deriving DecidableEq, Repr

/-- The natural number that ASCII digits stand for. -/
def naturalOfDigits (ds : List Char) : Nat :=
  ds.foldl (fun n c => n * 10 + (c.toNat - 48)) 0

/-- The number in plain spelling: a minus sign, if any, and digits, of which only a zero alone may
start with a zero. -/
def readPlainWhole (cs : List Char) : WholeNumber :=
  let (sign, ds) := cs.span (· = '-')
  let digits := ds.takeWhile Char.isDigit
  if 1 < sign.length || digits.isEmpty then .unreadable
  else if digits.head? = some '0' && 1 < digits.length then .unreadable
  else if decimalDigitLimit < digits.length then .tooLong
  else if digits.length < ds.length then .unreadable
  else .number (if sign.isEmpty then naturalOfDigits digits else -naturalOfDigits digits)

/-- The whole number that a text spells generously. -/
def readWhole (s : String) : WholeNumber :=
  match plainWhole? s.toList with
  | some cs => readPlainWhole cs
  | none => .unreadable

example : readWhole " +007.00 " = .number 7 := by decide +kernel
example : readWhole "1_0" = .number 10 ∧ readWhole "1__0" = .unreadable := by decide +kernel
example : readWhole "-05" = .number (-5) ∧ readWhole "0-5" = .number (-5) := by decide +kernel
example : readWhole "-_5" = .unreadable ∧ readWhole "--5" = .unreadable := by decide +kernel
example : readWhole "5." = .unreadable := by decide +kernel

end ApiBridge.Text
