import ApiBridge.Binary64.Rounded
import ApiBridge.Value.Text

/-!
# Templates

A template is a text with places for arguments. A place starts with a percent sign and ends with a
letter that says how its argument is shown; between them stand a name in parentheses, flags, a
width and a precision. The arguments are taken in order, or looked up by name in a single map.
-/

namespace ApiBridge

/-! ### Layouts -/

/-- How the text for a place is laid out. -/
structure PlaceLayout where
  leftAligned : Bool := false
  signed : Bool := false
  spaced : Bool := false
  zeroFilled : Bool := false
  full : Bool := false
  width : Nat := 0
  precision : Option Nat := none
  deriving DecidableEq, Repr, Inhabited

namespace PlaceLayout

/-- A text in its width. -/
def pad (l : PlaceLayout) (s : String) : String :=
  let fill := String.ofList (List.replicate (l.width - s.length) ' ')
  if l.leftAligned then s ++ fill else fill ++ s

/-- A text cut to its precision, in its width. -/
def textFor (l : PlaceLayout) (s : String) : String :=
  l.pad (match l.precision with
    | some n => String.ofList (s.toList.take n)
    | none => s)

/-- A number from its sign and its digits, with the mark of its base if it is written in full. -/
def numberFor (l : PlaceLayout) (negative : Bool) (mark digits : String) : String :=
  let sign := if negative then "-" else if l.signed then "+" else if l.spaced then " " else ""
  let start := sign ++ (if l.full then mark else "")
  let room := if l.zeroFilled && !l.leftAligned then l.width - start.length else 0
  l.pad (start ++ String.ofList (List.replicate (room - digits.length) '0') ++ digits)

/-- An integer in a base, with at least as many digits as the precision. -/
def integerFor (l : PlaceLayout) (base : Nat) (mark : String) (n : Int) : String :=
  let digits := Nat.toDigits base n.natAbs
  let fill := List.replicate (l.precision.getD 0 - digits.length) '0'
  l.numberFor (n < 0) mark (String.ofList (fill ++ digits))

/-- A double in a style. -/
def doubleFor (l : PlaceLayout) (style : RoundedStyle) (x : Binary64) : String :=
  l.numberFor (x.isNegative && !x.isNaN) ""
    (x.roundedText style l.full (l.precision.getD Binary64.defaultPrecision))

end PlaceLayout

/-! ### Reading templates -/

/-- A width or a precision. -/
inductive PlaceCount
  | absent
  | given (n : Nat)
  /-- It is taken from the arguments. -/
  | argument
  deriving DecidableEq, Repr

/-- A place for an argument; the letter `kind` says how it is shown. -/
structure TemplatePlace where
  name : Option String
  flags : PlaceLayout
  width : PlaceCount
  precision : PlaceCount
  kind : Char
  deriving DecidableEq, Repr

/-- A piece of a template. -/
inductive TemplatePiece
  | literal (c : Char)
  | place (p : TemplatePlace)
  deriving DecidableEq, Repr

/-- The greatest width. -/
def widthLimit : Nat := 0x7fffffffffffffff

/-- The greatest precision. -/
def precisionLimit : Nat := 0x7fffffff

namespace Template

/-- A number in front of a text. -/
def readNumber (cs : List Char) : Nat × List Char :=
  ((cs.takeWhile Char.isDigit).foldl (fun n c => n * 10 + (c.toNat - 48)) 0,
    cs.dropWhile Char.isDigit)

/-- The text up to the parenthesis that closes one opened before, and what follows it; `depth`
counts those opened since. -/
def readName? (depth : Nat) : List Char → Option (List Char × List Char)
  | [] => none
  | c :: cs =>
    if c = ')' then
      match depth with
      | 0 => some ([], cs)
      | depth + 1 => (readName? depth cs).map fun r => (c :: r.1, r.2)
    else (readName? (if c = '(' then depth + 1 else depth) cs).map fun r => (c :: r.1, r.2)

/-- The flags in front of a place. -/
def readFlags (l : PlaceLayout) : List Char → PlaceLayout × List Char
  | '-' :: cs => readFlags { l with leftAligned := true } cs
  | '+' :: cs => readFlags { l with signed := true } cs
  | ' ' :: cs => readFlags { l with spaced := true } cs
  | '0' :: cs => readFlags { l with zeroFilled := true } cs
  | '#' :: cs => readFlags { l with full := true } cs
  | cs => (l, cs)

/-- A count of at most `limit`, if there is one. -/
def readCount? (limit : Nat) : List Char → Option (PlaceCount × List Char)
  | '*' :: cs => some (.argument, cs)
  | cs =>
    if (cs.head?.map Char.isDigit).getD false then
      let (n, cs) := readNumber cs
      if n ≤ limit then some (.given n, cs) else none
    else some (.absent, cs)

/-- A precision after its point; without a number it is zero. -/
def readPrecision? : List Char → Option (PlaceCount × List Char)
  | '.' :: cs => (readCount? precisionLimit cs).map fun
    | (.absent, cs) => (.given 0, cs)
    | r => r
  | cs => some (.absent, cs)

/-- The text without a letter for the size of a number, which says nothing. -/
def dropSize : List Char → List Char
  | 'h' :: cs => cs
  | 'l' :: cs => cs
  | 'L' :: cs => cs
  | cs => cs

/-- A place, after its percent sign and its name. -/
def readPlace? (name : Option String) (cs : List Char) : Option (TemplatePiece × List Char) := do
  let (flags, cs) := readFlags {} cs
  let (width, cs) ← readCount? widthLimit cs
  let (precision, cs) ← readPrecision? cs
  match dropSize cs with
  | kind :: cs => some (.place ⟨name, flags, width, precision, kind⟩, cs)
  | [] => none

/-- A piece, after a percent sign; two percent signs stand for one. -/
def readPiece? : List Char → Option (TemplatePiece × List Char)
  | '%' :: cs => some (.literal '%', cs)
  | '(' :: cs => do
    let (name, cs) ← readName? 0 cs
    readPlace? (some (String.ofList name)) cs
  | cs => readPlace? none cs

/-- The pieces of a template; `fuel` bounds their number. -/
def read? : Nat → List Char → Option (List TemplatePiece)
  | 0, _ => some []
  | _ + 1, [] => some []
  | fuel + 1, '%' :: cs => do
    let (piece, cs) ← readPiece? cs
    return piece :: (← read? fuel cs)
  | fuel + 1, c :: cs => (.literal c :: ·) <$> read? fuel cs

/-! ### Numbers as arguments -/

/-- The integer of an integer or a truth value. -/
def integerOf? : Value → Option Int
  | .scalar (.int n) => some n
  | .scalar (.bool b) => some (if b then 1 else 0)
  | _ => none

/-- The integer of a number without its places. -/
def truncated? : Value → Option Int
  | .scalar (.float x) =>
    if x.isFinite then
      let n : Int := (x.ratio.1 / x.ratio.2 : Nat)
      some (if x.isNegative then -n else n)
    else none
  | v => integerOf? v

/-- The double of a number, unless it is too large for one. -/
def doubleOf? : Value → Option Binary64
  | .scalar (.float x) => some x
  | v => ((integerOf? v).map Binary64.ofInt).filter (!·.isInfinite)

/-! ### Filling -/

/-- A text with only ASCII characters. -/
def asciiOnly (s : String) : String :=
  String.ofList (s.toList.flatMap fun c =>
    if c.toNat < 0x80 then [c]
    else if c.toNat < 0x100 then '\\' :: 'x' :: Text.hex 2 c.toNat
    else if c.toNat < 0x10000 then '\\' :: 'u' :: Text.hex 4 c.toNat
    else '\\' :: 'U' :: Text.hex 8 c.toNat)

/-- The character of a code, or of a text with no other. -/
def characterOf? (v : Value) : Option Char :=
  match v, integerOf? v with
  | .scalar (.text s), _ =>
    match s.toList with
    | [c] => some c
    | _ => none
  | _, some n => if 0 ≤ n ∧ n < 0x110000 then some (Char.ofNat n.toNat) else none
  | _, none => none

/-- The letters in upper case. -/
def upper (s : String) : String :=
  String.ofList (s.toList.map Char.toUpper)

/-- An argument in its place, if the two fit. -/
def shown? (l : PlaceLayout) (kind : Char) (v : Value) : Option String :=
  match kind with
  | 's' => (written? v.display).map l.textFor
  | 'r' => (written? v.quoted).map l.textFor
  | 'a' => (written? v.quoted).map fun s => l.textFor (asciiOnly s)
  | 'c' => (characterOf? v).map fun c => l.pad (String.ofList [c])
  | 'd' => decimal?
  | 'i' => decimal?
  | 'u' => decimal?
  | 'x' => (integerOf? v).map (l.integerFor 16 "0x")
  | 'X' => (integerOf? v).map fun n => upper (l.integerFor 16 "0x" n)
  | 'o' => (integerOf? v).map (l.integerFor 8 "0o")
  | 'f' => (doubleOf? v).map (l.doubleFor .fixed)
  | 'F' => (doubleOf? v).map fun x => upper (l.doubleFor .fixed x)
  | 'e' => (doubleOf? v).map (l.doubleFor .scientific)
  | 'E' => (doubleOf? v).map fun x => upper (l.doubleFor .scientific x)
  | 'g' => (doubleOf? v).map (l.doubleFor .general)
  | 'G' => (doubleOf? v).map fun x => upper (l.doubleFor .general x)
  | _ => none
where
  written? (s : String) : Option String :=
    if v.isWritable then some s else none
  decimal? : Option String :=
    ((truncated? v).filter Text.isWritable).map (l.integerFor 10 "")

/-- The arguments that places can still take: those in order, and those that have names. -/
structure Supply where
  named : Option (List (Scalar × Value))
  pending : List Value

namespace Supply

/-- The supply of some arguments. A single map that is not empty is taken for named arguments. -/
def ofArguments : List Value → Supply
  | [.map (e :: es)] => ⟨some (e :: es), [.map (e :: es)]⟩
  | vs => ⟨none, vs⟩

/-- The next argument. -/
def take? (s : Supply) : Option (Value × Supply) :=
  match s.pending with
  | v :: vs => some (v, { s with pending := vs })
  | [] => none

/-- Let the argument with a name be the next and only one. -/
def select? (s : Supply) : Option String → Option Supply
  | none => some s
  | some name => do
    let v ← lookupKey (.text name) (← s.named)
    return { s with pending := [v] }

/-- A count, which may be the next argument; it has to be less than `limit` in size. -/
def count? (limit : Nat) (s : Supply) : PlaceCount → Option (Option Int × Supply)
  | .absent => some (none, s)
  | .given n => some (some n, s)
  | .argument => do
    let (v, s) ← s.take?
    let n ← integerOf? v
    if n.natAbs ≤ limit then return (some n, s) else none

end Supply

/-- A place with its argument. A negative width means that the text stands on the left. -/
def fillPlace? (p : TemplatePlace) (s : Supply) : Option (String × Supply) := do
  let s ← s.select? p.name
  let (width, s) ← s.count? widthLimit p.width
  let (precision, s) ← s.count? precisionLimit p.precision
  let (v, s) ← s.take?
  let l := { p.flags with
    leftAligned := p.flags.leftAligned || width.any (· < 0)
    width := (width.getD 0).natAbs
    precision := precision.map Int.toNat }
  return (← shown? l p.kind v, s)

/-- A template filled with arguments, each of which must have a place unless it has a name. -/
def fill? : List TemplatePiece → Supply → Option String
  | [], s => if s.named.isNone && !s.pending.isEmpty then none else some ""
  | .literal c :: ps, s => (String.ofList [c] ++ ·) <$> fill? ps s
  | .place p :: ps, s => do
    let (text, s) ← fillPlace? p s
    return text ++ (← fill? ps s)

end Template

/-- A template filled with arguments. Without any the template stands for itself; arguments that do
not fit give nothing. -/
def fillTemplate? (template : String) (arguments : List Value) : Option String :=
  if arguments.isEmpty then some template
  else do
    let pieces ← Template.read? template.length template.toList
    Template.fill? pieces (.ofArguments arguments)

example : fillTemplate? "%05d|%-4s|%%" [.int (-4), .text "a"] = some "-0004|a   |%" := by
  decide +kernel
example : fillTemplate? "%(a)s" [.map [(.text "a", .int 1)]] = some "1" := by decide +kernel
example : fillTemplate? "%d" [.text "1"] = none ∧ fillTemplate? "%" [.int 1] = none := by
  decide +kernel

end ApiBridge
