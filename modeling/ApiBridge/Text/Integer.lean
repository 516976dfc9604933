import ApiBridge.Text.Blank
import ApiBridge.Text.DecimalDigit

/-!
# Written integers

An integer is a sign and digits of a base, with padding around it and single underscores between the
digits. The digits of any row count, and letters stand for the digits from ten on.
-/

namespace ApiBridge.Text

/-- The value of a digit or of a letter used as one. -/
def digitOrLetter? (c : Char) : Option Nat :=
  match digitValue? c with
  | some d => some d
  | none =>
    let c := c.toLower
    if 'a' ≤ c && c ≤ 'z' then some (c.toNat - 87) else none

/-- The number that digits of a base stand for. -/
def readDigits? (base : Nat) (cs : List Char) : Option Nat :=
  cs.foldlM (fun n c => do
    let d ← digitOrLetter? c
    if d < base then some (n * base + d) else none) 0

/-- The letter that marks a base in front of its digits. -/
def baseMark? : Nat → Option Char
  | 2 => some 'b'
  | 8 => some 'o'
  | 16 => some 'x'
  | _ => none

/-- The digits after the mark of a base, if there is one, and an underscore after it. -/
def dropBaseMark (base : Nat) : List Char → List Char
  | '0' :: c :: cs =>
    if baseMark? base = some c.toLower then
      match cs with
      | '_' :: cs => cs
      | cs => cs
    else '0' :: c :: cs
  | cs => cs

/-- The most decimal digits that are read or written. -/
def decimalDigitLimit : Nat := 4300

/-- The report of a text with too many digits for an integer. -/
def tooManyDigits (count : Nat) : String :=
  "Exceeds the limit (4300 digits) for integer string conversion: value has "
    ++ s!"{count} digits; use sys.set_int_max_str_digits() to increase the limit"

/-- The report of an integer with too many digits for a text. -/
def tooLongForText : String :=
  "Exceeds the limit (4300 digits) for integer string conversion; "
    ++ "use sys.set_int_max_str_digits() to increase the limit"

/-- Has an integer no more decimal digits than may be written? -/
def isWritable (n : Int) : Bool :=
  n.natAbs < Nat.pow 10 decimalDigitLimit

/-- The natural number written without a sign. -/
def readNatural? (base : Nat) (cs : List Char) : Option Nat :=
  let groups := (dropBaseMark base cs).splitOn '_'
  if groups.any List.isEmpty then none
  else if base = 10 && decimalDigitLimit < groups.flatten.length then none
  else readDigits? base groups.flatten

/-- The integer written in a base. -/
def readInteger? (base : Nat) (cs : List Char) : Option Int :=
  match trimPadding cs with
  | '-' :: cs => (readNatural? base cs).map fun n => -(n : Int)
  | '+' :: cs => (readNatural? base cs).map fun n => (n : Int)
  | cs => (readNatural? base cs).map fun n => (n : Int)

example : readInteger? 10 " -1_0 ".toList = some (-10) := by decide +kernel
example : readInteger? 8 "017".toList = some 15 := by decide +kernel
example : readInteger? 10 "1__0".toList = none := by decide +kernel

end ApiBridge.Text
