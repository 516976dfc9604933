import ApiBridge.Text.Integer

/-!
# Failures of reading JSON

What can be wrong with a JSON text, where, and in which words it is reported.
-/

namespace ApiBridge.Json

/-- What is wrong at one place of a text. -/
inductive Fault
  | byteOrderMark
  | valueExpected
  | nameExpected
  | colonExpected
  | commaExpected
  | unterminatedString
  | controlCharacter
  | unknownEscape
  | badCodeEscape
  | extraData
  deriving DecidableEq, Repr

/-- The words for a fault. -/
def Fault.words : Fault → String
  | .byteOrderMark => "Unexpected UTF-8 BOM (decode using utf-8-sig)"
  | .valueExpected => "Expecting value"
  | .nameExpected => "Expecting property name enclosed in double quotes"
  | .colonExpected => "Expecting ':' delimiter"
  | .commaExpected => "Expecting ',' delimiter"
  | .unterminatedString => "Unterminated string starting at"
  | .controlCharacter => "Invalid control character at"
  | .unknownEscape => "Invalid \\escape"
  | .badCodeEscape => "Invalid \\uXXXX escape"
  | .extraData => "Extra data"

/-- A place in a text: the characters before it, and the line and column they lead to. -/
structure Place where
  offset : Nat
  line : Nat
  column : Nat
  deriving DecidableEq, Repr

/-- The place reached after the characters `before`. -/
def Place.after (before : List Char) : Place :=
  ⟨before.length, before.count '\n' + 1, (before.reverse.takeWhile (· ≠ '\n')).length + 1⟩

/-- Why a text is no JSON document that can be read. -/
inductive Error
  | malformed (fault : Fault) (place : Place)
  /-- An integer of more digits than are read. -/
  | tooManyDigits (count : Nat)
  deriving DecidableEq, Repr

/-- The report of a failure. -/
def Error.message : Error → String
  | .malformed fault p =>
    fault.words ++ s!": line {p.line} column {p.column} (char {p.offset})"
  | .tooManyDigits count => Text.tooManyDigits count

/-- Is the text malformed, rather than too large? -/
def Error.isMalformed : Error → Bool
  | .malformed _ _ => true
  | .tooManyDigits _ => false

example : Place.after "a\nbc".toList = ⟨4, 2, 3⟩ := by decide +kernel

end ApiBridge.Json
