import ApiBridge.Calendar.Basic
import ApiBridge.Text.Integer
import ApiBridge.Text.Quoted

/-!
# Errors of YAML

A text may break the rules of YAML, or it may follow them and still hold a scalar that cannot be
built. The two are kept apart: the first says that the text is no document, the second that a part
of a document stands for no value.
-/

namespace ApiBridge.Yaml

/-- Why a text cannot be read. -/
inductive Error
  /-- The rules of YAML are broken. -/
  | malformed (reason : String)
  | noInteger (base : Nat) (text : String)
  | tooManyDigits (count : Nat)
  | noFloat (text : String)
  /-- The text of a number has nothing after its sign. -/
  | emptyNumber
  /-- A number in base sixty has too many places. -/
  | tooManyPlaces
  | noTruth (word : String)
  | noDate (fault : CalendarFault)
  | noTimestamp
  /-- What is to be a timestamp is no text. -/
  | timestampNotText
  /-- An escape stands for a number that no character has. -/
  | noCharacter
  /-- An escape stands for a number beyond all codes. -/
  | codeTooLarge
  deriving DecidableEq, Repr, Inhabited

namespace Error

/-- Are the rules broken? -/
def isMalformed : Error → Bool
  | .malformed _ => true
  | _ => false

/-- How much of a text is shown that is no integer. -/
def shownLimit : Nat := 200

/-- The report of a text that cannot be read. -/
def message : Error → String
  | .malformed reason => reason
  | .noInteger base text =>
    s!"invalid literal for int() with base {base}: "
      ++ String.ofList ((Text.quoted text).toList.take shownLimit)
  | .tooManyDigits count => Text.tooManyDigits count
  | .noFloat text => "could not convert string to float: " ++ Text.quoted text
  | .emptyNumber => "string index out of range"
  | .tooManyPlaces => "int too large to convert to float"
  | .noTruth word => Text.quoted word
  | .noDate fault => fault.message
  | .noTimestamp => "\x27NoneType\x27 object has no attribute \x27groupdict\x27"
  | .timestampNotText => "expected string or bytes-like object, got \x27list\x27"
  | .noCharacter => "chr() arg not in range(0x110000)"
  | .codeTooLarge => "Python int too large to convert to C int"

end Error

/-- A failure of the rules. -/
def malformed {α : Type} (reason : String) : Except Error α :=
  .error (.malformed reason)

end ApiBridge.Yaml
