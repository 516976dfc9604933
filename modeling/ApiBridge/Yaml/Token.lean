/-!
# Tokens of YAML

A text is cut into tokens. Most of them are single characters; where blocks begin and end is found
from the columns.
-/

namespace ApiBridge.Yaml

/-- A directive in front of a document. -/
inductive Directive
  /-- The version of the language. -/
  | version (major minor : Nat)
  /-- What a handle in front of a tag stands for. -/
  | handle (name replacement : String)
  /-- Any other directive says nothing. -/
  | other
  deriving DecidableEq, Repr

/-- A token. -/
inductive Token
  | streamEnd
  | directive (d : Directive)
  | documentStart
  | documentEnd
  | blockSequenceStart
  | blockMappingStart
  | blockEnd
  | flowSequenceStart
  | flowSequenceEnd
  | flowMappingStart
  | flowMappingEnd
  | blockEntry
  | flowEntry
  | key
  | value
  | alias (name : String)
  | anchor (name : String)
  | tag (handle : Option String) (suffix : String)
  | scalar (text : String) (plain : Bool)
  deriving DecidableEq, Repr, Inhabited

end ApiBridge.Yaml
