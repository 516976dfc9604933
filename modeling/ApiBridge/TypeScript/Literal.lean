import ApiBridge.Json.Writer
import ApiBridge.TypeScript.Name

/-!
# Literals

Texts and values as they are spelled in source code.
-/

namespace ApiBridge.Literal

/-- A line or paragraph separator, which would end a line of source code, becomes an escape. -/
def escapeSeparator (c : Char) : List Char :=
  if c = '\u2028' then "\\u2028".toList
  else if c = '\u2029' then "\\u2029".toList
  else [c]

/-- A text as a string literal. -/
def ofText (s : String) : String :=
  String.ofList ((Json.writeString .compact s).toList.flatMap escapeSeparator)

/-- A value as a literal: what is no JSON scalar is spelled as the literal of its text. -/
def ofValue : Value → String
  | .scalar (.text s) => ofText s
  | .scalar (.null) => "null"
  | .scalar (.bool b) => if b then "true" else "false"
  | .scalar (.int n) => toString n
  | .scalar (.float x) => x.text .json
  | v => ofText v.display

/-! ### Keys -/

/-- May the character start a bare key? -/
def startsKey (c : Char) : Bool :=
  c.isAlpha || c = '_' || c = '$'

/-- May the character stand in a bare key? -/
def continuesKey (c : Char) : Bool :=
  c.isAlphanum || c = '_' || c = '$'

/-- Do the characters form an identifier, up to a line feed at their end? -/
def isBareChars : List Char → Bool
  | [] => false
  | c :: cs => startsKey c && (cs.all continuesKey
      || (cs.getLast? = some '\n' && cs.dropLast.all continuesKey))

/-- Can the key stand without quotes? -/
def isBareKey (key : String) : Bool :=
  isBareChars key.toList

/-- A key of a record: bare where it can be, else a string literal. -/
def ofKey (key : String) : String :=
  if isBareKey key then key else ofText key

example : ofText "a\"b\u2028" = "\"a\\\"b\\u2028\"" := by decide +kernel
example : ofKey "x-rate" = "\"x-rate\"" ∧ ofKey "$id" = "$id" := by decide +kernel

end ApiBridge.Literal
