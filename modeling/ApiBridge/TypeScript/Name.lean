import ApiBridge.Text.Blank
import ApiBridge.Text.Lowercase

/-!
# Names

Names of generated types, packages and operations are made from the texts of a description. A type
name keeps the letters and digits of an operation id and joins their runs by underscores.
-/

namespace ApiBridge.Name

/-! ### Characters -/

/-- Is the character an ASCII letter or digit? -/
def isAlphanumeric (c : Char) : Bool :=
  c.isAlphanum

/-- May the character stand in an identifier? -/
def isIdentifierChar (c : Char) : Bool :=
  c.isAlphanum || c = '_'

/-- Each maximal run of characters that satisfy `p` becomes one underscore; `inside` says that the
run has begun. -/
def joinRuns (p : Char → Bool) (inside : Bool) : List Char → List Char
  | [] => []
  | c :: cs =>
    if p c then
      if inside then joinRuns p true cs else '_' :: joinRuns p true cs
    else c :: joinRuns p false cs

/-- The characters without the underscores at both ends. -/
def trimUnderscores (cs : List Char) : List Char :=
  ((cs.dropWhile (· = '_')).reverse.dropWhile (· = '_')).reverse

/-! ### Identifiers -/

/-- The characters of an identifier: runs of dashes and blanks become an underscore, then so does
every other character that may not stand there, and then every run of underscores. -/
def sanitizedChars (cs : List Char) : List Char :=
  let joined := joinRuns (fun c => c = '-' || Text.isBlank c) false cs
  let replaced := joined.map fun c => if isIdentifierChar c then c else '_'
  trimUnderscores (joinRuns (· = '_') false replaced)

/-- A text reduced to letters, digits and single underscores between them. -/
def sanitized (s : String) : String :=
  String.ofList (sanitizedChars s.toList)

/-- The sanitized operation id with its first letter in upper case. -/
def ofOperation (operationId : String) : String :=
  match sanitizedChars operationId.toList with
  | [] => ""
  | c :: cs => String.ofList (c.toUpper :: cs)

/-- The name of the parameters of an operation. -/
def ofParameters (operationId : String) : String :=
  ofOperation operationId ++ "Params"

/-- The name of the request body of an operation. -/
def ofRequestBody (operationId : String) : String :=
  ofOperation operationId ++ "RequestBody"

/-- The name of a response of an operation. -/
def ofResponse (operationId status : String) : String :=
  ofOperation operationId ++ "Response" ++ status

/-- The name that a reference refers to: what follows its last slash. -/
def ofReference (reference : String) : String :=
  String.ofList (reference.toList.reverse.takeWhile (· ≠ '/')).reverse

/-- An operation id made from the method and the letters and digits of the path. -/
def ofRoute (method path : String) : String :=
  Text.lower method ++ String.ofList (path.toList.filter isAlphanumeric)

/-- The name of the package for an API. -/
def ofPackage (title : String) : String :=
  let plain (c : Char) : Char := if c.isLower || c.isDigit then c else '-'
  String.ofList ((Text.lower title).toList.map plain) ++ "-mcp-server"

example : sanitized "--weird  name--" = "weird_name" := by decide +kernel
example : ofResponse "list-pets" "200" = "List_petsResponse200" := by decide +kernel
example : ofReference "#/components/schemas/Pet" = "Pet" := by decide +kernel

/-! ### Names that are taken -/

/-- How often each name was asked for. The names are exactly those given out. -/
abbrev Taken := List (String × Nat)

/-- The first of `name` followed by `count`, `count + 1`, … that is not taken. One of the first
`fuel` is free when fewer names than that are taken. -/
def firstFree (taken : Taken) (name : String) : Nat → Nat → String
  | 0, count => name ++ toString count
  | fuel + 1, count =>
    let candidate := name ++ toString count
    if (taken.lookup candidate).isSome then firstFree taken name fuel (count + 1) else candidate


/-- Ask for a name: it is given out as it is the first time, and later with a number that makes it
new. -/
def dedupe (name : String) (taken : Taken) : String × Taken :=
  match taken.lookup name with
  | none => (name, taken ++ [(name, 1)])
  | some n =>
    let taken := taken.map fun e => if e.1 = name then (name, n + 1) else e
    let unique := firstFree taken name taken.length (n + 1)
    (unique, taken ++ [(unique, 1)])

end ApiBridge.Name
