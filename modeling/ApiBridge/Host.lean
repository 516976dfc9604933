import ApiBridge.Console.Terminal
import ApiBridge.Files.Tree
import ApiBridge.Json.Reader
import ApiBridge.Text.Blank

/-!
# The host of a run

All that a run can see: files, the environment, the input, the answers of servers and of commands,
and what the terminal makes of its messages. A run is a function of its host.
-/

namespace ApiBridge

/-- What a server answers. -/
inductive Fetched
  /-- There is no answer. -/
  | failed (reason : String)
  /-- The request cannot be made at all. -/
  | broken (reason : String)
  | answered (status : Nat) (contentType : Option String) (body : List UInt8)
  deriving DecidableEq, Repr, Inhabited

/-- What is given as the input. -/
inductive Input
  | text (s : String)
  /-- The input cannot be read to its end as a text. -/
  | unreadable (reason : String)
  /-- There is no input: it was closed before the run. -/
  | missing
  deriving DecidableEq, Repr, Inhabited

/-- How a command ends. -/
inductive CommandResult
  /-- There is no such command. -/
  | missing
  | timeout
  | ended (code : Int) (output errors : String)
  deriving DecidableEq, Repr, Inhabited

/-- The surroundings of a run. -/
structure Host where
  /-- The working directory. -/
  directory : Path
  tree : FileTree
  environment : List (String × String)
  input : Input
  fetch : String → Fetched
  /-- How commands end, in the order in which they are run. -/
  commands : List CommandResult
  /-- Is the output read by a person at a terminal? -/
  atTerminal : Bool
  terminal : Terminal := .monochrome

namespace Host

/-- Look for a file, and open it. -/
def findFile (h : Host) (p : Path) : FileTree.Found :=
  h.tree.find h.directory.names p

/-- The path of a file in the working directory. -/
def inDirectory (h : Host) (name : String) : Path :=
  h.directory.child name

/-- The path from the top of all directories that a path leads to. -/
def absolute (h : Host) (p : Path) : Path :=
  let start := if p.top = "" then h.directory else ⟨p.top, []⟩
  p.names.foldl (fun q n => if n = ".." then q.parent else q.child n) start

/-- The value of a variable. -/
def environmentValue? (h : Host) (name : String) : Option String :=
  h.environment.lookup name

end Host

/-! ### Texts of files -/

/-- The text of a file: every line end is a line feed. -/
def fileText (bytes : List UInt8) : Except Text.DecodeError String :=
  (Text.decode bytes).map fun s => String.ofList (Text.unifyNewlines s.toList)

/-- Why a file holds no JSON value. -/
inductive JsonFileError
  | notText (e : Text.DecodeError)
  | notJson (e : Json.Error)
  deriving DecidableEq, Repr

/-- The report of a file that holds no JSON value. -/
def JsonFileError.message : JsonFileError → String
  | .notText e => e.message
  | .notJson e => e.message

/-- The JSON value of a file. -/
def readJsonFile (bytes : List UInt8) : Except JsonFileError Value := do
  let text ← (fileText bytes).mapError .notText
  (Json.read text).mapError .notJson

end ApiBridge
