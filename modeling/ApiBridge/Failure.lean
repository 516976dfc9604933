import ApiBridge.Console.Terminal
import ApiBridge.Description.OfDocument
import ApiBridge.Document.Load
import ApiBridge.Files.Tree
import ApiBridge.Project.Build
import ApiBridge.Project.Generate
import ApiBridge.Settings.Resolve

/-!
# Failures

All that can end a run early. A failure is reported when the library foresees it and can say what is
wrong with the input; each kind of reported failure has its exit code. The others come from the
inside and share one code.
-/

namespace ApiBridge

/-- Why a run ends early. -/
inductive Failure
  | settings (e : SettingsError)
  | load (e : LoadError)
  | reference (e : ReferenceError)
  | description (e : DescriptionError)
  | build (e : BuildError)
  | file (e : FileError)
  | data (e : DataError)
  | text (e : TextError)
  /-- The marks in something that is to be drawn cannot be followed. -/
  | marks (reason : String)
  deriving DecidableEq, Repr

namespace Failure

/-- The failure of a project that is not written. -/
def ofWriteError : WriteError → Failure
  | .noFile e => .file e
  | .noText e => .text e

/-- Is the failure reported as what it is? -/
def isReported : Failure → Bool
  | .settings e => e.isReported
  | .load e => e.isReported
  | .reference e => e.isReported
  | .description e => e.isReported
  | .build e => e.isReported
  | .file _ => false
  | .data _ => false
  | .text _ => false
  | .marks _ => false

/-- What went wrong. -/
def message : Failure → String
  | .settings e => e.message
  | .load e => e.message
  | .reference e => e.message
  | .description e => e.message
  | .build e => e.message
  | .file e => e.message
  | .data e => e.message
  | .text e => e.message
  | .marks reason => reason

/-- What is said of a failure at the end of a run. -/
def report (f : Failure) : String :=
  if f.isReported then f.message else s!"Unexpected error: {f.message}"

/-! ### Exit codes -/

/-- The code of a failure of no kind of its own. -/
def generalCode : Nat := 1

/-- The code of a document that cannot be loaded, is malformed or has bad references. -/
def documentCode : Nat := 7

/-- The code of a document that is no description of a known dialect. -/
def dialectCode : Nat := 8

/-- The code of a project that is not built. -/
def buildCode : Nat := 9

/-- The code with which a run ends after a failure. -/
def exitCode (f : Failure) : Nat :=
  if !f.isReported then generalCode
  else
    match f with
    | .load _ | .reference _ => documentCode
    | .description e => if e.isMalformed then documentCode else dialectCode
    | .build _ => buildCode
    | _ => generalCode

/-- What is printed of a failure at the end of a run, and the code with which the run then ends. A
report stands among marks like any other message: where it cannot be drawn, the run ends like one
that fails for that reason, if the failure was one that is reported. -/
def told (c : ColorConsole) (f : Failure) : List Printed × Nat :=
  match c.say .error f.report with
  | (ps, none) => (ps, f.exitCode)
  | (_, some reason) =>
    (if f.isReported then (c.say .error (marks reason).report).1 else [], generalCode)

end Failure

end ApiBridge
