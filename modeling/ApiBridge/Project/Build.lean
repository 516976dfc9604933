import ApiBridge.Binary64.Rounded
import ApiBridge.Host
import ApiBridge.Notice

/-!
# Building a project

A project is built by two commands in its directory: the first fetches its packages, the second
compiles it. The second is run only when the first has ended well.
-/

namespace ApiBridge

/-- A command that was run. -/
structure Command where
  words : List String
  directory : Path
  deriving DecidableEq, Repr, Inhabited

/-- A step of the build. -/
structure BuildStep where
  label : String
  words : List String
  deriving DecidableEq, Repr

/-- The steps of the build, in order. -/
def buildSteps : List BuildStep :=
  [⟨"Dependency installation", ["npm", "install"]⟩, ⟨"Build", ["npm", "run", "build"]⟩]

/-- Why a time cannot be told in seconds. -/
inductive SecondsError
  | tooLarge
  | text
  | otherKind (kind : String)
  deriving DecidableEq, Repr

/-- The report of a time that cannot be told. -/
def SecondsError.message : SecondsError → String
  | .tooLarge => "int too large to convert to float"
  | .text => "Unknown format code 'g' for object of type 'str'"
  | .otherKind kind => s!"unsupported format string passed to {kind}.__format__"

/-- A time in seconds as it is told: a number to six digits. A date is told by the letter that asks
for such digits. -/
def secondsText : Value → Except SecondsError String
  | .scalar (.bool b) => .ok (if b then "1" else "0")
  | .scalar (.int n) =>
    let x := Binary64.ofInt n
    if x.isInfinite then .error .tooLarge else .ok x.shortText
  | .scalar (.float x) => .ok x.shortText
  | .scalar (.text _) => .error .text
  | .scalar (.date _) => .ok "g"
  | .scalar (.moment _) => .ok "g"
  | v => .error (.otherKind v.kindName)

/-- Why a project is not built. -/
inductive BuildError
  | commandMissing
  /-- A step takes longer than the time it is given, in seconds. -/
  | timeout (label seconds : String)
  /-- A step takes longer than a time that cannot be told. -/
  | timeoutUntold (e : SecondsError)
  | failed (label : String) (code : Int) (lastLines : List String)
  deriving DecidableEq, Repr

/-- Is the error reported as one of building? A time that cannot be told is a failure of its own. -/
def BuildError.isReported : BuildError → Bool
  | .timeoutUntold _ => false
  | _ => true

/-- The report of a failed build. -/
def BuildError.message : BuildError → String
  | .commandMissing =>
    "npm not found. Install Node.js (https://nodejs.org) and retry, or pass --no-install"
  | .timeout label seconds => s!"{label} timed out after {seconds} seconds"
  | .timeoutUntold e => e.message
  | .failed label code lastLines =>
    s!"{label} failed with exit code {code}"
      ++ if lastLines.isEmpty then "" else "\n" ++ "\n".intercalate (lastLines.map ("  " ++ ·))

/-- How many of the last lines of a failed command are reported. -/
def shownLines : Nat := 20

/-- The last lines of what a command wrote. -/
def lastLines (text : String) : List String :=
  let lines := Text.lines text
  lines.drop (lines.length - shownLines)

/-- How a step ends by the result of its command; `seconds` is the time that it is given. -/
def stepOutcome (seconds : Value) (step : BuildStep) : CommandResult → Except BuildError Unit
  | .missing => .error .commandMissing
  | .timeout =>
    match secondsText seconds with
    | .ok seconds => .error (.timeout step.label seconds)
    | .error e => .error (.timeoutUntold e)
  | .ended code output errors =>
    if code = 0 then .ok ()
    else .error (.failed step.label code (lastLines (if errors = "" then output else errors)))

/-- What happens in a build. -/
inductive BuildEvent
  | noted (n : Notice)
  | ran (c : Command)
  deriving DecidableEq, Repr

namespace BuildEvent

def notice? : BuildEvent → Option Notice
  | noted n => some n
  | ran _ => none

def command? : BuildEvent → Option Command
  | noted _ => none
  | ran c => some c

end BuildEvent

/-- What happens when steps are run with the given results of their commands, in order, and how that
ends. -/
def runSteps (directory : Path) (seconds : Value) :
    List BuildStep → List CommandResult → List BuildEvent × Except BuildError Unit
  | [], _ => ([], .ok ())
  | step :: steps, results =>
    let begun : List BuildEvent :=
      [.noted (.commandStarted (" ".intercalate step.words) directory.text),
        .ran ⟨step.words, directory⟩]
    match stepOutcome seconds step (results.headD .missing) with
    | .error e => (begun, .error e)
    | .ok _ =>
      let (events, outcome) := runSteps directory seconds steps results.tail
      (begun ++ .noted (.stepCompleted step.label) :: events, outcome)

/-- The time for each step that is given without being told. -/
def defaultSeconds : Value := .scalar (.float (Binary64.ofInt 600))

/-- Build a project with the given results of commands. -/
def build (directory : Path) (seconds : Value) (results : List CommandResult) :
    List BuildEvent × Except BuildError Unit :=
  runSteps directory seconds buildSteps results

example : (secondsText (.bool true)).toOption = some "1" := by decide +kernel
example : (secondsText defaultSeconds).toOption = some "600" := by decide +kernel

end ApiBridge
