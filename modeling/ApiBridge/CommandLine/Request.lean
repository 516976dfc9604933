import ApiBridge.CommandLine.Options
import ApiBridge.Console.Basic
import ApiBridge.TypeScript.Compile

/-!
# Requests

What a run is asked for: a task on a document, with the options of the console in front of it, or
just help or the version.
-/

namespace ApiBridge.CommandLine

/-- The options in front of a command. -/
inductive CommonOption
  | version
  | json
  | plain
  | noColor
  | quiet
  | verbose
  | help
  deriving DecidableEq, Repr

/-- The options of a task. -/
inductive TaskOption
  | source
  | output
  | settings
  | references
  | dedupeNames
  | install
  | noInstall
  | help
  deriving DecidableEq, Repr

/-- What the console is asked for. -/
structure ConsoleChoice where
  json : Bool
  plain : Bool
  noColor : Bool
  quiet : Bool
  verbose : Bool
  deriving DecidableEq, Repr

/-- A document and how its types are made. -/
structure TypesInput where
  source : String
  settingsPath : Option String
  referenceMode : Option ReferenceMode
  dedupeNames : Bool
  deriving DecidableEq, Repr

/-- What of a description is looked at. -/
inductive View
  | operations
  | schemas
  | info
  deriving DecidableEq, Repr

/-- What is to be done. -/
inductive Task
  | generate (input : TypesInput) (directory : String) (install : Bool)
  | types (input : TypesInput) (file : Option String)
  | inspect (view : View) (source : String)
  deriving DecidableEq, Repr

/-- What a run is asked for. -/
inductive Request
  | help
  | version
  | work (choice : ConsoleChoice) (task : Task)
  deriving DecidableEq, Repr

/-! ### Spellings -/

def commonForms : List (OptionForm CommonOption) :=
  [⟨.version, ["--version"], false⟩, ⟨.json, ["--json"], false⟩, ⟨.plain, ["--plain"], false⟩,
    ⟨.noColor, ["--no-color"], false⟩, ⟨.quiet, ["--quiet", "-q"], false⟩,
    ⟨.verbose, ["--verbose", "-v"], false⟩, ⟨.help, ["--help"], false⟩]

def sourceForm : OptionForm TaskOption := ⟨.source, ["--doc"], true⟩

def helpForm : OptionForm TaskOption := ⟨.help, ["--help"], false⟩

/-- The options of all tasks that make types. -/
def typesForms : List (OptionForm TaskOption) :=
  [sourceForm, ⟨.settings, ["--config"], true⟩, ⟨.references, ["--references"], true⟩,
    ⟨.dedupeNames, ["--dedupe-names"], false⟩, helpForm]

def generateForms : List (OptionForm TaskOption) :=
  typesForms ++ [⟨.output, ["--output"], true⟩, ⟨.install, ["--install"], false⟩,
    ⟨.noInstall, ["--no-install"], false⟩]

def typesFileForms : List (OptionForm TaskOption) :=
  typesForms ++ [⟨.output, ["-o", "--output"], true⟩]

def inspectForms : List (OptionForm TaskOption) := [sourceForm, helpForm]

/-- The views by their words. -/
def View.choices : List (String × View) :=
  [("operations", .operations), ("schemas", .schemas), ("info", .info)]

/-- Where a project is generated if that is not said. -/
def defaultDirectory : String := "./generated-mcp-server"

/-! ### Reading -/

/-- The source of a document, which must be given. -/
def sourceOf (r : Reading TaskOption) : Except UsageError String :=
  match r.value? .source with
  | some source => .ok source
  | none => .error (.optionMissing "--doc")

/-- The way of references, if it is given. -/
def modeOf (r : Reading TaskOption) : Except UsageError (Option ReferenceMode) :=
  match r.value? .references with
  | none => .ok none
  | some word =>
    match ReferenceMode.all.find? (·.1 = word) with
    | some (_, mode) => .ok (some mode)
    | none => .error (.noChoice "--references" word)

def inputOf (r : Reading TaskOption) : Except UsageError TypesInput := do
  return ⟨← sourceOf r, r.value? .settings, ← modeOf r, r.has .dedupeNames⟩

/-- A task from the words after its name; the answer is none if help is asked for. Words that are no
options are refused. -/
def readTask (forms : List (OptionForm TaskOption))
    (make : Reading TaskOption → Except UsageError Task) (words : List String) :
    Except UsageError (Option Task) := do
  let r ← OptionForm.read forms true words
  if r.has .help then return none
  let task ← make r
  match r.others with
  | [] => return some task
  | word :: _ => throw (.wordUnexpected word)

def readGenerate (words : List String) : Except UsageError (Option Task) :=
  readTask generateForms (fun r => do
    return .generate (← inputOf r) ((r.value? .output).getD defaultDirectory)
      (r.lastOf? [.install, .noInstall] ≠ some .noInstall)) words

def readTypes (words : List String) : Except UsageError (Option Task) :=
  readTask typesFileForms (fun r => do
    return .types (← inputOf r) ((r.value? .output).filter (· ≠ ""))) words

/-- A view from the words after `inspect`. What stands in the place of a view and names none may
still ask for help. -/
def readInspect (words : List String) : Except UsageError (Option Task) := do
  let r ← OptionForm.read [helpForm] false words
  if r.has .help then return none
  match r.others with
  | [] => throw .commandMissing
  | word :: words =>
    match View.choices.find? (·.1 = word) with
    | some (_, view) => readTask inspectForms (fun r => Task.inspect view <$> sourceOf r) words
    | none =>
      let again ← OptionForm.read [helpForm] false (word :: words)
      if again.has .help then return none else throw (.unknownCommand word)

/-- The commands by their names. -/
def commands : List (String × (List String → Except UsageError (Option Task))) :=
  [("generate", readGenerate), ("types", readTypes), ("inspect", readInspect)]

def consoleChoiceOf (r : Reading CommonOption) : ConsoleChoice :=
  ⟨r.has .json, r.has .plain, r.has .noColor, r.has .quiet, r.has .verbose⟩

/-- The request for help or for the version, whichever comes first in front of a command. -/
def Request.ofCommon? (r : Reading CommonOption) : Option Request :=
  (r.firstOf? [.version, .help]).map fun o => if o = .version then .version else .help

/-- What a run is asked for by its words. What stands in the place of a command and names none may
still ask for help or the version. -/
def Request.ofWords (words : List String) : Except UsageError Request := do
  let r ← OptionForm.read commonForms false words
  match ofCommon? r, r.others with
  | some request, _ => return request
  | none, [] => throw .commandMissing
  | none, word :: words =>
    match commands.find? (·.1 = word) with
    | none =>
      let again ← OptionForm.read commonForms false (word :: words)
      match ofCommon? again with
      | some request => return request
      | none => throw (.unknownCommand word)
    | some (_, readCommand) =>
      match ← readCommand words with
      | some task => return .work (consoleChoiceOf r) task
      | none => return .help

end ApiBridge.CommandLine
