/-!
# Notices

What the library reports along the way: schemas that are cut off, references that lead nowhere,
parts of a document that are passed over, and the steps of a run.
-/

namespace ApiBridge

/-- How much a notice matters. -/
inductive Level
  | debug
  | info
  | warning
  | error
  deriving DecidableEq, Repr

namespace Level

def name : Level → String
  | .debug => "DEBUG"
  | .info => "INFO"
  | .warning => "WARNING"
  | .error => "ERROR"

end Level

/-- Something that happened and does not stop the work. A text in it may be missing, since not every
value has one. -/
inductive Notice
  /-- A schema nested deeper than the limit stands for any value. -/
  | schemaTooDeep (context : String) (limit : Nat)
  /-- A reference to a schema that is not registered stands for any value. -/
  | schemaUnknown (reference : String)
  /-- A declaration got another name because its own was taken. -/
  | declarationRenamed (name unique : String)
  /-- An operation without responses is passed over. -/
  | operationSkipped (method : String) (path : Option String)
  /-- A parameter that is still a reference is passed over. -/
  | parameterUnresolved (reference : Option String) (path : String)
  /-- A parameter without a name is passed over. -/
  | parameterUnnamed (path : String)
  /-- A parameter in an unknown location is passed over. -/
  | parameterMisplaced (name path : String) (location : Option String)
  /-- A response that is still a reference is passed over. -/
  | responseUnresolved (status reference : Option String) (path : String)
  /-- The files of a project are in place. -/
  | projectWritten (count : Nat) (directory : String)
  /-- The settings are read from a file. -/
  | settingsRead (path : String)
  /-- Versions of packages are taken from the manifest of the working directory. -/
  | versionsPinned (versions : String)
  /-- The manifest of the working directory cannot be read. -/
  | manifestUnreadable (path reason : String)
  /-- A command is started. -/
  | commandStarted (command directory : String)
  /-- A step of the build has ended well. -/
  | stepCompleted (step : String)
  deriving DecidableEq, Repr

namespace Notice

def level : Notice → Level
  | .schemaTooDeep .. | .schemaUnknown .. | .declarationRenamed .. | .manifestUnreadable .. =>
    .warning
  | .commandStarted .. | .stepCompleted .. => .info
  | _ => .debug

/-- The words of a notice, if all texts in it are there. -/
def message? : Notice → Option String
  | .schemaTooDeep context limit =>
    let place := if context = "" then "<root>" else context
    some s!"Schema at {place} nests deeper than {limit} levels; using any"
  | .schemaUnknown reference =>
    some s!"Schema reference {reference} does not resolve; using any"
  | .declarationRenamed name unique =>
    some s!"Duplicate declaration name {name} renamed to {unique}"
  | .operationSkipped method path =>
    path.map fun path => s!"Skipping {method} {path}: no responses declared"
  | .parameterUnresolved reference path =>
    reference.map fun reference => s!"Dropping unresolved parameter {reference} on {path}"
  | .parameterUnnamed path => some s!"Dropping unnamed parameter on {path}"
  | .parameterMisplaced name path location =>
    location.map fun location =>
      s!"Dropping parameter {name} on {path}: unsupported location {location}"
  | .responseUnresolved status reference path => do
    let status ← status
    let reference ← reference
    return s!"Dropping unresolved {status} response {reference} on {path}"
  | .projectWritten count directory => some s!"Wrote {count} files to {directory}"
  | .settingsRead path => some s!"Using config file {path}"
  | .versionsPinned versions =>
    some s!"Using dependency versions from package.json: {versions}"
  | .manifestUnreadable path reason =>
    some s!"Could not read {path}, using configured versions: {reason}"
  | .commandStarted command directory => some s!"Running {command} in {directory}"
  | .stepCompleted step => some s!"{step} completed successfully"

/-- The words of notices with their levels, up to the first notice that has none; and do all have
words? -/
def records : List Notice → List (Level × String) × Bool
  | [] => ([], true)
  | n :: ns =>
    match n.message? with
    | some text => ((n.level, text) :: (records ns).1, (records ns).2)
    | none => ([], false)

end Notice

/-! ### Results with notices -/

/-- A result with the notices that led to it, in order. -/
structure Noted (α : Type) where
  value : α
  notices : List Notice
  deriving Repr

namespace Noted

/-- Report one notice. -/
def note (n : Notice) : Noted Unit :=
  ⟨(), [n]⟩

instance : Monad Noted where
  pure a := ⟨a, []⟩
  bind x f := ⟨(f x.value).value, x.notices ++ (f x.value).notices⟩

@[simp] theorem value_pure {α : Type} (a : α) : (pure a : Noted α).value = a := rfl

@[simp] theorem notices_pure {α : Type} (a : α) : (pure a : Noted α).notices = [] := rfl

@[simp] theorem value_bind {α β : Type} (x : Noted α) (f : α → Noted β) :
    (x >>= f).value = (f x.value).value := rfl

@[simp] theorem notices_bind {α β : Type} (x : Noted α) (f : α → Noted β) :
    (x >>= f).notices = x.notices ++ (f x.value).notices := rfl

end Noted

/-- A computation that reports notices and may fail; the notices before a failure are kept. -/
abbrev Attempt (ε α : Type) := ExceptT ε Noted α

/-- What may fail and reports nothing. -/
def Attempt.ofExcept {ε ε' α : Type} (kind : ε → ε') : Except ε α → Attempt ε' α
  | .ok a => pure a
  | .error e => throw (kind e)

/-- Report one notice in a computation that may fail. -/
def Attempt.note {ε : Type} (n : Notice) : Attempt ε Unit :=
  ExceptT.lift (Noted.note n)

end ApiBridge
