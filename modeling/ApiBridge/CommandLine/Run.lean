import ApiBridge.CommandLine.Request
import ApiBridge.CommandLine.View
import ApiBridge.Description.Load

/-!
# Runs

A run does what it is asked for on a host. It prints data and messages, writes files and runs
commands, and ends with an exit code. `run` gives all of it as one value. A message that cannot be
drawn ends a run where it is said.
-/

namespace ApiBridge.CommandLine

/-- What a run has done. -/
structure Effects where
  printed : List Printed
  tree : FileTree
  commands : List Command
  deriving Repr

/-- A part of a run: what it does is kept also when it fails. -/
abbrev Run (α : Type) := ExceptT Failure (StateM Effects) α

namespace Run

/-- Print. -/
def print (ps : List Printed) : Run Unit :=
  modify fun e => { e with printed := e.printed ++ ps }

/-- Do something that may fail. -/
def require {α ε : Type} (kind : ε → Failure) : Except ε α → Run α
  | .ok a => return a
  | .error e => throw (kind e)

/-- Say messages. The first one that cannot be drawn ends the run. -/
def tell (c : ColorConsole) (ms : List Message) : Run Unit := do
  let (ps, stopped) := c.sayAll ms
  print ps
  match stopped with
  | some reason => throw (.marks reason)
  | none => return

/-- Say one message. -/
def say (c : ColorConsole) (kind : Remark) (text : String) : Run Unit :=
  tell c [(kind, text)]

/-- Do something that reports notices and may fail. -/
def attempt {α ε : Type} (c : ColorConsole) (kind : ε → Failure) (a : Attempt ε α) : Run α := do
  tell c (Notice.messages a.run.notices)
  require kind a.run.value

/-- Print data. -/
def printData (r : Console.DataResult) : Run Unit := do
  print r.1
  match r.2 with
  | some e => throw (.data e)
  | none => return

/-- Print what a terminal draws. -/
def printDrawn (drawn : Except String String) : Run Unit := do
  print [.data (← require .marks drawn)]

/-- Show a table. -/
def showTable (c : ColorConsole) (title : String) (t : Table) : Run Unit :=
  match c.format with
  | .rich => printDrawn (c.terminal.drawTable title t.headers t.rows)
  | _ => printData (t.print c.toConsole)

/-- Show a record. -/
def showRecord (c : ColorConsole) (v : Value) : Run Unit :=
  match c.format, Console.printJson v with
  | .rich, (_, none) => print [.data (c.terminal.drawSource "json" (Json.write .pretty v))]
  | .rich, shown => printData shown
  | _, _ => printData (c.printRecord v)

/-- Show source text. -/
def showSource (c : ColorConsole) (text : String) : Run Unit :=
  match c.format with
  | .rich => print [.data (c.terminal.drawSource "typescript" text)]
  | _ => print (Console.printSource text)

/-- Write files. -/
def write {ε : Type} (kind : ε → Failure) (f : FileTree → FileTree × Option ε) : Run Unit := do
  let (tree, stopped) := f (← get).tree
  modify fun e => { e with tree := tree }
  match stopped with
  | some e => throw (kind e)
  | none => return

/-- Go through what happens in a build. A notice that cannot be drawn ends the run, and with it the
build. -/
def follow (c : ColorConsole) : List BuildEvent → Run Unit
  | [] => return
  | .noted n :: events => do
    tell c (Notice.messages [n])
    follow c events
  | .ran command :: events => do
    modify fun e => { e with commands := e.commands ++ [command] }
    follow c events

end Run

/-! ### Tasks -/

/-- The settings for types on a host. -/
def settingsFor (h : Host) (c : ColorConsole) (input : TypesInput) : Run Settings := do
  let settings ← Run.attempt c .settings (Settings.resolve h input.settingsPath)
  return settings.withTypeOptions input.referenceMode input.dedupeNames

/-- The description in a document. -/
def descriptionIn (h : Host) (c : ColorConsole) (source : String) : Run (Api Document) :=
  Run.attempt c id (Api.load h source)

/-- Generate a project. -/
def runGenerate (h : Host) (c : ColorConsole) (input : TypesInput) (directory : String)
    (install : Bool) : Run Unit := do
  let settings ← settingsFor h c input
  Run.say c .info s!"Generating MCP server from {input.source}..."
  let api ← descriptionIn h c input.source
  Run.tell c (api.idWarnings.map (.warning, ·))
  let path := Path.ofText directory
  let project ← Run.attempt c .text (Project.ofApi path api settings)
  Run.write Failure.ofWriteError fun tree => project.write { h with tree := tree }
  Run.tell c (Notice.messages [project.writtenNotice])
  Run.tell c (project.typeWarnings.map (.warning, ·))
  if c.format = .json then Run.printData (Console.printJson project.record)
  else Run.showTable c project.toolTitle project.toolTable
  Run.say c .success s!"MCP server generated successfully at {(h.absolute path).text}"
  if install then
    Run.say c .info "Installing dependencies and building the generated server..."
    let (events, outcome) := build path defaultSeconds h.commands
    Run.follow c events
    Run.require .build outcome
    Run.say c .success "Build completed successfully"
  else
    Run.say c .suggestion s!"cd {directory} && npm install && npm run build"

/-- Print declarations, or write them to a file. -/
def runTypes (h : Host) (c : ColorConsole) (input : TypesInput) (file : Option String) :
    Run Unit := do
  let settings ← settingsFor h c input
  let api ← descriptionIn h c input.source
  let declarations ← Run.attempt c .text (api.declarations settings.types)
  let text ← Run.require .text (Declaration.writtenFile Declaration.fileHeader declarations)
  match file with
  | some file =>
    Run.write .file fun tree => tree.write h.directory.names (Path.ofText file) text false
    Run.say c .success s!"Wrote {declarations.length} declarations to {file}"
  | none =>
    if c.format = .json then
      Run.printData (Console.printJson (.list (declarations.map Declaration.record)))
    else Run.showSource c text

/-- What is said of a document without schemas. -/
def noSchemas : Message := (.info, "No schemas defined in this document.")

/-- Show a description. -/
def runInspect (h : Host) (c : ColorConsole) (view : View) (source : String) : Run Unit := do
  let api ← descriptionIn h c source
  match view with
  | .operations => Run.showTable c api.operationTitle api.operationTable
  | .schemas =>
    if api.schemas.isEmpty then Run.tell c [noSchemas]
    else
      let table ← Run.require .text api.schemaTable
      Run.showTable c api.schemaTitle table
  | .info => Run.showRecord c api.record

/-- Do a task. -/
def Task.perform (h : Host) (c : ColorConsole) : Task → Run Unit
  | .generate input directory install => runGenerate h c input directory install
  | .types input file => runTypes h c input file
  | .inspect view source => runInspect h c view source

/-! ### Outcomes -/

/-- How a run ends, and what it has done. -/
structure Outcome extends Effects where
  exitCode : Nat
  deriving Repr

/-- The version of the program. -/
def programVersion : String := "1.0.0"

/-- What is printed for help. -/
def helpText : String :=
  "Generate MCP servers from OpenAPI 3.x documents.\n\n"
    ++ "Usage: lightning-mcp [--json | --plain] [--no-color] [-q] [-v] COMMAND [OPTIONS]\n\n"
    ++ "  generate --doc DOC [--output DIR] [--config FILE] [--references MODE]\n"
    ++ "           [--dedupe-names] [--install | --no-install]\n"
    ++ "  types --doc DOC [-o FILE] [--config FILE] [--references MODE] [--dedupe-names]\n"
    ++ "  inspect (operations | schemas | info) --doc DOC"

/-- The code of words that cannot be followed. -/
def usageCode : Nat := 2

/-- The console that a run is asked for. -/
def ConsoleChoice.console (choice : ConsoleChoice) (h : Host) : ColorConsole where
  format :=
    if choice.json then .json
    else if choice.plain then .plain
    else Console.automaticFormat h.environment h.atTerminal choice.noColor
  quiet := choice.quiet
  verbose := choice.verbose
  noColor := choice.noColor || Console.environmentIsPlain h.environment
  terminal := h.terminal

/-- A run that only prints. -/
def printing (h : Host) (exitCode : Nat) (ps : List Printed) : Outcome :=
  ⟨⟨ps, h.tree, []⟩, exitCode⟩

/-- Do what is asked for. -/
def Request.perform (h : Host) : Request → Outcome
  | .help => printing h 0 [Console.line helpText]
  | .version => printing h 0 [Console.line s!"lightning-mcp {programVersion}"]
  | .work choice task =>
    let (result, done) := (task.perform h (choice.console h)).run.run ⟨[], h.tree, []⟩
    match result with
    | .ok _ => ⟨done, 0⟩
    | .error f =>
      let (ps, exitCode) := f.told (choice.console h)
      ⟨{ done with printed := done.printed ++ ps }, exitCode⟩

/-- A run with the given words. -/
def run (h : Host) (words : List String) : Outcome :=
  match Request.ofWords words with
  | .ok request => request.perform h
  | .error e => printing h usageCode (Console.messageLine (Remark.error.plain e.message))

end ApiBridge.CommandLine
