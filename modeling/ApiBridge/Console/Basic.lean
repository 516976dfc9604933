import ApiBridge.Json.Writer
import ApiBridge.Notice
import ApiBridge.Text.Blank

/-!
# The console

A run prints data, which other programs read, and messages, which people read. The two go to
different places. How data looks depends on the format, and which messages are printed depends on
how quiet or verbose the console is.
-/

namespace ApiBridge

/-- How data looks. -/
inductive ConsoleFormat
  | json
  | plain
  | rich
  deriving DecidableEq, Repr, Inhabited

/-- The word for a format. -/
def ConsoleFormat.word : ConsoleFormat → String
  | .json => "json"
  | .plain => "plain"
  | .rich => "rich"

/-- Something that is printed. -/
inductive Printed
  | data (text : String)
  | message (text : String)
  deriving DecidableEq, Repr

namespace Printed

/-- What was printed as data. -/
def dataText (ps : List Printed) : String :=
  String.join (ps.filterMap fun
    | .data s => some s
    | .message _ => none)

/-- What was printed as messages. -/
def messageText (ps : List Printed) : String :=
  String.join (ps.filterMap fun
    | .data _ => none
    | .message s => some s)

end Printed

/-- Why data cannot be printed. -/
inductive DataError
  /-- A key of a map is no name. -/
  | badKey (kind : String)
  | notJoined (e : TextError)
  /-- What is to be joined has no parts. -/
  | notJoinable
  /-- What is to be gone through has no parts. -/
  | noParts (kind : String)
  /-- What is to be a key of a map is a container. -/
  | containerKey (kind : String)
  /-- What is to be source text is made of bytes. -/
  | sourceBytes
  /-- What is to be source text is no text. -/
  | notSource (kind : String)
  deriving DecidableEq, Repr

/-- The report of data that cannot be printed. -/
def DataError.message : DataError → String
  | .badKey kind => s!"keys must be str, int, float, bool or None, not {kind}"
  | .notJoined e => e.message
  | .notJoinable => "can only join an iterable"
  | .noParts kind => s!"'{kind}' object is not iterable"
  | .containerKey kind => s!"unhashable type: '{kind}'"
  | .sourceBytes => "a bytes-like object is required, not 'str'"
  | .notSource kind => s!"'{kind}' object has no attribute 'rstrip'"

/-- The console. -/
structure Console where
  format : ConsoleFormat
  quiet : Bool
  verbose : Bool
  deriving DecidableEq, Repr, Inhabited

namespace Console

/-! ### Choosing a format -/

/-- Does the environment ask for no colours? -/
def environmentIsPlain (environment : List (String × String)) : Bool :=
  (environment.lookup "NO_COLOR").isSome || environment.lookup "TERM" = some "dumb"

/-- The format where none is asked for: rich for people at a terminal, unless colours are not
wanted. -/
def automaticFormat (environment : List (String × String)) (atTerminal noColor : Bool) :
    ConsoleFormat :=
  if atTerminal && !(noColor || environmentIsPlain environment) then .rich else .plain

/-! ### Data -/

/-- What was printed, and what stopped the printing. -/
abbrev DataResult := List Printed × Option DataError

/-- A line of data. -/
def line (text : String) : Printed :=
  .data (text ++ "\n")

/-- A value as JSON. -/
def printJson (v : Value) : DataResult :=
  match Json.badKey? v with
  | some k => ([], some (.badKey k.kindName))
  | none => ([line (Json.write .pretty v)], none)

/-- The text of an entry of a record. -/
def fieldText : Value → String
  | .list items => ", ".intercalate (items.map Value.display)
  | v => v.display

/-- The lines of a record: entries of a map, items of a list, or a single value. -/
def recordLines : Value → List String
  | .map entries => entries.map fun e => e.1.display ++ "\t" ++ fieldText e.2
  | .list items => items.map Value.display
  | v => [v.display]

/-- A record in the format of the console. -/
def printRecord (c : Console) (v : Value) : DataResult :=
  match c.format with
  | .plain => ((recordLines v).map line, none)
  | _ => printJson v

/-- Source text, without the line feeds at its end. -/
def printSource (text : String) : List Printed :=
  [line (Text.dropTrailingNewlines text)]

/-- A value as source text, which it must be. -/
def printSourceValue : Value → DataResult
  | .scalar (.text s) => (printSource s, none)
  | .scalar (.bytes _) => ([], some .sourceBytes)
  | v => ([], some (.notSource v.kindName))

/-! ### Tables -/

/-- The parts of a value. -/
def partsOf (v : Value) : Except DataError (List Value) :=
  match v.elements? with
  | some parts => .ok parts
  | none => .error (.noParts v.kindName)

/-- A line of parts with tabs between them. -/
def tabbed (v : Value) : Except DataError String :=
  match v.elements? with
  | none => .error .notJoinable
  | some parts => ("\t".intercalate ·) <$> (Value.allTexts 0 parts).mapError .notJoined

/-- A row of a table as a map with the headers as keys; what has no header is left out. -/
def rowMap (headers row : Value) : Except DataError Value := do
  let cells ← (← partsOf headers).zip <$> partsOf row
  let entries ← cells.mapM fun (header, cell) =>
    match header.scalar? with
    | some key => .ok (key, cell)
    | none => .error (.containerKey header.kindName)
  return .map (mergeKeys entries)

/-- Lines of rows, up to the first that cannot be joined. -/
def printRows : List Value → DataResult
  | [] => ([], none)
  | row :: rows =>
    match tabbed row with
    | .error e => ([], some e)
    | .ok text =>
      let (ps, e) := printRows rows
      (line text :: ps, e)

/-- A table in the format of the console: a list of maps, or lines with tabs between the cells. -/
def printTable (c : Console) (headers rows : Value) : DataResult :=
  match c.format with
  | .json =>
    match do (← partsOf rows).mapM (rowMap headers) with
    | .ok maps => printJson (.list maps)
    | .error e => ([], some e)
  | _ =>
    match tabbed headers with
    | .error e => ([], some e)
    | .ok text =>
      match partsOf rows with
      | .error e => ([line text], some e)
      | .ok rows =>
        let (ps, e) := printRows rows
        (line text :: ps, e)

/-- A line of a message. -/
def messageLine (text : String) : List Printed :=
  [.message (text ++ "\n")]

end Console

end ApiBridge
