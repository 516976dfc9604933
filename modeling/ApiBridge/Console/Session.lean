import ApiBridge.Console.LogRecord
import ApiBridge.Console.Terminal

/-!
# Sessions

A session is a sequence of calls that print data or messages, bridge the records of the library to
the console, or log a record. What becomes of a record is up to the logger of the library: the level
it asks for, and the handlers it hands its records to. A call that fails ends the session.
-/

namespace ApiBridge

/-! ### The logger -/

/-- What a logger hands its records to. -/
inductive LogHandler
  /-- It prints records on the console. -/
  | bridge
  /-- It takes records to another place. -/
  | elsewhere
  deriving DecidableEq, Repr

/-- The logger of the library. -/
structure Logger where
  level : RecordLevel
  handlers : List LogHandler
  deriving DecidableEq, Repr

namespace Logger

/-- The logger at first. -/
def fresh : Logger := ⟨.unset, []⟩

/-- The least level of the records it lets through; without a level of its own it asks for those
that matter. -/
def least (l : Logger) : RecordLevel :=
  if l.level = .unset then .warning else l.level

/-- Is a record of a level let through? -/
def lets (l : Logger) (level : RecordLevel) : Bool :=
  !RecordLevel.unset.reaches level && level.reaches l.least

/-- Bridge the records to the console, with or without details. A bridge from before is taken
away. -/
def bridge (l : Logger) (details : Bool) : Logger :=
  ⟨.bridged details, l.handlers.filter (· ≠ .bridge) ++ [.bridge]⟩

end Logger

/-! ### Calls -/

/-- A call. -/
inductive SessionCall
  | response (v : Value)
  | json (v : Value)
  | data (text : String)
  | source (v : Value)
  | table (headers rows : Value)
  | remark (kind : Remark) (text : String)
  | bridge (details : Bool)
  | record (r : LogRecord)

/-- Does a call print data? -/
def SessionCall.isData : SessionCall → Bool
  | response _ | json _ | data _ | source _ | table _ _ => true
  | remark _ _ | bridge _ | record _ => false

/-- Why a call does not end well. -/
inductive CallFault
  | data (e : DataError)
  /-- The marks in a message cannot be followed. -/
  | notDrawn (reason : String)
  deriving DecidableEq, Repr

/-- What a call has printed, and what stopped it. -/
abbrev CallResult := List Printed × Option CallFault

/-- The logger after a call. -/
def Logger.after (l : Logger) : SessionCall → Logger
  | .bridge details => l.bridge details
  | _ => l

namespace ColorConsole

/-- Hand a message to handlers, up to the first that fails. -/
def handOver (c : ColorConsole) (kind : Remark) (text : String) : List LogHandler → Said
  | [] => ([], none)
  | .elsewhere :: handlers => c.handOver kind text handlers
  | .bridge :: handlers =>
    match c.say kind text with
    | (ps, some e) => (ps, some e)
    | (ps, none) =>
      let (qs, e) := c.handOver kind text handlers
      (ps ++ qs, e)

/-- Log a record. A record whose arguments do not fit is not printed. -/
def log (c : ColorConsole) (l : Logger) (r : LogRecord) : Said :=
  match r.text? with
  | none => ([], none)
  | some text =>
    if r.isLibrary then
      if l.lets r.level then
        if l.handlers.isEmpty then (r.printBare text, none)
        else c.handOver (.ofLevel r.level.toLevel) text l.handlers
      else ([], none)
    else (r.printBare text, none)

/-- The result of a call that prints data. -/
def printed (result : Console.DataResult) : CallResult :=
  (result.1, result.2.map .data)

/-- The result of a call that says something. -/
def spoken (said : Said) : CallResult :=
  (said.1, said.2.map .notDrawn)

/-- Make a call. -/
def perform (c : ColorConsole) (l : Logger) : SessionCall → CallResult
  | .response v => printed (c.printRecord v)
  | .json v => printed (Console.printJson v)
  | .data text => ([Console.line text], none)
  | .source v => printed (Console.printSourceValue v)
  | .table headers rows => printed (c.printTable headers rows)
  | .remark kind text => spoken (c.say kind text)
  | .bridge _ => ([], none)
  | .record r => spoken (c.log l r)

/-- What is printed when calls are made one after another, and what stopped the last one: after a
call that fails no other is made. -/
def session (c : ColorConsole) (l : Logger) : List SessionCall → CallResult
  | [] => ([], none)
  | call :: calls =>
    match c.perform l call with
    | (ps, some fault) => (ps, some fault)
    | (ps, none) =>
      let (qs, fault) := c.session (l.after call) calls
      (ps ++ qs, fault)

end ColorConsole

end ApiBridge
