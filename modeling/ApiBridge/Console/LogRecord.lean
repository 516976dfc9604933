import ApiBridge.Console.Basic
import ApiBridge.Console.Template

/-!
# Log records

A log record has a template with places for its arguments. The records of the library are printed as
messages once they are bridged to the console; other records are printed bare, and only when they
matter.
-/

namespace ApiBridge

/-! ### Records -/

/-- The level of a record, a number: there may be levels between those with names. -/
structure RecordLevel where
  number : Int
  deriving DecidableEq, Repr

namespace RecordLevel

/-- A record without a level is never printed. -/
def unset : RecordLevel := ⟨0⟩

def debug : RecordLevel := ⟨10⟩

def info : RecordLevel := ⟨20⟩

def warning : RecordLevel := ⟨30⟩

def error : RecordLevel := ⟨40⟩

def critical : RecordLevel := ⟨50⟩

/-- The level with a name; two levels have a second one. -/
def ofName? (name : String) : Option RecordLevel :=
  [("NOTSET", unset), ("DEBUG", debug), ("INFO", info), ("WARNING", warning), ("WARN", warning),
    ("ERROR", error), ("CRITICAL", critical), ("FATAL", critical)].lookup name

/-- Is the level at least another one? -/
def reaches (level least : RecordLevel) : Bool :=
  least.number ≤ level.number

/-- The level of a message for a record. -/
def toLevel (level : RecordLevel) : Level :=
  if level.reaches error then .error
  else if level.reaches warning then .warning
  else if level.reaches info then .info
  else .debug

/-- Does a record of this level matter without any console? -/
def matters (level : RecordLevel) : Bool :=
  level.reaches warning

/-- The least level of the records that are bridged to a console, with or without details. -/
def bridged (details : Bool) : RecordLevel :=
  if details then debug else info

end RecordLevel

/-- A log record. -/
structure LogRecord where
  logger : String
  level : RecordLevel
  template : String
  arguments : List Value
  deriving Repr

namespace LogRecord

/-- The logger of the library; those below it have its name and a dot in front of theirs. -/
def libraryLogger : String := "lightning_mcp"

/-- Does the record come from the library? -/
def isLibrary (r : LogRecord) : Bool :=
  r.logger = libraryLogger || r.logger.startsWith (libraryLogger ++ ".")

/-- The text of a record, if its arguments fit. -/
def text? (r : LogRecord) : Option String :=
  fillTemplate? r.template r.arguments

/-- What is printed for a record that nothing takes: its text, if it matters. -/
def printBare (r : LogRecord) (text : String) : List Printed :=
  if r.level.matters then Console.messageLine text else []

end LogRecord

end ApiBridge
