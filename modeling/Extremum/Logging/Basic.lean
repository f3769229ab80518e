import Extremum.Error
import Extremum.Logging.Template
import Extremum.Table
import Extremum.Text.Case

/-!
# Logging

Loggers by name. A logger that was asked for through the library has one handler and does not pass records
on; all such loggers share one level, which can be changed for all of them, and they can be given another
template and stream. A logger can also have handlers of someone else's, who configured it before the library
did, and is then left as it is.
-/

namespace Extremum

namespace Logging

/-- Where handlers write to. -/
inductive Stream
  /-- A stream that a caller gave; numbers tell the streams of callers apart. -/
  | capture (number : Nat := 0)
  /-- The stream for errors. -/
  | standardError
deriving DecidableEq, Repr

/-- What receives the records of a logger. -/
structure Handler where
  /-- Records below this level are ignored. -/
  level : Int
  /-- The template and the stream to write with; a handler of someone else's writes nothing here. -/
  sink : Option (String × Stream)

/-- A named source of records. -/
structure Logger where
  /-- Records below this level are ignored; zero defers to the parent. -/
  level : Int := 0
  handlers : List Handler := []
  /-- Whether records go to the handlers of the parent too. -/
  propagates : Bool := true

/-- A level as a caller gives it. -/
inductive LevelPart
  | number (n : Int)
  | word (s : String)
  /-- Anything else. -/
  | other

/-- The name that all loggers of the library start with. -/
def rootName : String := "optconduit"

def defaultTemplate : String := "[%(levelname)s] %(name)s: %(message)s"

def warning : Int := 30

def debug : Int := 10

def levelName (level : Int) : String :=
  if level = 0 then "NOTSET"
  else if level = 10 then "DEBUG"
  else if level = 20 then "INFO"
  else if level = 30 then "WARNING"
  else if level = 40 then "ERROR"
  else if level = 50 then "CRITICAL"
  else s!"Level {level}"

/-- The level that a caller means: a number, or a word in either case; other words mean warnings. Two words
mean things that are no levels. -/
def readLevel : LevelPart → Reading Float Int
  | .number n => .ok n
  | .other => .error (.unfit .type)
  | .word s =>
    match Text.upper s with
    | "NOTSET" => .ok 0
    | "DEBUG" => .ok debug
    | "INFO" => .ok 20
    | "WARN" | "WARNING" => .ok warning
    | "ERROR" => .ok 40
    | "CRITICAL" | "FATAL" => .ok 50
    | "BASIC_FORMAT" => .error (.unfit .value)
    | "_STYLES" => .error (.unfit .type)
    | _ => .ok warning

/-- The full name of a logger: names that do not start with the common one are put below it. -/
def fullName : Option String → String
  | none => rootName
  | some name => if name.startsWith rootName then name else rootName ++ "." ++ name

/-- The parts of a name in front of its points, the longest one first. A point right in front of one that
counts is passed over, and so is one at the very beginning. -/
def ancestorNames (name : String) : List String :=
  go name.toList.reverse
where
  /-- The parts of a name whose characters are given in reverse order. -/
  go : List Char → List String
    | [] | ['.'] => []
    | '.' :: '.' :: rest => String.ofList ('.' :: rest).reverse :: go rest
    | '.' :: rest => String.ofList rest.reverse :: go rest
    | _ :: rest => go rest

end Logging

open Logging

/-- All loggers, and what has been written. -/
structure Log where
  /-- The loggers that exist, by full name. -/
  loggers : Table Logger := {}
  /-- The full names of those that were asked for through the library. -/
  known : List String := []
  /-- The level of the next logger. -/
  level : Int := warning
  /-- What has been written, and where to, in order. -/
  written : List (Stream × String) := []

namespace Log

def configured (level : Int) (template : String) (stream : Stream) (propagates : Bool) : Logger :=
  { level, handlers := [⟨level, some (template, stream)⟩], propagates }

/-- The logger with a full name; one that nobody asked for has no level and no handlers. -/
def logger (log : Log) (name : String) : Logger :=
  (log.loggers.get? name).getD {}

/-- Asks for a logger: it is configured unless somebody else has done so, and known from then on. -/
def ask (log : Log) (name : Option String) : Log :=
  let full := fullName name
  if log.known.contains full then log
  else
    let old := log.logger full
    let new := if old.handlers.isEmpty then configured log.level defaultTemplate .standardError false else old
    { log with loggers := log.loggers.insert full new, known := log.known ++ [full] }

/-- Attaches somebody else's handler to a logger. -/
def attach (log : Log) (name : Option String) : Log :=
  let full := fullName name
  let old := log.logger full
  { log with loggers := log.loggers.insert full { old with handlers := old.handlers ++ [⟨0, none⟩] } }

/-! ## Changing all known loggers -/

/-- Changes to a log that may fail. The known loggers are changed one after the other, and those that were changed
before a failure stay changed. -/
abbrev Change := ExceptT (Error Float) (StateM Log)

def changeLogger (log : Log) (name : String) (change : Logger → Logger) : Log :=
  { log with loggers := log.loggers.insert name (change (log.logger name)) }

/-- Changes one logger to a level, which it looks at itself. -/
def adjust (level : LevelPart) (change : Int → Logger → Logger) (name : String) : Change Unit := do
  let level ← readLevel level
  modify fun log ↦ log.changeLogger name (change level)

/-- Changes all known loggers to a level, which is that of the loggers to come once these have taken it. -/
def adjustAll (level : LevelPart) (change : Int → Logger → Logger) : Change Unit := do
  (← get).known.forM (adjust level change)
  let level ← readLevel level
  modify fun log ↦ { log with level }

/-- A logger with another level, which its handlers take over. -/
def leveled (level : Int) (l : Logger) : Logger :=
  { l with level, handlers := l.handlers.map fun h ↦ { h with level } }

/-- Changes the level of all known loggers and of those to come. -/
def setLevel (level : LevelPart) : Change Unit :=
  adjustAll level leveled

/-- The template that a caller means: none, and an empty one, stand for that of new loggers. -/
def chosenTemplate : Option String → String
  | none | some "" => defaultTemplate
  | some template => template

/-- Gives all known loggers one level, and one handler with a template and a stream in the place of theirs; the
level is also that of the loggers to come. -/
def configure (level : LevelPart) (template : Option String) (stream : Stream) : Change Unit := do
  let template := chosenTemplate template
  unless mentionsField template.toList do
    throw (.unfit .value)
  adjustAll level fun level l ↦ configured level template stream l.propagates

/-! ## Writing -/

/-- The existing loggers with a name in front of a full name, the nearest one first, after the logger itself. -/
def lineage (log : Log) (full : String) : List Logger :=
  log.logger full :: (ancestorNames full).filterMap log.loggers.get?

/-- The level from which on a logger writes records: its own, or that of the nearest ancestor that has one. -/
def effectiveLevel (log : Log) (full : String) : Int :=
  ((log.lineage full).find? (·.level ≠ 0)).elim warning (·.level)

/-- The handlers that a record goes to: those of the logger, and of its ancestors as far as it is passed on. -/
def reached : List Logger → List Handler
  | [] => []
  | l :: rest => l.handlers ++ if l.propagates then reached rest else []

def field? (name : String) (level : Int) (message : String) : String → Option Field
  | "name" => some (.text name)
  | "levelname" => some (.text (levelName level))
  | "levelno" => some (.number level)
  | "message" | "msg" => some (.text message)
  | _ => none

/-- Adds a text to what a stream has received. -/
def append (log : Log) (s : String) (stream : Stream) : Log :=
  { log with written := log.written ++ [(stream, s)] }

/-- What a stream has received. -/
def received (log : Log) (stream : Stream) : String :=
  String.join ((log.written.filter (·.1 = stream)).map (·.2))

def captured (log : Log) (number : Nat := 0) : String :=
  log.received (.capture number)

def errors (log : Log) : String :=
  log.received .standardError

def handle (log : Log) (name : String) (level : Int) (message : String) (h : Handler) : Log :=
  match h.sink with
  | none => log
  | some (template, stream) =>
    if level < h.level then log
    else match fill? template (field? name level message) with
      | some s => log.append (s ++ "\n") stream
      | none => log

/-- Writes a record through the logger with a full name. Records without a positive level are never
written. -/
def write (log : Log) (full : String) (level : Int) (message : String) : Log :=
  if level ≤ 0 || level < log.effectiveLevel full then log
  else (reached (log.lineage full)).foldl (fun log h ↦ log.handle full level message h) log

/-- Writes a message for those who look for mistakes. -/
def debug (log : Log) (full message : String) : Log :=
  log.write full Logging.debug message

def clear (log : Log) : Log :=
  { log with written := [] }

/-- The loggers of the library's own modules. -/
def ownNames : List String :=
  [".problem.core", ".solver.core", ".solver.dummy", ".solver.factory"].map (rootName ++ ·)

/-- The log at the beginning: the library's own modules have asked for their loggers, at the level that the
surroundings name, as `readLevel` reads it. When they name none, it is that of warnings. -/
def start (level : Int := warning) : Log :=
  ownNames.foldl (fun log name ↦ log.ask (some name)) { level }

end Log

end Extremum
