import JetStream.Duration.Basic
import JetStream.Error
import JetStream.Text.Case
import JetStream.Text.Blank

/-!
# Settings of the tool

The settings come in layers: defaults, a file, the environment, and the command line.  A layer
changes only what it supplies.
-/

namespace JetStream

open Text

/-- How events are logged. -/
structure LogSettings where
  /-- Which events are logged: a level, or directives set apart by commas. -/
  level : String := "warn"
  /-- In JSON. -/
  json : Bool := false
  deriving DecidableEq, Inhabited

/-- The settings. -/
structure Settings where
  /-- The address of the broker. -/
  server : String := "nats://127.0.0.1:4222"
  /-- How long an answer or a message may take. -/
  timeout : Duration := .ofSeconds 5
  /-- Configurations are not validated. -/
  noValidate : Bool := false
  /-- What holds for built configurations is made to hold for those from files. -/
  normalizeFileConfigs : Bool := false
  /-- Requests and answers are logged. -/
  trace : Bool := false
  /-- How events are logged. -/
  log : LogSettings := {}
  deriving DecidableEq, Inhabited

namespace Settings

/-- The plain levels. -/
def levels : List String := ["trace", "debug", "info", "warn", "error"]

/-- Why settings are of no use. -/
inductive Problem where
  | emptyServer
  | zeroTimeout
  | unknownLevel (level : String)
  deriving DecidableEq

/-- What the operator is told. -/
def Problem.message : Problem → String
  | emptyServer => "server cannot be empty"
  | zeroTimeout => "timeout must be greater than 0"
  | unknownLevel level => "unknown log level '" ++ level ++ "'"

/-- The first problem of the settings. -/
def problem? (s : Settings) : Option Problem :=
  if (trim s.server).isEmpty then some .emptyServer
  else if s.timeout.isZero then some .zeroTimeout
  else if !levels.contains (lower s.log.level) && !contains s.log.level "=" then
    some (.unknownLevel s.log.level)
  else none

/-- The settings are of use. -/
def validate (s : Settings) : Except Error Unit :=
  match s.problem? with
  | some problem => .error (.config problem.message)
  | none => .ok ()

/-- The level shows what is traced. -/
def isVerbose (level : String) : Bool :=
  let level := lower level
  ["debug", "trace"].contains level || contains level "jetctl=debug" ||
    contains level "jetctl=trace"

/-- How events are logged in effect: tracing raises the level for the tool itself. -/
def effectiveLog (s : Settings) : LogSettings :=
  if s.trace && !isVerbose s.log.level then
    { s.log with level := s.log.level ++ ",jetctl=debug" }
  else s.log

end Settings

end JetStream
