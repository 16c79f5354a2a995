import BeanContainer.Config.Environment

/-!
# Logging

How much is logged and in which form. The settings come from variables of the process or from
properties; variables that make no sense are ignored, properties that make none are errors.

`Notice` is a line that the container itself logs.
-/

namespace BeanContainer

/-- The levels of log lines, from the gravest on. -/
inductive LogLevel where
  | error
  | warn
  | info
  | debug
  | trace
  deriving DecidableEq, Repr

namespace LogLevel

def name : LogLevel → String
  | error => "ERROR"
  | warn => "WARN"
  | info => "INFO"
  | debug => "DEBUG"
  | trace => "TRACE"

def all : List LogLevel := [error, warn, info, debug, trace]

/-- The number that a text of digits, perhaps after a plus sign, stands for. -/
def number? (s : String) : Option Nat :=
  let ds := match s.toList with
    | '+' :: ds => ds
    | ds => ds
  if ds.isEmpty || !ds.all Binary64.isDigit then none else some (Binary64.digitsValue ds)

/-- Reads a level: its name in any case of letters, also `warning`, or its number from one on. -/
def ofText? (s : String) : Option LogLevel :=
  let s := Text.trim s
  if Text.equalIgnoringAsciiCase s "warning" then some warn
  else match all.find? fun l => Text.equalIgnoringAsciiCase s l.name with
    | some l => some l
    | none =>
      match number? s with
      | some (n + 1) => all[n]?
      | _ => none

/-- Reads a level, or says that the text is none. -/
def read (s : String) : Except ContainerError LogLevel :=
  match ofText? s with
  | some l => .ok l
  | none => .error (.configuration (.unknownLogLevel (Text.trim s)))

end LogLevel

inductive LogFormat where
  | compact
  | full
  | json
  | pretty
  deriving DecidableEq, Repr

namespace LogFormat

def name : LogFormat → String
  | compact => "compact"
  | full => "full"
  | json => "json"
  | pretty => "pretty"

def ofText? (s : String) : Option LogFormat :=
  [compact, full, json, pretty].find? fun f => Text.equalIgnoringAsciiCase f.name (Text.trim s)

def read (s : String) : Except ContainerError LogFormat :=
  match ofText? s with
  | some f => .ok f
  | none => .error (.configuration (.unknownLogFormat (Text.trim s)))

end LogFormat

/-- The settings of logging. -/
structure LoggingConfig where
  level : LogLevel := .info
  format : LogFormat := .compact
  showTarget : Bool := false
  showThreadIds : Bool := false
  /-- Directives that go before the level. -/
  filter : Option String := none
  deriving DecidableEq, Repr

namespace LoggingConfig

/-- The settings that variables of the process make. -/
def ofVariables (lookup : String → Option String) : LoggingConfig :=
  { level := ((lookup "LOG_LEVEL").bind LogLevel.ofText?).getD .info
    format := ((lookup "LOG_FORMAT").bind LogFormat.ofText?).getD .compact
    filter := lookup "RUST_LOG" }

/-- The settings that properties make. -/
def ofEnvironment (e : Environment) : Except ContainerError LoggingConfig := do
  let level ← match e.text? "logging.level" with
    | some s => LogLevel.read s
    | none => .ok .info
  let format ← match e.text? "logging.format" with
    | some s => LogFormat.read s
    | none => .ok .compact
  return {
    level, format
    showTarget := e.boolOr "logging.show-target" false
    showThreadIds := e.boolOr "logging.show-thread-ids" false
    filter := e.text? "logging.filter" }

/-- Installing the settings in a process that has a recipient of log lines already. -/
def installAgain (_ : LoggingConfig) : ContainerError :=
  .loggingInitFailed "a global default trace dispatcher has already been set"

end LoggingConfig

/-- A line that the container logs. -/
structure Notice where
  level : LogLevel
  text : String
  deriving DecidableEq, Repr

def Notice.shown (n : Notice) : String := n.level.name ++ ": " ++ n.text

end BeanContainer
