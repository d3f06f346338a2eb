import ServiceDispatch.Form.Disk
import ServiceDispatch.Text.Ascii
import ServiceDispatch.Text.Cut
import ServiceDispatch.Text.Quoted

/-!
# Log configuration

What is logged, in which form and to where. `LogConfig.check` says why a configuration
cannot be put to use: its filter is no filter, or its file cannot be opened.
-/

namespace ServiceDispatch

inductive LogLevel where
  | trace | debug | info | warn | error
  deriving DecidableEq, Repr

namespace LogLevel

def name : LogLevel → String
  | trace => "trace"
  | debug => "debug"
  | info => "info"
  | warn => "warn"
  | error => "error"

/-- The name in capitals. -/
def label (l : LogLevel) : String := l.name.map Char.toUpper

def ofName? (s : String) : Option LogLevel :=
  [trace, debug, info, warn, error].find? fun l => l.name == s

theorem ofName?_name (l : LogLevel) : ofName? l.name = some l := by cases l <;> rfl

end LogLevel

inductive LogFormat where
  | json | plain | pretty | compact
  deriving DecidableEq, Repr

namespace LogFormat

def name : LogFormat → String
  | json => "json"
  | plain => "plain"
  | pretty => "pretty"
  | compact => "compact"

/-- How a format is shown. -/
def describe : LogFormat → String
  | json => "Json"
  | plain => "Plain"
  | pretty => "Pretty"
  | compact => "Compact"

def ofName? (s : String) : Option LogFormat :=
  [json, plain, pretty, compact].find? fun f => f.name == s

theorem ofName?_name (f : LogFormat) : ofName? f.name = some f := by cases f <;> rfl

end LogFormat

/-- When a log file is replaced by a new one. -/
inductive LogRotation where
  | minutely | hourly | daily | never
  deriving DecidableEq, Repr

namespace LogRotation

/-- How a rotation is shown. -/
def describe : LogRotation → String
  | minutely => "Minutely"
  | hourly => "Hourly"
  | daily => "Daily"
  | never => "Never"

def ofName? (s : String) : Option LogRotation :=
  [minutely, hourly, daily, never].find? fun r => Text.lower r.describe == s

end LogRotation

inductive LogOutput where
  | stdout
  | stderr
  | file (path : String)
  | rolling (directory start : String) (rotation : LogRotation)
  deriving DecidableEq, Repr

/-- How an output is shown. -/
def LogOutput.describe : LogOutput → String
  | stdout => "Stdout"
  | stderr => "Stderr"
  | file path => s!"File({Text.quoted path})"
  | rolling directory start rotation => Text.record "RollingFile"
      [("directory", Text.quoted directory), ("prefix", Text.quoted start),
       ("rotation", rotation.describe)]

/-- The part of a configuration file that is about logs. -/
structure LogSettings where
  level : LogLevel := .info
  format : LogFormat := .json
  filter : Option String := none
  deriving DecidableEq, Repr

structure LogConfig where
  level : LogLevel := .info
  format : LogFormat := .json
  output : LogOutput := .stdout
  threadIds : Bool := false
  targets : Bool := true
  fileLine : Bool := false
  spans : Bool := false
  colors : Bool := false
  /-- Directives that replace the level. -/
  filter : Option String := none
  deriving DecidableEq, Repr

/-- Why logs cannot be set up. -/
inductive LogError where
  | invalidFilter (directives : String)
  | file (path : String) (e : DiskError)
  deriving DecidableEq, Repr

namespace LogConfig

def ofSettings (s : LogSettings) : LogConfig :=
  { level := s.level, format := s.format, filter := s.filter }

/-- Levels that a filter may name: the five, off, and numbers up to five. -/
def isFilterLevel (s : String) : Bool :=
  let low := Text.lower s
  low == "off" || (LogLevel.ofName? low).isSome ||
    ["0", "1", "2", "3", "4", "5"].contains low

/-- Whether one directive of a filter is well formed: what follows its last equals sign
is a level. -/
def isDirective (cs : List Char) : Bool :=
  let level := (cs.reverse.takeWhile (· != '=')).reverse
  level.length == cs.length || level.isEmpty || isFilterLevel (String.ofList level)

/-- Whether every directive between the commas is well formed. -/
def isFilter (directives : String) : Bool :=
  (Text.pieces [','] directives.toList).all isDirective

/-- Why the configuration cannot be put to use, given what opening a file says. -/
def check (c : LogConfig) (openFile : String → Option DiskError) : Option LogError :=
  match c.filter.filter fun directives => !isFilter directives with
  | some directives => some (.invalidFilter directives)
  | none => match c.output with
    | .file path => (openFile path).map (.file path)
    | _ => none

end LogConfig

end ServiceDispatch
