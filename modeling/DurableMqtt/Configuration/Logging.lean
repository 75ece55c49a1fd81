/-!
What can be configured about the log.
-/

namespace DurableMqtt

inductive LogFormat where
  | compact
  | pretty
  | json
deriving DecidableEq, Inhabited

def LogFormat.name : LogFormat → String
  | compact => "compact"
  | pretty => "pretty"
  | json => "json"

/-- Levels from the most to the least talkative. -/
inductive LogLevel where
  | trace
  | debug
  | info
  | warn
  | error
deriving DecidableEq, Inhabited

namespace LogLevel

def name : LogLevel → String
  | trace => "trace"
  | debug => "debug"
  | info => "info"
  | warn => "warn"
  | error => "error"

def all : List LogLevel := [trace, debug, info, warn, error]

def ofText? (text : String) : Option LogLevel :=
  all.find? fun level => level.name == text.map Char.toLower

def severity : LogLevel → Nat
  | trace => 0
  | debug => 1
  | info => 2
  | warn => 3
  | error => 4

end LogLevel

structure ConsoleConfig where
  enabled : Bool := true
  format : LogFormat := .compact
  showTarget : Bool := false
  showThreadNames : Bool := true
  ansiColors : Bool := true
deriving DecidableEq, Inhabited

structure JournalConfig where
  enabled : Bool := false
  identifier : String := "tidewatch"
deriving DecidableEq, Inhabited

structure LogConfig where
  /-- The level as written. -/
  level : String := "info"
  console : Option ConsoleConfig := some {}
  journal : Option JournalConfig := none
deriving DecidableEq, Inhabited

namespace LogConfig

def consoleEnabled (c : LogConfig) : Bool := c.console.any (·.enabled)

end LogConfig

end DurableMqtt
