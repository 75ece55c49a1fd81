import DurableMqtt.Configuration.Checks
import DurableMqtt.Configuration.Reading

/-!
Finding, reading and checking the configuration of the daemon.
-/

namespace DurableMqtt

inductive ConfigFault where
  /-- No path is set and the usual one leads nowhere. -/
  | nowhere
  | absent (path : String)
  | unreadable (reason : String)
  | malformed
  | invalid (violations : List Violation)

namespace Config

def variableName : String := "TIDEWATCH_CONFIG"

def usualPath : String := "/etc/tidewatch/config.toml"

def ofText (files : FileLookup) (text : String) : Except ConfigFault Config :=
  match Configuration.ofText? Config.read? text with
  | none => .error .malformed
  | some config =>
    let violations := config.violations files
    if violations.isEmpty then .ok config else .error (.invalid violations)

def load (files : FileLookup) (path : String) : Except ConfigFault Config :=
  match files path with
  | none => .error (.absent path)
  | some _ =>
    match files.readText path with
    | .error reason => .error (.unreadable reason)
    | .ok text => ofText files text

inductive Location where
  | chosen (path : String)
  | usual
deriving DecidableEq

def Location.path : Location → String
  | chosen path => path
  | usual => usualPath

/-- A path that is set counts even if it leads nowhere. -/
def locate (files : FileLookup) (setPath : Option String) : Except ConfigFault Location :=
  match setPath with
  | some path => .ok (.chosen path)
  | none => if (files usualPath).isSome then .ok .usual else .error .nowhere

def find (files : FileLookup) (setPath : Option String) : Except ConfigFault Config := do
  load files (← locate files setPath).path

end Config

/-- How a fault reads. What is wrong with a malformed text is not said. -/
def ConfigFault.message : ConfigFault → String
  | nowhere =>
    "Configuration error: No configuration file found, set " ++ Config.variableName ++
      " or create " ++ Config.usualPath
  | absent path => "Configuration error: Configuration file does not exist: " ++ path
  | unreadable reason => "IO error while reading configuration: " ++ reason
  | malformed => "Parse error while reading configuration:"
  | invalid violations => "Validation error: " ++ Violation.listed violations

end DurableMqtt
