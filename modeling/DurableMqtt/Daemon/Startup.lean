import DurableMqtt.Configuration.Loading
import DurableMqtt.Configuration.View
import DurableMqtt.Daemon.Console
import DurableMqtt.Network.Client
import DurableMqtt.Session.Api

/-!
How the daemon comes up: it finds its configuration, sets up its log and makes its session. Each
of these may fail, and each failure is printed and ends the daemon.
-/

namespace DurableMqtt.Daemon

def failureCode : UInt8 := 1

/-- Prints lines on the way, and may end early with a code. -/
abbrev Startup := ExceptT UInt8 (StateM (List Line))

def print (line : Line) : Startup Unit := modify (· ++ [line])

def fail {α : Type} (text : String) : Startup α := do
  print (notice .error text)
  throw failureCode

structure Surroundings where
  files : FileLookup
  /-- The path of the configuration, if one is set. -/
  setPath : Option String
  /-- Why the system journal cannot be written, if it cannot. -/
  journalFault : Option String := none
  /-- A name for a client that is given none. -/
  freshName : String

variable (around : Surroundings)

def findConfig : Startup Config := do
  let path ←
    match Config.locate around.files around.setPath with
    | .error fault => fail fault.message
    | .ok (.chosen path) =>
      print (notice .info ("Using config from " ++ Config.variableName ++ ": " ++ path))
      pure path
    | .ok .usual =>
      print (notice .info ("Using default config path: " ++ Config.usualPath))
      pure Config.usualPath
  print (notice .info ("Loading configuration from: " ++ path))
  match Config.load around.files path with
  | .error fault => fail fault.message
  | .ok config =>
    print (notice .info ("Successfully loaded config from: " ++ path))
    pure config

inductive LogFault where
  | noOutput
  /-- Only the journal was asked for. -/
  | noJournal
deriving DecidableEq

def LogFault.message : LogFault → String
  | noOutput => "No logging layers were configured or successfully initialized"
  | noJournal => "Failed to initialize journald logger and console output is disabled"

/-- The notices printed while the log is set up, and whether it is. A journal that cannot be
written is no failure while there is a console. -/
def openLog (journalFault : Option String) (config : LogConfig) :
    List Line × Except LogFault Unit :=
  match config.journal.filter (·.enabled), journalFault with
  | none, _ =>
    if config.consoleEnabled then ([], .ok ())
    else
      ([notice .warn "No logging layers were initialized. Please check your configuration."],
        .error .noOutput)
  | some journal, none =>
    ([notice .info
        ("Systemd journald logger initialized with identifier: " ++ journal.identifier)],
      .ok ())
  | some _, some reason =>
    if config.consoleEnabled then
      ([notice .warn ("Failed to initialize systemd journald logger: " ++ reason)], .ok ())
    else ([], .error .noJournal)

def setUpLog (config : LogConfig) : Startup Unit := do
  let (notices, result) := openLog around.journalFault config
  notices.forM print
  match result with
  | .ok () => pure ()
  | .error fault => fail ("Failed to init Log Manager: " ++ fault.message)

def log (config : LogConfig) (record : Record) : Startup Unit :=
  (record.line? config).forM print

def version : String := "0.3.0"

structure Started where
  config : Config
  client : Network.Client
  session : Session

def require {α : Type} (config : LogConfig) : Except SessionError α → Startup α
  | .ok a => pure a
  | .error fault => do
    log config { level := .error, message := "Failed to create MQTT session: " ++ fault.message }
    throw failureCode

def clientRecord (fresh : String) (endpoint : EndpointConfig) : Record where
  level := .info
  target := "tidewatch_mqtt::client"
  message :=
    "MQTT engine configured for " ++ endpoint.host ++ ":" ++ toString endpoint.port.toNat
      ++ " as " ++ endpoint.clientId.resolve fresh

def start : Startup Started := do
  let config ← findConfig around
  setUpLog around config.log
  let log := log config.log
  log { level := .info, message := "Starting tidewatch version " ++ version ++ "..." }
  log { level := .info, message := "Log level: " ++ config.log.level }
  log { level := .debug, message := (config.transport.view.outline around.freshName).text }
  let client ← require config.log (Network.Client.ofConfig around.files config.transport)
  log (clientRecord around.freshName config.transport.endpoint)
  let settings ← require config.log (Settings.ofConfig around.files config.transport)
  pure { config, client := client.bind, session := .start settings }

end DurableMqtt.Daemon
