import DurableMqtt.Ack
import DurableMqtt.Duration
import DurableMqtt.Phase

/-!
Why a request failed, and how the failure reads.
-/

namespace DurableMqtt

inductive EngineError where
  | notConnected
  /-- The engine cannot take the request now; sending it again may succeed. -/
  | busy (reason : String)
  /-- The engine will never send this request. -/
  | rejected (reason : String)
  | setup (reason : String)
  | io (reason : String)
deriving DecidableEq, Inhabited

namespace EngineError

def withReason : List (String × (String → EngineError)) :=
  [("busy", busy), ("rejected", rejected), ("setup", setup), ("io", io)]

/-- Whether the same request may go through later. -/
def isTransient : EngineError → Bool
  | busy _ | notConnected => true
  | _ => false

def name : EngineError → String
  | notConnected => "NotConnected"
  | busy _ => "Busy"
  | rejected _ => "Rejected"
  | setup _ => "Setup"
  | io _ => "Io"

def message : EngineError → String
  | notConnected => "Not connected to a broker"
  | busy reason => "Engine busy: " ++ reason
  | rejected reason => "Request rejected by the engine: " ++ reason
  | setup reason => "Engine setup failed: " ++ reason
  | io reason => "Engine I/O error: " ++ reason

end EngineError

/-- The quiet time before the first retry is not shorter than the time after which a connection
counts as stable, so a reset could not be told from an ordinary retry. -/
structure TimingError where
  base : Duration
  stable : Duration
deriving DecidableEq

def TimingError.message (e : TimingError) : String :=
  "Base reconnect quiet time (" ++ e.base.text ++
    ") must be shorter than the stable connection time (" ++ e.stable.text ++ ")"

structure Violation where
  path : String
  code : String
  message : String
deriving DecidableEq, Inhabited

namespace Violation

def topPart (v : Violation) : String := (v.path.splitOn ".").headD ""

def sorted (violations : List Violation) : List Violation :=
  violations.mergeSort fun a b => a.path ≤ b.path

/-- Complaints in words: those about one part follow one another, and each part has its line. -/
def listed (violations : List Violation) : String :=
  let shown (v : Violation) : String := v.path ++ ": " ++ v.message
  let lines := violations.splitBy fun a b => a.topPart == b.topPart
  "\n".intercalate (lines.map fun line => String.join (line.map shown))

end Violation

inductive SessionError where
  /-- The engine refused to send the request. -/
  | refused (kind : RequestKind) (cause : EngineError)
  /-- No acknowledgment came in time; the request is still under way. -/
  | timedOut (kind : RequestKind) (after : Duration)
  /-- The queue was full. A queue that drops the oldest request has stored the new one. -/
  | queueFull (kind : RequestKind)
  | queueDisabled (kind : RequestKind)
  | invalidState (operation : RequestKind) (phase : Phase)
  | invalidArgument (reason : String)
  | timing (cause : TimingError)
  | configuration (violations : List Violation)
  | setup (reason : String)
  | io (reason : String)
deriving DecidableEq

namespace SessionError

def withReason : List (String × (String → SessionError)) :=
  [("invalid_argument", invalidArgument), ("client_setup", setup), ("io", io)]

def ofQueue : List (String × (RequestKind → SessionError)) :=
  [("queue_full", queueFull), ("queue_disabled", queueDisabled)]

def isTimeout : SessionError → Bool
  | timedOut .. => true
  | _ => false

def name : SessionError → String
  | refused kind _ => kind.title
  | timedOut kind _ => kind.title ++ "Timeout"
  | queueFull _ => "QueueFull"
  | queueDisabled _ => "QueueDisabled"
  | invalidState .. => "InvalidState"
  | invalidArgument _ => "InvalidArgument"
  | timing _ => "Backoff"
  | configuration _ => "ConfigError"
  | setup _ => "ClientSetup"
  | io _ => "Io"

def message : SessionError → String
  | refused kind cause => kind.title ++ " error: " ++ cause.message
  | timedOut kind after => kind.title ++ " timed out after " ++ after.text
  | queueFull kind => "Offline queue is full while queueing " ++ kind.text ++ " request"
  | queueDisabled kind => "Offline queueing is disabled, " ++ kind.text ++ " request rejected"
  | invalidState operation phase => "Cannot " ++ operation.text ++ " while " ++ phase.name
  | invalidArgument reason => "Invalid argument: " ++ reason
  | timing cause => "Invalid backoff timing: " ++ cause.message
  | configuration violations =>
    "Configuration error: " ++ Violation.listed violations
  | setup reason => "Client setup error: " ++ reason
  | io reason => "IO error: " ++ reason

end SessionError

end DurableMqtt
