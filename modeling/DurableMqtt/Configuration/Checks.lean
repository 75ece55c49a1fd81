import DurableMqtt.Configuration.Daemon
import DurableMqtt.Files

/-!
What a configuration has to satisfy, beyond being readable, before anything is done with it. Every
complaint is collected. Where fields have to agree with one another, they are compared only once
each is in order by itself.
-/

namespace DurableMqtt

def Violation.under (part : String) (v : Violation) : Violation :=
  { v with path := part ++ "." ++ v.path }

def Violation.underEach {α : Type} (part : String) (check : α → List Violation) (items : List α) :
    List Violation :=
  (items.zipIdx.map fun (item, i) =>
    (check item).map (Violation.under (part ++ "[" ++ toString i ++ "]"))).flatten

def lengthAtLeastOne (path text message : String) : List Violation :=
  if text.isEmpty then [⟨path, "length", message⟩] else []

def lengthWithin (path : String) (length most : Nat) (message : String) : List Violation :=
  if 1 ≤ length ∧ length ≤ most then [] else [⟨path, "length", message⟩]

def rangeAtLeast (path : String) (least n : Nat) (message : String) : List Violation :=
  if least ≤ n then [] else [⟨path, "range", message⟩]

def rangeWithin (path : String) (least most n : Nat) (message : String) : List Violation :=
  if least ≤ n ∧ n ≤ most then [] else [⟨path, "range", message⟩]

def ClientId.length : ClientId → Nat
  | given text => text.length
  | generated => 36

def EndpointConfig.violations (e : EndpointConfig) : List Violation :=
  lengthWithin "host" e.host.length 255 "Host must be between 1 and 255 characters"
    ++ rangeWithin "port" 1 65535 e.port.toNat "Port must be between 1 and 65535"
    ++ lengthWithin "client_id" e.clientId.length 36 "Client ID must be between 1 and 36 characters"
    ++ rangeWithin "keep_alive" 5 3600 e.keepAlive.toNat
      "Keep alive must be between 5 and 3600 seconds"
    ++ rangeWithin "request_channel_capacity" 1 1024 e.requestCapacity.toNat
      "Request channel capacity must be between 1 and 1024"
    ++ rangeWithin "callback_workers" 1 64 e.callbackWorkers.toNat
      "Callback workers must be between 1 and 64"

def CredentialsConfig.violations (c : CredentialsConfig) : List Violation :=
  lengthAtLeastOne "username" c.username "Username must not be empty"

/-- A path that is not given needs no file. -/
def pathViolations (files : FileLookup) (field : String) (path : Option String)
    (message : String) : List Violation :=
  match path.map files.check with
  | some (.error fault) => [⟨field, fault.code, message⟩]
  | _ => []

def TlsConfig.violations (files : FileLookup) (t : TlsConfig) : List Violation :=
  pathViolations files "ca_cert_path" t.caCertificate "CA certificate file does not exist"
    ++ pathViolations files "client_cert_path" t.clientCertificate
      "Client certificate file does not exist"
    ++ pathViolations files "client_key_path" t.clientKey "Client key file does not exist"

inductive TlsFault where
  | missingCa
  | path (fault : PathFault)
  /-- A certificate without its key, or a key without its certificate. -/
  | incompleteClientAuth
deriving DecidableEq

namespace TlsFault

def code : TlsFault → String
  | missingCa => "missing_ca_cert"
  | path fault => fault.code
  | incompleteClientAuth => "incomplete_client_auth"

def message : TlsFault → String
  | missingCa => "CA certificate path is required"
  | path fault => fault.message
  | incompleteClientAuth => "Both client certificate and key must be provided or neither"

end TlsFault

/-- Whether the files go together. The first fault counts. -/
def TlsConfig.combination (files : FileLookup) (t : TlsConfig) : Except TlsFault Unit := do
  let usable (path : String) := (files.check path).mapError TlsFault.path
  match t.caCertificate with
  | none => .error .missingCa
  | some ca =>
    usable ca
    match t.clientCertificate, t.clientKey with
    | some certificate, some key =>
      usable certificate
      usable key
    | none, none => .ok ()
    | _, _ => .error .incompleteClientAuth

def LastWillConfig.violations (w : LastWillConfig) : List Violation :=
  lengthAtLeastOne "topic" w.topic "Last will topic must not be empty"
    ++ rangeWithin "qos" 0 1 w.qosLevel.toNat "Last will QoS must be 0 or 1"

namespace BackoffConfig

def fieldViolations (b : BackoffConfig) : List Violation :=
  rangeAtLeast "base_reconnect_secs" 1 b.base.toNat
      "Base reconnect time must be at least 1 second"
    ++ rangeAtLeast "max_reconnect_secs" 1 b.max.toNat
      "Max reconnect time must be at least 1 second"

def boundViolations (b : BackoffConfig) : List Violation :=
  if b.stable ≤ b.base then
    [⟨"__all__", "base_not_below_stable",
      "Base reconnect time (" ++ toString b.base ++
        "s) must be less than stable connection time (" ++ toString b.stable ++ "s)"⟩]
  else if b.max < b.base then
    [⟨"__all__", "max_below_base",
      "Max reconnect time must not be less than the base reconnect time"⟩]
  else []

def violations (b : BackoffConfig) : List Violation :=
  if b.fieldViolations.isEmpty then b.boundViolations else b.fieldViolations

end BackoffConfig

def PacingConfig.violations (p : PacingConfig) : List Violation :=
  rangeWithin "draining_interval_ms" 1 60000 p.drainingInterval.toNat
      "Draining interval must be between 1 and 60000 milliseconds"
    ++ rangeWithin "connect_disconnect_timeout_secs" 1 300 p.connectDisconnectTimeout.toNat
      "Connect/disconnect timeout must be between 1 and 300 seconds"
    ++ rangeWithin "operation_timeout_secs" 1 300 p.operationTimeout.toNat
      "Operation timeout must be between 1 and 300 seconds"

def optionalViolations {α : Type} (part : String) (check : α → List Violation) :
    Option α → List Violation
  | none => []
  | some a => (check a).map (Violation.under part)

def TransportConfig.violations (files : FileLookup) (t : TransportConfig) : List Violation :=
  t.endpoint.violations.map (Violation.under "endpoint")
    ++ optionalViolations "credentials" CredentialsConfig.violations t.credentials
    ++ optionalViolations "tls" (TlsConfig.violations files) t.tls
    ++ optionalViolations "last_will" LastWillConfig.violations t.lastWill
    ++ t.backoff.violations.map (Violation.under "backoff")
    ++ t.pacing.violations.map (Violation.under "session")

def JournalConfig.violations (j : JournalConfig) : List Violation :=
  lengthAtLeastOne "identifier" j.identifier "Journald identifier must not be empty"

def LogConfig.violations (c : LogConfig) : List Violation :=
  (if (LogLevel.ofText? c.level).isSome then []
    else [⟨"level", "invalid_log_level", "Invalid log level: " ++ c.level⟩])
    ++ optionalViolations "journald" JournalConfig.violations c.journal

def SubscriptionConfig.violations (s : SubscriptionConfig) : List Violation :=
  lengthAtLeastOne "topic" s.topic "Subscription topic must not be empty"

def DaemonConfig.violations (d : DaemonConfig) : List Violation :=
  (d.statusTopic.map fun topic =>
      lengthAtLeastOne "status_topic" topic "Status topic must not be empty").getD []
    ++ Violation.underEach "subscriptions" SubscriptionConfig.violations d.subscriptions

def Config.violations (files : FileLookup) (c : Config) : List Violation :=
  c.log.violations.map (Violation.under "logger")
    ++ (c.transport.violations files).map (Violation.under "transport")
    ++ c.daemon.violations.map (Violation.under "daemon")

end DurableMqtt
