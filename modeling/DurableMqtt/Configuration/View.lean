import DurableMqtt.Session.Settings
import DurableMqtt.Text.Outline

/-!
A configuration as a tree of named fields, for all that is to show it.
-/

namespace DurableMqtt

inductive View where
  | text (content : String)
  | number (n : Int)
  | flag (b : Bool)
  | span (d : Duration)
  /-- One of several choices, by its name and by the word that selects it. -/
  | choice (name word : String)
  /-- A name that is made up when it is needed. -/
  | fresh
  | absent
  | present (value : View)
  | record (name : String) (fields : List (String × View))
  | list (items : List View)

namespace View

open Text (Outline)

/-- The tree on several lines, with `name` in the place of a name that is made up. -/
def outline (name : String) : View → Outline
  | text content => .plain (Text.quoted content)
  | number n => .plain (toString n)
  | flag b => .plain (toString b)
  | span d => .plain d.text
  | choice shown _ => .plain shown
  | fresh => .plain (Text.quoted name)
  | absent => .optional none
  | present value => .optional (some (value.outline name))
  | record shown fields =>
    .record shown (fields.attach.map fun ⟨field, _⟩ => (field.1, field.2.outline name))
  | list items => .list (items.attach.map fun ⟨item, _⟩ => item.outline name)
termination_by v => sizeOf v
decreasing_by
  all_goals simp_wf
  · rename_i member
    have := List.sizeOf_lt_of_mem member
    have : sizeOf field.2 < sizeOf field := by
      rw [Prod.mk.sizeOf_spec field.1 field.2]
      omega
    omega
  · rename_i member
    have := List.sizeOf_lt_of_mem member
    omega

def number64 (n : UInt64) : View := number n.toNat

def optional {α : Type} (view : α → View) : Option α → View
  | none => absent
  | some a => present (view a)

end View

open View

def ClientId.view : ClientId → View
  | given content => .text content
  | generated => .fresh

/-- The name under which a client connects, given one that is made up for it. -/
def ClientId.resolve (fresh : String) : ClientId → String
  | given content => content
  | generated => fresh

def EndpointConfig.view (e : EndpointConfig) : View :=
  record "EndpointConfig"
    [("host", text e.host),
     ("port", number e.port.toNat),
     ("client_id", e.clientId.view),
     ("clean_session", flag e.cleanSession),
     ("keep_alive", number64 e.keepAlive),
     ("request_channel_capacity", number64 e.requestCapacity),
     ("callback_workers", number64 e.callbackWorkers)]

def CredentialsConfig.view (c : CredentialsConfig) : View :=
  record "CredentialsConfig" [("username", text c.username), ("password", optional text c.password)]

def TlsConfig.view (t : TlsConfig) : View :=
  record "TlsConfig"
    [("ca_cert_path", optional text t.caCertificate),
     ("client_cert_path", optional text t.clientCertificate),
     ("client_key_path", optional text t.clientKey)]

def LastWillConfig.view (w : LastWillConfig) : View :=
  record "LastWillConfig"
    [("topic", text w.topic),
     ("payload", text w.payload),
     ("qos", number w.qosLevel.toNat),
     ("retain", flag w.retain)]

def BackoffConfig.view (b : BackoffConfig) : View :=
  record "BackoffConfig"
    [("base_reconnect_secs", number64 b.base),
     ("max_reconnect_secs", number64 b.max),
     ("stable_connection_secs", number64 b.stable)]

def QueueConfig.view (q : QueueConfig) : View :=
  record "OfflineQueueConfig"
    [("capacity", number q.capacity),
     ("drop_policy", choice q.dropPolicy.name q.dropPolicy.word)]

def PacingConfig.view (p : PacingConfig) : View :=
  record "SessionConfig"
    [("draining_interval_ms", number64 p.drainingInterval),
     ("connect_disconnect_timeout_secs", number64 p.connectDisconnectTimeout),
     ("operation_timeout_secs", number64 p.operationTimeout)]

def TransportConfig.view (t : TransportConfig) : View :=
  record "Config"
    [("endpoint", t.endpoint.view),
     ("credentials", optional CredentialsConfig.view t.credentials),
     ("tls", optional TlsConfig.view t.tls),
     ("last_will", optional LastWillConfig.view t.lastWill),
     ("backoff", t.backoff.view),
     ("offline_queue", t.offlineQueue.view),
     ("session", t.pacing.view)]

def LogFormat.view : LogFormat → View
  | compact => choice "Compact" "compact"
  | pretty => choice "Pretty" "pretty"
  | json => choice "Json" "json"

def ConsoleConfig.view (c : ConsoleConfig) : View :=
  record "ConsoleConfig"
    [("enabled", flag c.enabled),
     ("format", c.format.view),
     ("show_target", flag c.showTarget),
     ("show_thread_names", flag c.showThreadNames),
     ("ansi_colors", flag c.ansiColors)]

def JournalConfig.view (j : JournalConfig) : View :=
  record "JournaldConfig" [("enabled", flag j.enabled), ("identifier", text j.identifier)]

def LogConfig.view (c : LogConfig) : View :=
  record "LoggerConfig"
    [("level", text c.level),
     ("console", optional ConsoleConfig.view c.console),
     ("journald", optional JournalConfig.view c.journal)]

def SubscriptionConfig.view (s : SubscriptionConfig) : View :=
  record "TopicConfig" [("topic", text s.topic), ("qos", number s.qos.level.toNat)]

def DaemonConfig.view (d : DaemonConfig) : View :=
  record "DaemonConfig"
    [("status_topic", optional text d.statusTopic),
     ("subscriptions", list (d.subscriptions.map SubscriptionConfig.view))]

def Config.view (c : Config) : View :=
  record "Config"
    [("logger", c.log.view), ("transport", c.transport.view), ("daemon", c.daemon.view)]

def Timing.view (t : Timing) : View := list [span t.base, span t.max, span t.stable]

def Settings.view (s : Settings) : View :=
  record "CoreSettings"
    [("draining_interval", span s.drainingInterval),
     ("connect_disconnect_timeout", span s.connectDisconnectTimeout),
     ("operation_timeout", span s.operationTimeout),
     ("keep_alive", span s.keepAlive),
     ("callback_workers", number s.callbackWorkers),
     ("backoff", s.timing.view),
     ("queue_capacity", number s.queueCapacity),
     ("drop_policy", text s.dropPolicy.name)]

def TransportConfig.derived (t : TransportConfig) : View :=
  record "Derived"
    [("keep_alive", span (.ofSeconds t.endpoint.keepAlive)),
     ("draining_interval", span (.ofMilliseconds t.pacing.drainingInterval)),
     ("connect_disconnect_timeout", span (.ofSeconds t.pacing.connectDisconnectTimeout)),
     ("operation_timeout", span (.ofSeconds t.pacing.operationTimeout)),
     ("will_qos", optional (fun w => number w.qos.level.toNat) t.lastWill),
     ("tls_enabled", optional (fun c => flag c.isEnabled) t.tls),
     ("tls_client_auth", optional (fun c => flag c.hasClientAuth) t.tls),
     ("timing",
       match t.backoff.timing with
       | .ok timing => timing.view
       | .error fault => text fault.message)]

end DurableMqtt
