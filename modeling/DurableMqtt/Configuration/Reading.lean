import DurableMqtt.Configuration.Daemon
import DurableMqtt.Toml.Document
import DurableMqtt.Toml.Fields

/-!
Configurations written in TOML. Reading fails on a value of the wrong type or out of the range of
its field; whether the values make sense together is checked afterwards.
-/

namespace DurableMqtt

open Toml (Fields Value)

def readUInt8? (v : Value) : Option UInt8 := UInt8.ofNat <$> v.natural? UInt8.size

def readUInt16? (v : Value) : Option UInt16 := UInt16.ofNat <$> v.natural? UInt16.size

def readUInt64? (v : Value) : Option UInt64 := UInt64.ofNat <$> v.natural? UInt64.size

def EndpointConfig.read? (v : Value) : Option EndpointConfig := do
  let f ← v.fields?
  let d : EndpointConfig := {}
  some
    { host := ← f.read? 0 "host" d.host Value.text?
      port := ← f.read? 1 "port" d.port readUInt16?
      clientId := ← f.read? 2 "client_id" d.clientId fun v => .given <$> v.text?
      cleanSession := ← f.read? 3 "clean_session" d.cleanSession Value.flag?
      keepAlive := ← f.read? 4 "keep_alive" d.keepAlive readUInt64?
      requestCapacity := ← f.read? 5 "request_channel_capacity" d.requestCapacity readUInt64?
      callbackWorkers := ← f.read? 6 "callback_workers" d.callbackWorkers readUInt64? }

def CredentialsConfig.read? (v : Value) : Option CredentialsConfig := do
  let f ← v.fields?
  some
    { username := ← f.read? 0 "username" "" Value.text?
      password := ← f.read? 1 "password" none fun v => some <$> v.text? }

def TlsConfig.read? (v : Value) : Option TlsConfig := do
  let f ← v.fields?
  let path (v : Value) := some <$> v.text?
  some
    { caCertificate := ← f.read? 0 "ca_cert_path" none path
      clientCertificate := ← f.read? 1 "client_cert_path" none path
      clientKey := ← f.read? 2 "client_key_path" none path }

def LastWillConfig.read? (v : Value) : Option LastWillConfig := do
  let f ← v.fields?
  some
    { topic := ← f.read? 0 "topic" "" Value.text?
      payload := ← f.read? 1 "payload" "" Value.text?
      qosLevel := ← f.read? 2 "qos" 0 readUInt8?
      retain := ← f.read? 3 "retain" false Value.flag? }

def BackoffConfig.read? (v : Value) : Option BackoffConfig := do
  let f ← v.fields?
  let d : BackoffConfig := {}
  some
    { base := ← f.read? 0 "base_reconnect_secs" d.base readUInt64?
      max := ← f.read? 1 "max_reconnect_secs" d.max readUInt64?
      stable := ← f.read? 2 "stable_connection_secs" d.stable readUInt64? }

def QueueConfig.read? (v : Value) : Option QueueConfig := do
  let f ← v.fields?
  let d : QueueConfig := {}
  some
    { capacity := ← f.read? 0 "capacity" d.capacity Value.integer?
      dropPolicy := ← f.read? 1 "drop_policy" d.dropPolicy (Value.choice? DropPolicy.choices) }

def PacingConfig.read? (v : Value) : Option PacingConfig := do
  let f ← v.fields?
  let d : PacingConfig := {}
  some
    { drainingInterval := ← f.read? 0 "draining_interval_ms" d.drainingInterval readUInt64?
      connectDisconnectTimeout :=
        ← f.read? 1 "connect_disconnect_timeout_secs" d.connectDisconnectTimeout readUInt64?
      operationTimeout := ← f.read? 2 "operation_timeout_secs" d.operationTimeout readUInt64? }

def TransportConfig.read? (v : Value) : Option TransportConfig := do
  let f ← v.fields?
  some
    { endpoint := ← f.read? 0 "endpoint" {} EndpointConfig.read?
      credentials := ← f.read? 1 "credentials" none fun v => some <$> CredentialsConfig.read? v
      tls := ← f.read? 2 "tls" none fun v => some <$> TlsConfig.read? v
      lastWill := ← f.read? 3 "last_will" none fun v => some <$> LastWillConfig.read? v
      backoff := ← f.read? 4 "backoff" {} BackoffConfig.read?
      offlineQueue := ← f.read? 5 "offline_queue" {} QueueConfig.read?
      pacing := ← f.read? 6 "session" {} PacingConfig.read? }

def LogFormat.choices : List (String × LogFormat) :=
  [compact, pretty, json].map fun format => (format.name, format)

def ConsoleConfig.read? (v : Value) : Option ConsoleConfig := do
  let f ← v.fields?
  let d : ConsoleConfig := {}
  some
    { enabled := ← f.read? 0 "enabled" d.enabled Value.flag?
      format := ← f.read? 1 "format" d.format (Value.choice? LogFormat.choices)
      showTarget := ← f.read? 2 "show_target" d.showTarget Value.flag?
      showThreadNames := ← f.read? 3 "show_thread_names" d.showThreadNames Value.flag?
      ansiColors := ← f.read? 4 "ansi_colors" d.ansiColors Value.flag? }

def JournalConfig.read? (v : Value) : Option JournalConfig := do
  let f ← v.fields?
  let d : JournalConfig := {}
  some
    { enabled := ← f.read? 0 "enabled" d.enabled Value.flag?
      identifier := ← f.read? 1 "identifier" d.identifier Value.text? }

def LogConfig.read? (v : Value) : Option LogConfig := do
  let f ← v.fields?
  let d : LogConfig := {}
  some
    { level := ← f.read? 0 "level" d.level Value.text?
      console := ← f.read? 1 "console" d.console fun v => some <$> ConsoleConfig.read? v
      journal := ← f.read? 2 "journald" d.journal fun v => some <$> JournalConfig.read? v }

def readQos? (v : Value) : Option Qos := do
  Qos.ofLevel? (← readUInt8? v)

def SubscriptionConfig.read? (v : Value) : Option SubscriptionConfig := do
  let f ← v.fields?
  some
    { topic := ← f.required? 0 "topic" Value.text?
      qos := ← f.read? 1 "qos" .atMostOnce readQos? }

def DaemonConfig.read? (v : Value) : Option DaemonConfig := do
  let f ← v.fields?
  some
    { statusTopic := ← f.read? 0 "status_topic" none fun v => some <$> v.text?
      subscriptions :=
        ← f.read? 1 "subscriptions" [] fun v => do (← v.list?).mapM SubscriptionConfig.read? }

def Config.read? (v : Value) : Option Config := do
  let f ← v.fields?
  some
    { log := ← f.read? 0 "logger" {} LogConfig.read?
      transport := ← f.read? 1 "transport" {} TransportConfig.read?
      daemon := ← f.read? 2 "daemon" {} DaemonConfig.read? }

namespace Configuration

variable {α : Type}

def ofText? (read : Value → Option α) (text : String) : Option α := do
  read (.table (← Toml.read? text))

end Configuration

end DurableMqtt
