import DurableMqtt.Backoff
import DurableMqtt.Qos
import DurableMqtt.Queue

/-!
What can be configured about a session and its connection to a broker, with the values that hold
where nothing is said.
-/

namespace DurableMqtt

inductive ClientId where
  | given (text : String)
  /-- A fresh random name of 36 characters, which no other client has. -/
  | generated
deriving DecidableEq, Inhabited

structure EndpointConfig where
  host : String := "localhost"
  port : UInt16 := 1883
  clientId : ClientId := .generated
  cleanSession : Bool := true
  /-- In seconds. -/
  keepAlive : UInt64 := 30
  /-- How many requests may wait to be written. -/
  requestCapacity : UInt64 := 64
  callbackWorkers : UInt64 := 4
deriving DecidableEq, Inhabited

structure CredentialsConfig where
  username : String := ""
  password : Option String := none
deriving DecidableEq, Inhabited

structure TlsConfig where
  caCertificate : Option String := none
  clientCertificate : Option String := none
  clientKey : Option String := none
deriving DecidableEq, Inhabited

namespace TlsConfig

def isEnabled (t : TlsConfig) : Bool := t.caCertificate.isSome

def hasClientAuth (t : TlsConfig) : Bool := t.clientCertificate.isSome && t.clientKey.isSome

def paths (t : TlsConfig) : List String :=
  [t.caCertificate, t.clientCertificate, t.clientKey].filterMap id

end TlsConfig

/-- The message that the broker publishes when the session dies. -/
structure LastWillConfig where
  topic : String := ""
  payload : String := ""
  /-- A level as written, which may not be supported. -/
  qosLevel : UInt8 := 0
  retain : Bool := false
deriving DecidableEq, Inhabited

/-- An unsupported level counts as the lowest one. -/
def LastWillConfig.qos (w : LastWillConfig) : Qos := (Qos.ofLevel? w.qosLevel).getD .atMostOnce

/-- Bounds of the quiet time between reconnect attempts, in seconds. -/
structure BackoffConfig where
  base : UInt64 := 1
  max : UInt64 := 32
  stable : UInt64 := 20
deriving DecidableEq, Inhabited

def BackoffConfig.timing (b : BackoffConfig) : Except TimingError Timing :=
  Timing.make (.ofSeconds b.base) (.ofSeconds b.max) (.ofSeconds b.stable)

structure QueueConfig where
  capacity : Int := 20
  dropPolicy : DropPolicy := .dropNewest
deriving DecidableEq, Inhabited

structure PacingConfig where
  /-- In milliseconds. -/
  drainingInterval : UInt64 := 500
  /-- In seconds, as is the one below. -/
  connectDisconnectTimeout : UInt64 := 30
  operationTimeout : UInt64 := 5
deriving DecidableEq, Inhabited

structure TransportConfig where
  endpoint : EndpointConfig := {}
  credentials : Option CredentialsConfig := none
  tls : Option TlsConfig := none
  lastWill : Option LastWillConfig := none
  backoff : BackoffConfig := {}
  offlineQueue : QueueConfig := {}
  pacing : PacingConfig := {}
deriving DecidableEq, Inhabited

end DurableMqtt
