import DurableMqtt.Configuration.Checks
import DurableMqtt.Duration
import DurableMqtt.Error

/-!
How a client presents itself to its broker.
-/

namespace DurableMqtt.Network

structure Credentials where
  username : String
  password : String
deriving DecidableEq, Inhabited

structure LastWill where
  topic : String
  payload : ByteArray
  qos : Qos
  retain : Bool
deriving DecidableEq, Inhabited

structure ClientAuth where
  certificate : ByteArray
  key : ByteArray
deriving DecidableEq, Inhabited

inductive Transport where
  | tcp
  | tls (ca : ByteArray) (clientAuth : Option ClientAuth)
deriving DecidableEq, Inhabited

structure Options where
  clientId : ClientId
  host : String
  port : UInt16
  keepAlive : Duration := ⟨60000000000, by decide⟩
  cleanSession : Bool := true
  credentials : Option Credentials := none
  lastWill : Option LastWill := none
  transport : Transport := .tcp
deriving Inhabited

end DurableMqtt.Network

namespace DurableMqtt

def ClientId.isUsable : ClientId → Bool
  | given text => !text.isEmpty && !text.startsWith " "
  | generated => true

def ClientId.check (id : ClientId) : Except SessionError Unit :=
  match id with
  | given text =>
    if id.isUsable then .ok () else .error (.setup ("Invalid client id " ++ Text.quoted text))
  | generated => .ok ()

def TlsConfig.transport (files : FileLookup) (t : TlsConfig) :
    Except SessionError Network.Transport := do
  (t.combination files).mapError fun fault =>
    .setup ("Invalid TLS configuration: " ++ fault.message)
  let content (path : String) := (files.read path).mapError SessionError.io
  match t.caCertificate with
  | none => .error (.setup "TLS file path is not set")
  | some ca =>
    let ca ← content ca
    match t.clientCertificate, t.clientKey with
    | some certificate, some key =>
      return .tls ca (some ⟨← content certificate, ← content key⟩)
    | _, _ => return .tls ca none

namespace Network

def Options.ofConfig (files : FileLookup) (config : TransportConfig) :
    Except SessionError Options := do
  config.endpoint.clientId.check
  let transport ←
    match config.tls with
    | some tls => if tls.isEnabled then tls.transport files else pure .tcp
    | none => pure .tcp
  pure
    { clientId := config.endpoint.clientId
      host := config.endpoint.host
      port := config.endpoint.port
      keepAlive := .ofSeconds config.endpoint.keepAlive
      cleanSession := config.endpoint.cleanSession
      credentials := config.credentials.map fun c => ⟨c.username, c.password.getD ""⟩
      lastWill := config.lastWill.map fun w => ⟨w.topic, w.payload.toUTF8, w.qos, w.retain⟩
      transport }

end Network

end DurableMqtt
