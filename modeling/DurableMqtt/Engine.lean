import DurableMqtt.Error

/-!
What a session asks of the protocol engine. The engine answers each call at once; how the
broker answered comes back later as an event.
-/

namespace DurableMqtt

inductive EngineCall where
  /-- Opens a network session and sends CONNECT. -/
  | connect (keepAlive : Duration)
  | disconnect
  | publish (topic : String) (payload : ByteArray) (qos : Qos) (retain : Bool)
  | subscribe (topic : String) (qos : Qos)
  | unsubscribe (topic : String)
deriving DecidableEq, Inhabited

namespace EngineCall

def kind : EngineCall → RequestKind
  | connect _ => .connect
  | disconnect => .disconnect
  | publish .. => .publish
  | subscribe .. => .subscribe
  | unsubscribe _ => .unsubscribe

def topic? : EngineCall → Option String
  | connect _ | disconnect => none
  | publish topic .. | subscribe topic _ | unsubscribe topic => some topic

/-- The identifier of a request that the engine has taken under `number`. CONNECT and
DISCONNECT are known by their own names. -/
def id (number : UInt32) : EngineCall → RequestId
  | connect _ => .connect
  | disconnect => .disconnect
  | _ => .packet number

end EngineCall

/-- How an engine answers: the number it gives a request, or why it refuses. -/
abbrev Engine := EngineCall → Except EngineError UInt32

end DurableMqtt
