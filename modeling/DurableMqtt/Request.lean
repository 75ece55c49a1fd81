import DurableMqtt.Ack

/-!
Requests that an application makes of its session, and who hears about their outcome.
-/

namespace DurableMqtt

/-- A piece of application code, known by the name it was registered under. -/
structure Callback where
  name : String
deriving DecidableEq, Inhabited

structure Waiter where
  number : Nat
deriving DecidableEq, Inhabited

inductive Listener where
  | callback (callback : Callback)
  /-- A waiting caller whose request was parked for the next session. -/
  | waiter (waiter : Waiter)
deriving DecidableEq, Inhabited

inductive Action where
  | publish (payload : ByteArray) (qos : Qos) (retain : Bool)
  | subscribe (qos : Qos) (handler : Callback)
  | unsubscribe
deriving DecidableEq, Inhabited

structure Request where
  topic : String
  action : Action
  onAck : Option Listener
deriving DecidableEq, Inhabited

namespace Request

def kind (r : Request) : RequestKind :=
  match r.action with
  | .publish .. => .publish
  | .subscribe .. => .subscribe
  | .unsubscribe => .unsubscribe

def withListener (r : Request) (listener : Option Listener) : Request :=
  { r with onAck := listener }

def shown (r : Request) : String :=
  let topic := Text.ShownField.mk "topic" (Text.quoted r.topic)
  let heard := Text.ShownField.mk "has_ack_callback" (toString r.onAck.isSome)
  match r.action with
  | .publish payload qos retain =>
    Text.record "Publish"
      [topic, ⟨"payload_len", toString payload.size⟩, ⟨"qos", qos.name⟩,
       ⟨"retain", toString retain⟩, heard]
  | .subscribe qos _ => Text.record "Subscribe" [topic, ⟨"qos", qos.name⟩, heard]
  | .unsubscribe => Text.record "Unsubscribe" [topic, heard]

end Request

/-- A request that a session has taken on. Tickets count up in the order of acceptance and stay
with a request for as long as the session holds it. -/
structure Accepted where
  ticket : Nat
  request : Request
deriving DecidableEq, Inhabited

end DurableMqtt
