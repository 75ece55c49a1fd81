import DurableMqtt.Message

/-!
What requests are known by, and what their acknowledgments say.
-/

namespace DurableMqtt

/-- The name under which a request and its acknowledgment are brought together. -/
inductive RequestId where
  /-- The one CONNECT that may be under way. -/
  | connect
  /-- The one DISCONNECT that may be under way. -/
  | disconnect
  /-- Inbound messages, which answer no request. -/
  | message
  /-- Requests parked until the session is back. -/
  | queued
  /-- A number given out by the engine. -/
  | packet (number : UInt32)
deriving DecidableEq, Inhabited

def RequestId.text : RequestId → String
  | connect => "connect"
  | disconnect => "disconnect"
  | message => "message"
  | queued => "queued"
  | packet number => "#" ++ toString number.toNat

def RequestId.ofText? : String → Option RequestId
  | "connect" => some connect
  | "disconnect" => some disconnect
  | "message" => some message
  | "queued" => some queued
  | _ => none

inductive RequestKind where
  | connect
  | disconnect
  | publish
  | subscribe
  | unsubscribe
deriving DecidableEq, Inhabited

def RequestKind.text : RequestKind → String
  | connect => "connect"
  | disconnect => "disconnect"
  | publish => "publish"
  | subscribe => "subscribe"
  | unsubscribe => "unsubscribe"

def RequestKind.all : List RequestKind := [connect, disconnect, publish, subscribe, unsubscribe]

def RequestKind.ofText? (text : String) : Option RequestKind := all.find? (·.text == text)

def RequestKind.title : RequestKind → String
  | connect => "Connect"
  | disconnect => "Disconnect"
  | publish => "Publish"
  | subscribe => "Subscribe"
  | unsubscribe => "Unsubscribe"

inductive SubscribeReturn where
  | granted (qos : Qos)
  | failure
deriving DecidableEq, Inhabited

def SubscribeReturn.shown : SubscribeReturn → String
  | granted qos => "Granted(" ++ qos.name ++ ")"
  | failure => "Failure"

inductive Ack where
  /-- The broker's answer to a CONNECT; 0 accepts the session. -/
  | connected (code : UInt8)
  | disconnected (code : UInt8)
  | published
  | subscribed (answer : SubscribeReturn)
  | unsubscribed
  /-- The request was dropped without reaching the broker and is not tried again. -/
  | discarded
deriving DecidableEq, Inhabited

namespace Ack

def plain : List (String × Ack) :=
  [("published", published), ("unsubscribed", unsubscribed), ("discarded", discarded)]

/-- The code that an answer carries, 0 when it carries none. -/
def returnCode : Ack → UInt8
  | connected code | disconnected code => code
  | _ => 0

def shown : Ack → String
  | connected code => "Connected(" ++ toString code.toNat ++ ")"
  | disconnected code => "Disconnected(" ++ toString code.toNat ++ ")"
  | published => "Published"
  | subscribed answer => "Subscribed(" ++ answer.shown ++ ")"
  | unsubscribed => "Unsubscribed"
  | discarded => "Discarded"

end Ack

end DurableMqtt
