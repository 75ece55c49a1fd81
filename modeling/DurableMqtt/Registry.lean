import DurableMqtt.Request
import DurableMqtt.Topic

/-!
The subscriptions that the broker has granted, in the order in which their topics were first
granted. They are sent again after every reconnect, and route inbound messages.
-/

namespace DurableMqtt

structure Subscription where
  topic : String
  qos : Qos
  handler : Callback
  onAck : Option Listener
deriving DecidableEq, Inhabited

def Subscription.shown (s : Subscription) : String :=
  Text.record "SubscriptionRecord"
    [⟨"topic", Text.quoted s.topic⟩, ⟨"qos", s.qos.name⟩,
     ⟨"has_ack_callback", toString s.onAck.isSome⟩]

structure Registry where
  records : List Subscription := []
deriving Inhabited

namespace Registry

/-- Puts `s` where the record of its topic stands, or at the end. -/
def place (s : Subscription) : List Subscription → List Subscription
  | [] => [s]
  | r :: rest => if r.topic = s.topic then s :: rest else r :: place s rest

def add (r : Registry) (s : Subscription) : Registry := ⟨place s r.records⟩

def get? (r : Registry) (topic : String) : Option Subscription :=
  r.records.find? (·.topic == topic)

def remove (r : Registry) (topic : String) : Registry :=
  ⟨r.records.filter (·.topic != topic)⟩

def firstCovering (topic : String) : List Subscription → Except Topic.Fault (Option Subscription)
  | [] => .ok none
  | s :: rest =>
    match Topic.covers s.topic topic with
    | .error fault => .error fault
    | .ok true => .ok (some s)
    | .ok false => firstCovering topic rest

/-- The record that a message on `topic` goes to: the one for exactly this topic, or else the
oldest one whose filter covers it. -/
def routing (r : Registry) (topic : String) : Except Topic.Fault (Option Subscription) :=
  match r.get? topic with
  | some s => .ok (some s)
  | none => firstCovering topic r.records

def topics (r : Registry) : List String := r.records.map (·.topic)

end Registry

end DurableMqtt
