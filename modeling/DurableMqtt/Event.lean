import DurableMqtt.Ack

/-!
Events that an engine reports, and the queue in which they wait for dispatch.
-/

namespace DurableMqtt

inductive EventKind where
  | connack (code : UInt8)
  | disconnect (code : UInt8)
  | puback
  | suback (answer : SubscribeReturn)
  | unsuback
  | message (message : Message)
deriving DecidableEq, Inhabited

def EventKind.name : EventKind → String
  | connack _ => "connack"
  | disconnect _ => "disconnect"
  | puback => "puback"
  | suback _ => "suback"
  | unsuback => "unsuback"
  | message _ => "message"

structure Event where
  id : RequestId
  kind : EventKind
deriving DecidableEq, Inhabited

namespace Event

def connack (code : UInt8) : Event := ⟨.connect, .connack code⟩
def disconnect (code : UInt8) : Event := ⟨.disconnect, .disconnect code⟩
def puback (number : UInt32) : Event := ⟨.packet number, .puback⟩
def suback (number : UInt32) (answer : SubscribeReturn) : Event := ⟨.packet number, .suback answer⟩
def unsuback (number : UInt32) : Event := ⟨.packet number, .unsuback⟩
def message (m : Message) : Event := ⟨.message, .message m⟩

end Event

/-- Events oldest first. Once stopped, the queue holds nothing and takes nothing. -/
structure EventQueue where
  events : List Event := []
  stopped : Bool := false
deriving Inhabited

inductive Next where
  | event (event : Event)
  /-- Nothing arrived before the deadline. -/
  | tick
  | stopped
deriving DecidableEq

namespace EventQueue

def push (q : EventQueue) (e : Event) : EventQueue :=
  if q.stopped then q else { q with events := q.events ++ [e] }

def stop (_ : EventQueue) : EventQueue := { events := [], stopped := true }

/-- The next thing to do for a reader whose deadline passes when no event is waiting. -/
def next (q : EventQueue) : Next × EventQueue :=
  if q.stopped then (.stopped, q)
  else
    match q.events with
    | [] => (.tick, q)
    | e :: rest => (.event e, { q with events := rest })

end EventQueue

end DurableMqtt
