import DurableMqtt.Error
import DurableMqtt.Registry

/-!
Requests that were sent and wait for their acknowledgment, by identifier. Each entry is taken
out once, so a late or repeated acknowledgment finds nothing.
-/

namespace DurableMqtt

/-- Who is told of an acknowledgment, and how. -/
inductive Responder where
  /-- Told through the callback pool. -/
  | pooled (listener : Listener)
  /-- A waiting caller, released on the spot. -/
  | inline (waiter : Waiter)
deriving DecidableEq, Inhabited

def Responder.listener : Responder → Listener
  | pooled listener => listener
  | inline waiter => .waiter waiter

inductive RegistryEffect where
  | none
  | subscribe (record : Subscription)
  | unsubscribe (topic : String)
deriving DecidableEq, Inhabited

def RegistryEffect.text : RegistryEffect → String
  | none => "none"
  | subscribe record => "subscribe " ++ record.qos.text ++ " " ++ record.topic
  | unsubscribe topic => "unsubscribe " ++ topic

def Registry.acknowledged (r : Registry) (effect : RegistryEffect) (ack : Ack) : Registry :=
  match effect, ack with
  | .subscribe record, .subscribed (.granted _) => r.add record
  | .unsubscribe topic, .unsubscribed => r.remove topic
  | _, _ => r

structure PendingEntry where
  responder : Option Responder := none
  effect : RegistryEffect := .none
  /-- Sent to restore a subscription; its acknowledgment counts towards the recovery. -/
  resubscribe : Bool := false
  /-- The request as sent, in case the session is lost before it is acknowledged. -/
  replay : Option Accepted := none
deriving DecidableEq, Inhabited

namespace PendingEntry

/-- The request to park again after a lost session: as it was sent, but answering to whom this
entry answers. -/
def replayed (e : PendingEntry) : Option Accepted :=
  e.replay.map fun a =>
    { a with request := a.request.withListener (e.responder.map Responder.listener) }

end PendingEntry

/-- Entries by identifier, no identifier twice. -/
structure PendingTable where
  entries : List (RequestId × PendingEntry) := []
deriving Inhabited

namespace PendingTable

def insert (t : PendingTable) (id : RequestId) (e : PendingEntry) : PendingTable :=
  ⟨t.entries.filter (·.1 != id) ++ [(id, e)]⟩

def find? (t : PendingTable) (id : RequestId) : Option PendingEntry :=
  (t.entries.find? (·.1 == id)).map (·.2)

def erase (t : PendingTable) (id : RequestId) : PendingTable :=
  ⟨t.entries.filter (·.1 != id)⟩

def take? (t : PendingTable) (id : RequestId) : Option (PendingEntry × PendingTable) :=
  (t.find? id).map fun e => (e, t.erase id)

def size (t : PendingTable) : Nat := t.entries.length

/-- Stores an entry under the identifier that a send returned, and nothing if it failed. -/
def register (t : PendingTable) (e : PendingEntry) :
    Except EngineError RequestId → Except EngineError RequestId × PendingTable
  | .ok id => (.ok id, t.insert id e)
  | .error cause => (.error cause, t)

def asPacket? : RequestId × PendingEntry → Option (UInt32 × PendingEntry)
  | (.packet number, e) => some (number, e)
  | _ => none

/-- The packet entries, lowest number first. -/
def inFlight (t : PendingTable) : List (UInt32 × PendingEntry) :=
  (t.entries.filterMap asPacket?).mergeSort (fun a b => a.1 ≤ b.1)

def withoutPackets (t : PendingTable) : PendingTable :=
  ⟨t.entries.filter fun e => (asPacket? e).isNone⟩

end PendingTable

end DurableMqtt
