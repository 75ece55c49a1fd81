import DurableMqtt.Event
import DurableMqtt.Network.Fault

/-!
Matching packets on the wire with the requests that they belong to.

The packet identifier of a request is known only once the packet is written. Until then the
request waits in line; the packets of one kind are written in the order in which their requests
came.
-/

namespace DurableMqtt.Network

inductive WireQos where
  | atMostOnce
  | atLeastOnce
  | exactlyOnce
deriving DecidableEq, Inhabited

def WireQos.ofLevel? : Nat → Option WireQos
  | 0 => some atMostOnce
  | 1 => some atLeastOnce
  | 2 => some exactlyOnce
  | _ => none

/-- The strongest supported guarantee that is not stronger. -/
def WireQos.supported : WireQos → Qos
  | atMostOnce => .atMostOnce
  | atLeastOnce | exactlyOnce => .atLeastOnce

inductive PacketKind where
  | publish
  | subscribe
  | unsubscribe
deriving DecidableEq, Inhabited

def PacketKind.choices : List (String × PacketKind) :=
  [("publish", publish), ("subscribe", subscribe), ("unsubscribe", unsubscribe)]

inductive WireEvent where
  /-- A request was written. Publishes that expect no acknowledgment have the identifier 0. -/
  | sent (kind : PacketKind) (packet : UInt16)
  | sentDisconnect
  | connack (code : ConnackCode)
  | puback (packet : UInt16)
  /-- A code for each filter, none for a filter that was refused. -/
  | suback (packet : UInt16) (codes : List (Option WireQos))
  | unsuback (packet : UInt16)
  | publish (topic : String) (payload : ByteArray) (qos : WireQos) (retain : Bool)
  | disconnect
  /-- Anything else that is read or written. -/
  | other
deriving DecidableEq, Inhabited

namespace WireEvent

def plain : List (String × WireEvent) :=
  [("out_disconnect", sentDisconnect), ("in_disconnect", disconnect), ("out_puback", other),
   ("out_await_ack", other), ("out_ping", other), ("in_pingresp", other)]

def withPacket : List (String × (UInt16 → WireEvent)) :=
  [("out_publish", sent .publish), ("out_subscribe", sent .subscribe),
   ("out_unsubscribe", sent .unsubscribe), ("in_puback", puback), ("in_unsuback", unsuback)]

end WireEvent

/-- The end of a connection, or something that happens before it. -/
abbrev Notification := Except ConnectionFault WireEvent

def closedLocally : UInt8 := 0
def connectionLost : UInt8 := 1
def closedByBroker : UInt8 := 2

structure Unsent where
  kind : PacketKind
  number : UInt32
deriving DecidableEq, Inhabited

/-- The requests behind the packet identifiers in use. -/
abbrev Numbers := List (UInt16 × UInt32)

namespace Numbers

def insert (numbers : Numbers) (packet : UInt16) (number : UInt32) : Numbers :=
  (packet, number) :: numbers.filter fun entry => entry.1 != packet

def erase (numbers : Numbers) (packet : UInt16) : Numbers :=
  numbers.filter fun entry => entry.1 != packet

end Numbers

structure Tracker where
  /-- Requests that are not written yet, oldest first. -/
  unsent : List Unsent := []
  publishes : Numbers := []
  subscribes : Numbers := []
  unsubscribes : Numbers := []
deriving DecidableEq, Inhabited

namespace Tracker

def expect (t : Tracker) (kind : PacketKind) (number : UInt32) : Tracker :=
  { t with unsent := t.unsent ++ [⟨kind, number⟩] }

/-- Takes back a request that will not be written. -/
def forget (t : Tracker) (number : UInt32) : Tracker :=
  { t with unsent := t.unsent.filter (·.number != number) }

def written? (t : Tracker) (kind : PacketKind) : Option (UInt32 × Tracker) := do
  let u ← t.unsent.find? (·.kind == kind)
  some (u.number, { t with unsent := t.unsent.eraseP (·.kind == kind) })

def granted : List (Option WireQos) → SubscribeReturn
  | some qos :: _ => .granted qos.supported
  | _ => .failure

/-- What a written packet means. A publish without acknowledgment is done once it is written. -/
def noteSent (t : Tracker) (kind : PacketKind) (packet : UInt16) : Option Event × Tracker :=
  match t.written? kind with
  | none => (none, t)
  | some (number, t) =>
    match kind with
    | .publish =>
      if packet = 0 then (some (.puback number), t)
      else (none, { t with publishes := t.publishes.insert packet number })
    | .subscribe => (none, { t with subscribes := t.subscribes.insert packet number })
    | .unsubscribe => (none, { t with unsubscribes := t.unsubscribes.insert packet number })

/-- What happens on a connection, in terms of requests. -/
def translate (t : Tracker) : WireEvent → Option Event × Tracker
  | .sent kind packet => t.noteSent kind packet
  | .sentDisconnect => (some (.disconnect closedLocally), {})
  | .connack code => (some (.connack code.byte), t)
  | .puback packet =>
    match t.publishes.lookup packet with
    | some number => (some (.puback number), { t with publishes := t.publishes.erase packet })
    | none => (none, t)
  | .suback packet codes =>
    match t.subscribes.lookup packet with
    | some number =>
      (some (.suback number (granted codes)), { t with subscribes := t.subscribes.erase packet })
    | none => (none, t)
  | .unsuback packet =>
    match t.unsubscribes.lookup packet with
    | some number =>
      (some (.unsuback number), { t with unsubscribes := t.unsubscribes.erase packet })
    | none => (none, t)
  | .publish topic payload qos retain =>
    (some (.message { topic, payload, qos := qos.supported, retain }), t)
  | .disconnect => (some (.disconnect closedByBroker), {})
  | .other => (none, t)

/-- How the failure of a connection is reported. Nothing is expected on it any more. -/
def failure : ConnectionFault → List Event
  | .refused code => [.connack code.byte, .disconnect code.byte]
  | _ => [.disconnect connectionLost]

def observe (t : Tracker) : Notification → List Event × Tracker
  | .ok event => let (report, t) := t.translate event; (report.toList, t)
  | .error fault => (failure fault, {})

end Tracker

end DurableMqtt.Network
