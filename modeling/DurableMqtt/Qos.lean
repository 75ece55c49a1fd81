/-!
Delivery guarantees. Only the two levels that survive a replay are supported: a request sent
again after a lost session could not keep an exactly-once guarantee.
-/

namespace DurableMqtt

inductive Qos where
  | atMostOnce
  | atLeastOnce
deriving DecidableEq, Inhabited

namespace Qos

def level : Qos → UInt8
  | atMostOnce => 0
  | atLeastOnce => 1

def ofLevel? : UInt8 → Option Qos
  | 0 => some atMostOnce
  | 1 => some atLeastOnce
  | _ => none

def unsupportedText (level : UInt8) : String :=
  "Unsupported QoS " ++ toString level.toNat ++ ", expected 0 or 1"

def text (q : Qos) : String := "QoS" ++ toString q.level.toNat

def name : Qos → String
  | atMostOnce => "AtMostOnce"
  | atLeastOnce => "AtLeastOnce"

end Qos

end DurableMqtt
