import DurableMqtt.Qos
import DurableMqtt.Text.Quoted

/-!
Application messages as the broker delivers them.
-/

namespace DurableMqtt

instance sameBytes : DecidableEq ByteArray := fun a b =>
  decidable_of_iff (a.data = b.data) ByteArray.ext_iff.symm

structure Message where
  topic : String
  payload : ByteArray
  qos : Qos
  retain : Bool
deriving DecidableEq, Inhabited

namespace Message

def payloadText? (m : Message) : Option String :=
  String.fromUTF8? m.payload

def shown (m : Message) : String :=
  Text.record "Message"
    [⟨"topic", Text.quoted m.topic⟩,
     ⟨"payload", Text.bracketed (m.payload.toList.map fun b => toString b.toNat)⟩,
     ⟨"qos", m.qos.name⟩,
     ⟨"retain", toString m.retain⟩]

end Message

end DurableMqtt
