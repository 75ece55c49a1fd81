import DurableMqtt.Text.Hexadecimal

/-!
Names for clients that are given none. A name carries enough randomness that no other client has
it.
-/

namespace DurableMqtt.Daemon

/-- Marks sixteen random bytes as a random identifier, by its version and its variant. -/
def markRandom (bytes : List UInt8) : List UInt8 :=
  bytes.mapIdx fun i b => if i = 6 then 0x40 + b % 16 else if i = 8 then 0x80 + b % 64 else b

def groups {α : Type} : List Nat → List α → List (List α)
  | [], _ => []
  | length :: rest, items => items.take length :: groups rest (items.drop length)

def groupLengths : List Nat := [8, 4, 4, 4, 12]

def freshName (random : ByteArray) : String :=
  let digits := (Text.hexOfBytes ⟨(markRandom random.toList).toArray⟩).toList
  "-".intercalate ((groups groupLengths digits).map String.ofList)

end DurableMqtt.Daemon
