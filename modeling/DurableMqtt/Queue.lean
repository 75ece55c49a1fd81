/-!
The queue in which items wait while a session is away. Its bound comes from one signed number:
zero disables the queue, a negative number leaves it unbounded.
-/

namespace DurableMqtt

inductive DropPolicy where
  | dropOldest
  | dropNewest
deriving DecidableEq, Inhabited

def DropPolicy.name : DropPolicy → String
  | dropOldest => "DropOldest"
  | dropNewest => "DropNewest"

def DropPolicy.word : DropPolicy → String
  | dropOldest => "drop_oldest"
  | dropNewest => "drop_newest"

def DropPolicy.choices : List (String × DropPolicy) :=
  [dropOldest, dropNewest].map fun policy => (policy.word, policy)

inductive Capacity where
  | disabled
  | unbounded
  | bounded (limit : Nat)
deriving DecidableEq, Inhabited

namespace Capacity

def ofInt (n : Int) : Capacity :=
  if n = 0 then disabled else if n < 0 then unbounded else bounded n.toNat

def shown : Capacity → String
  | disabled => "Disabled"
  | unbounded => "Unbounded"
  | bounded limit => "Bounded(" ++ toString limit ++ ")"

end Capacity

inductive Appended where
  | stored
  /-- The queue was at its bound. The item is in the queue only if the oldest one gave way. -/
  | full
  | disabled
deriving DecidableEq

def Appended.name : Appended → String
  | stored => "Success"
  | full => "FailureQueueFull"
  | disabled => "FailureQueueDisabled"

/-- Items oldest first. -/
structure OfflineQueue (α : Type) where
  items : List α := []
  capacity : Capacity
  policy : DropPolicy
deriving Inhabited

namespace OfflineQueue

variable {α : Type}

def empty (capacity : Int) (policy : DropPolicy) : OfflineQueue α :=
  { capacity := .ofInt capacity, policy }

def append (q : OfflineQueue α) (item : α) : Appended × OfflineQueue α :=
  match q.capacity with
  | .disabled => (.disabled, q)
  | .unbounded => (.stored, { q with items := q.items ++ [item] })
  | .bounded limit =>
    if limit ≤ q.items.length then
      match q.policy with
      | .dropNewest => (.full, q)
      | .dropOldest => (.full, { q with items := q.items.drop 1 ++ [item] })
    else (.stored, { q with items := q.items ++ [item] })

def pop (q : OfflineQueue α) : Option (α × OfflineQueue α) :=
  match q.items with
  | [] => none
  | item :: rest => some (item, { q with items := rest })

/-- Puts items back ahead of all others, keeping their order. They were admitted before, so
the bound does not apply. -/
def restore (q : OfflineQueue α) (items : List α) : OfflineQueue α :=
  { q with items := items ++ q.items }

def isDisabled (q : OfflineQueue α) : Bool := q.capacity == .disabled

def trim (capacity : Capacity) (policy : DropPolicy) (items : List α) : List α :=
  match capacity with
  | .disabled => []
  | .unbounded => items
  | .bounded limit =>
    match policy with
    | .dropOldest => items.drop (items.length - limit)
    | .dropNewest => items.take limit

def reconfigure (q : OfflineQueue α) (capacity : Int) (policy : DropPolicy) : OfflineQueue α :=
  let capacity := Capacity.ofInt capacity
  { items := trim capacity policy q.items, capacity, policy }

def fill (q : OfflineQueue α) (items : List α) : Nat × OfflineQueue α :=
  items.foldl
    (fun (stored, q) item =>
      let (result, q) := q.append item
      (if result = .stored then stored + 1 else stored, q))
    (0, q)

end OfflineQueue

end DurableMqtt
