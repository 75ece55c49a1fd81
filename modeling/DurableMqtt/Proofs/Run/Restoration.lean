import DurableMqtt.Proofs.Run.ConnectAnswer
import DurableMqtt.Proofs.Run.Sending

/-!
The subscriptions of an accepted session, and what has become of each.

The record is kept from the outside: from the calls that send a subscription again, from the
answers of the engine, and from the acknowledgments that are dispatched.
-/

namespace DurableMqtt

/-- What has become of a subscription that was sent again. -/
inductive Fate where
  | refused
  | waiting (number : UInt32)
  | acknowledged
deriving DecidableEq

def Fate.ofAnswer : Except EngineError UInt32 → Fate
  | .ok number => waiting number
  | .error _ => refused

def Effect.restoration? : Effect → Option (EngineCall × Except EngineError UInt32)
  | called (.subscribe topic qos) answer none => some (.subscribe topic qos, answer)
  | _ => none

def Subscription.call (record : Subscription) : EngineCall := .subscribe record.topic record.qos

/-- How far the subscriptions of a session are restored: what has become of those that were sent,
oldest first, and those that are still to be sent. -/
structure Restoration where
  sent : List (Subscription × Fate) := []
  unsent : List Subscription

namespace Restoration

def answer (r : Restoration) (given : Except EngineError UInt32) : Restoration :=
  match r.unsent with
  | [] => r
  | record :: rest => ⟨r.sent ++ [(record, .ofAnswer given)], rest⟩

def settle (id : RequestId) (s : Subscription × Fate) : Subscription × Fate :=
  match s.2 with
  | .waiting number => if id = .packet number then (s.1, .acknowledged) else s
  | _ => s

def acknowledge (r : Restoration) (id : RequestId) : Restoration :=
  { r with sent := r.sent.map (settle id) }

def awaited? (s : Subscription × Fate) : Option (RequestId × PendingEntry) :=
  match s.2 with
  | .waiting number => some (.packet number, Session.restoring s.1)
  | _ => none

def waiting (r : Restoration) : List (RequestId × PendingEntry) := r.sent.filterMap awaited?

/-- Whether a subscription is still to be sent or acknowledged. -/
def isOpen (r : Restoration) : Bool := !r.unsent.isEmpty || !r.waiting.isEmpty

def outstanding (r : Restoration) : Nat := r.unsent.length + r.waiting.length

end Restoration

namespace Session

def acknowledged? (m : Move) (s : Session) : Option RequestId :=
  (dispatched? m s).bind fun e => e.ack?.map fun _ => e.id

/-- What a step does to the subscriptions that are restored. -/
def restorationAfter (m : Move) (s : Session) (r : Restoration) : Restoration :=
  let r := (acknowledged? m s).elim r r.acknowledge
  ((since s (s.after m)).filterMap Effect.restoration?).foldl (fun r sent => r.answer sent.2) r

def restorationAlong : List Move → Session → Restoration → Restoration
  | [], _, r => r
  | m :: rest, s, r => restorationAlong rest (s.after m) (restorationAfter m s r)

/-- Whether a step settles the last subscription by a paced step, at a time from which the next
one lies beyond the clock. -/
def stalls (m : Move) (s : Session) (r : Restoration) : Bool :=
  r.isOpen && !(restorationAfter m s r).isOpen &&
    match m.step with
    | .tick now => (Instant.after? now s.settings.drainingInterval).isNone
    | _ => false

def stallsAlong : List Move → Session → Restoration → Bool
  | [], _, _ => false
  | m :: rest, s, r => stalls m s r || stallsAlong rest (s.after m) (restorationAfter m s r)

def restoredNumbers (m : Move) (s : Session) : List UInt32 :=
  ((since s (s.after m)).filterMap Effect.restoration?).filterMap (·.2.toOption)

/-- A step that neither asks for a connection nor brings the answer to one or its end, and in which
the engine gives a restored subscription no number that is in the table. -/
structure Undisturbed (m : Move) (s : Session) : Prop where
  unasked : isConnection m = false ∧ asks m s = false
  unanswered : connack? m s = none ∧ hangsUp m s = false
  fresh : ∀ number ∈ restoredNumbers m s, s.pending.find? (.packet number) = none

instance (m : Move) (s : Session) : Decidable (Undisturbed m s) :=
  have := List.decidableBAll (fun number => s.pending.find? (.packet number) = none)
    (restoredNumbers m s)
  decidable_of_iff ((isConnection m = false ∧ asks m s = false) ∧
      (connack? m s = none ∧ hangsUp m s = false) ∧
      ∀ number ∈ restoredNumbers m s, s.pending.find? (.packet number) = none)
    ⟨fun ⟨unasked, unanswered, fresh⟩ => ⟨unasked, unanswered, fresh⟩,
      fun undisturbed => ⟨undisturbed.unasked, undisturbed.unanswered, undisturbed.fresh⟩⟩

def UndisturbedAlong : List Move → Session → Prop
  | [], _ => True
  | m :: rest, s => Undisturbed m s ∧ UndisturbedAlong rest (s.after m)

instance UndisturbedAlong.decidable : (moves : List Move) → (s : Session) →
    Decidable (UndisturbedAlong moves s)
  | [], _ => .isTrue trivial
  | m :: rest, s =>
    have := UndisturbedAlong.decidable rest (s.after m)
    inferInstanceAs (Decidable (Undisturbed m s ∧ UndisturbedAlong rest (s.after m)))

end Session

namespace Restoration

variable {r : Restoration} {id : RequestId}

/-! ### Subscriptions that are settled -/

theorem waiting_append (sent : List (Subscription × Fate)) (s : Subscription × Fate)
    (unsent rest : List Subscription) :
    waiting ⟨sent ++ [s], rest⟩ = waiting ⟨sent, unsent⟩ ++ (awaited? s).toList := by
  unfold waiting
  rw [List.filterMap_append]
  cases found : awaited? s with
  | none => rw [List.filterMap_cons_none found]; rfl
  | some entry => rw [List.filterMap_cons_some found]; rfl

theorem settle_fst (s : Subscription × Fate) : (settle id s).1 = s.1 := by
  unfold settle
  split
  · split <;> rfl
  · rfl

theorem awaited?_settle (s : Subscription × Fate) :
    awaited? (settle id s) = (awaited? s).filter (·.1 != id) := by
  obtain ⟨record, fate⟩ := s
  cases fate with
  | refused => rfl
  | acknowledged => rfl
  | waiting number =>
    by_cases same : id = .packet number
    · simp [settle, awaited?, same, Option.filter]
    · have apart : RequestId.packet number ≠ id := fun equal => same equal.symm
      simp [settle, awaited?, same, apart, Option.filter]

theorem waiting_acknowledge (r : Restoration) (id : RequestId) :
    (r.acknowledge id).waiting = r.waiting.filter (·.1 != id) := by
  unfold waiting acknowledge
  rw [List.filterMap_map, List.filter_filterMap]
  exact List.filterMap_congr fun s _ => awaited?_settle s

theorem settle_of_apart {s : Subscription × Fate} (apart : ∀ entry ∈ awaited? s, entry.1 ≠ id) :
    settle id s = s := by
  obtain ⟨record, fate⟩ := s
  cases fate with
  | refused => rfl
  | acknowledged => rfl
  | waiting number => exact if_neg fun same => apart _ rfl same.symm

theorem acknowledge_of_absent (absent : ∀ entry ∈ r.waiting, entry.1 ≠ id) :
    r.acknowledge id = r := by
  have same : r.sent.map (settle id) = r.sent := by
    conv_rhs => rw [← List.map_id r.sent]
    refine List.map_congr_left fun s member => settle_of_apart fun entry waits => ?_
    exact absent entry (List.mem_filterMap.mpr ⟨s, member, waits⟩)
  unfold acknowledge
  rw [same]

theorem answer_of_sent {given : Except EngineError UInt32} (none : r.unsent = []) :
    r.answer given = r := by
  unfold answer
  rw [none]

def records (r : Restoration) : List Subscription := r.sent.map Prod.fst ++ r.unsent

theorem records_answer (r : Restoration) (given : Except EngineError UInt32) :
    (r.answer given).records = r.records := by
  unfold answer
  cases unsent : r.unsent with
  | nil => rfl
  | cons record rest => simp [records, unsent]

theorem records_acknowledge (r : Restoration) (id : RequestId) :
    (r.acknowledge id).records = r.records := by
  unfold records acknowledge
  rw [List.map_map]
  congr 1
  exact List.map_congr_left fun s _ => settle_fst s

def calls (r : Restoration) : List EngineCall := r.sent.map fun s => s.1.call

theorem calls_acknowledge (r : Restoration) (id : RequestId) :
    (r.acknowledge id).calls = r.calls := by
  unfold calls acknowledge
  rw [List.map_map]
  refine List.map_congr_left fun s _ => ?_
  simp only [Function.comp_apply, settle_fst]

theorem isOpen_iff : r.isOpen = true ↔ r.unsent ≠ [] ∨ r.waiting ≠ [] := by
  unfold isOpen
  simp

theorem closed_iff : r.isOpen = false ↔ r.unsent = [] ∧ r.waiting = [] := by
  unfold isOpen
  simp

end Restoration

namespace Session

variable {s t : Session} {m : Move} {engine : Engine} {now : Instant} {r : Restoration}

theorem records_restorationAfter (m : Move) (s : Session) (r : Restoration) :
    (restorationAfter m s r).records = r.records := by
  have answers (sent : List (EngineCall × Except EngineError UInt32)) (r : Restoration) :
      (sent.foldl (fun r sent => r.answer sent.2) r).records = r.records := by
    induction sent generalizing r with
    | nil => rfl
    | cons first rest ih => exact (ih _).trans (r.records_answer first.2)
  unfold restorationAfter
  rw [answers]
  cases acknowledged? m s with
  | none => rfl
  | some id => exact r.records_acknowledge id

theorem restorationAfter_of_unsent
    (unsent : (since s (s.after m)).filterMap Effect.restoration? = []) :
    restorationAfter m s r = (acknowledged? m s).elim r r.acknowledge := by
  unfold restorationAfter
  rw [unsent]
  rfl

theorem restorationAfter_closed (closed : r.isOpen = false) (m : Move) (s : Session) :
    restorationAfter m s r = r := by
  obtain ⟨unsent, waiting⟩ := Restoration.closed_iff.mp closed
  have acknowledged : (acknowledged? m s).elim r r.acknowledge = r := by
    cases acknowledged? m s with
    | none => rfl
    | some id =>
      refine Restoration.acknowledge_of_absent fun entry member => ?_
      rw [waiting] at member
      exact absurd member List.not_mem_nil
  unfold restorationAfter
  rw [acknowledged]
  induction (since s (s.after m)).filterMap Effect.restoration? with
  | nil => rfl
  | cons first rest ih =>
    rw [List.foldl_cons, Restoration.answer_of_sent unsent]
    exact ih

theorem acknowledged?_of_other (other : ∀ now, m.step ≠ .dispatch now) :
    acknowledged? m s = none := by
  have seen : dispatched? m s = none := by
    unfold dispatched?
    split
    next now step => exact absurd step (other now)
    next => rfl
  rw [acknowledged?, seen]
  rfl

end Session

end DurableMqtt
