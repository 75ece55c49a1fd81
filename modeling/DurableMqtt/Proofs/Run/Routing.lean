import DurableMqtt.Proofs.Run.Recovery

/-!
Where an inbound message goes, and what it can do to the consumer.

A message belongs to the record for exactly its topic, or else to the oldest record whose filter
covers it. The comparison with a filter faults on a topic that starts with a character of more than
one byte. It is made just if there are records, but none for exactly that topic, and its fault ends
the consumer.
-/

namespace DurableMqtt

def Topic.startsWide (topic : String) : Bool := topic.toList.head?.any (1 < ·.utf8Size)

namespace Registry

/-- The record that a message belongs to: the one for exactly its topic, or else the oldest one
whose filter covers it. -/
def recipient? (r : Registry) (topic : String) : Option Subscription :=
  (r.records.find? (·.topic == topic)).or
    (r.records.find? fun record => (Topic.covers record.topic topic).toOption == some true)

def faultsOn (r : Registry) (topic : String) : Bool :=
  Topic.startsWide topic && !r.records.isEmpty && r.records.all (·.topic != topic)

theorem covers_of_narrow {topic : String} (narrow : Topic.startsWide topic = false) (filter : String) :
    ∃ covered, Topic.covers filter topic = .ok covered := by
  unfold Topic.startsWide at narrow
  unfold Topic.covers
  cases chars : topic.toList with
  | nil => exact ⟨_, rfl⟩
  | cons c rest =>
    rw [chars] at narrow
    have short : ¬1 < c.utf8Size := of_decide_eq_false narrow
    simp only [if_neg short]
    split <;> exact ⟨_, rfl⟩

theorem covers_of_wide {topic : String} (wide : Topic.startsWide topic = true) (filter : String) :
    Topic.covers filter topic = .error .wideFirstCharacter := by
  unfold Topic.startsWide at wide
  unfold Topic.covers
  cases chars : topic.toList with
  | nil =>
    rw [chars] at wide
    exact absurd wide Bool.false_ne_true
  | cons c rest =>
    rw [chars] at wide
    exact if_pos (of_decide_eq_true wide)

theorem firstCovering_of_narrow {topic : String} (narrow : Topic.startsWide topic = false)
    (records : List Subscription) :
    firstCovering topic records =
      .ok (records.find? fun record => (Topic.covers record.topic topic).toOption == some true) := by
  induction records with
  | nil => rfl
  | cons record rest ih =>
    obtain ⟨covered, compared⟩ := covers_of_narrow narrow record.topic
    rw [firstCovering, List.find?_cons, compared]
    cases covered with
    | true => rfl
    | false => exact ih

theorem routing_eq (r : Registry) (topic : String) :
    r.routing topic =
      if r.faultsOn topic then .error .wideFirstCharacter else .ok (r.recipient? topic) := by
  unfold routing get? recipient? faultsOn
  cases exact' : r.records.find? (·.topic == topic) with
  | some record =>
    have there : r.records.all (·.topic != topic) = false := by
      refine List.all_eq_false.mpr ⟨record, List.mem_of_find?_eq_some exact', ?_⟩
      have named := List.find?_some exact'
      simpa using named
    simp only [there, Bool.and_false, Bool.false_eq_true, ↓reduceIte, Option.some_or]
  | none =>
    have absent : r.records.all (·.topic != topic) = true := by
      simpa using exact'
    simp only [absent, Bool.and_true, Option.none_or]
    cases wide : Topic.startsWide topic with
    | false =>
      rw [firstCovering_of_narrow wide]
      rfl
    | true =>
      cases records : r.records with
      | nil => rfl
      | cons record rest =>
        rw [firstCovering, covers_of_wide wide]
        rfl

end Registry

namespace Session

variable {s : Session} {engine : Engine} {now : Instant}

/-- What is done with a message: whoever sees them all is shown it, then the record it belongs to or
the hook for the rest. -/
def handed (s : Session) (m : Message) : List Effect :=
  hooked s.hooks.message (.observe · m) ++
    match s.registry.recipient? m.topic with
    | some record => [.submitted (.deliver record.handler m)]
    | none => hooked s.hooks.unhandled (.unhandled · m)

theorem deliver_of_fault (m : Message) (faults : s.registry.faultsOn m.topic = true) :
    (s.deliver m).consumer.halted = true := by
  unfold deliver
  simp only [submitHook_eq, Registry.routing_eq, if_pos faults]
  rfl

theorem deliver_of_sound (m : Message) (sound : s.registry.faultsOn m.topic = false) :
    s.deliver m = { s with effects := s.effects ++ s.handed m } := by
  unfold deliver handed
  simp only [submitHook_eq, Registry.routing_eq, sound, Bool.false_eq_true, ↓reduceIte]
  cases s.registry.recipient? m.topic with
  | none => simp only [List.append_assoc]
  | some record => simp only [submit, emit, List.append_assoc]

theorem nextEvent?_of_halted (halted : s.consumer.halted = true) (moves : List Move) :
    (run moves s).nextEvent? = none := by
  induction moves generalizing s with
  | nil => exact if_pos halted
  | cons m rest ih =>
    refine ih ?_
    by_contra running
    exact absurd halted (ne_true_of_eq_false (running_of_after m (Bool.eq_false_of_not_eq_true running)))

/-- The dispatch of a message ends the consumer for good just if looking for its recipient faults.
Otherwise the message is handed over, and nothing else happens: the consumer goes on with the event
that comes next. -/
theorem message_ends_iff (settings : Settings) (moves : List Move) (e : Event) (m : Message)
    (engine : Engine) (now : Instant) :
    let s := run moves (start settings)
    let t := s.dispatch engine now
    s.nextEvent? = some e → e.kind = .message m →
    (t.consumer.halted = true ↔ s.registry.faultsOn m.topic = true) ∧
    (s.registry.faultsOn m.topic = true → ∀ rest, (run rest t).nextEvent? = none) ∧
    (s.registry.faultsOn m.topic = false →
      t = { s with events := s.events.next.2, effects := s.effects ++ s.handed m }) := by
  intro s t next kind
  have delivered : t = { s with events := s.events.next.2 }.deliver m := by
    change s.dispatch engine now = _
    rw [dispatch_eq s next, handle, kind]
  have running := running_of_nextEvent? next
  have sound (free : s.registry.faultsOn m.topic = false) :
      t = { s with events := s.events.next.2, effects := s.effects ++ s.handed m } :=
    delivered.trans (deliver_of_sound m free)
  have ends (faults : s.registry.faultsOn m.topic = true) : t.consumer.halted = true := by
    rw [delivered]
    exact deliver_of_fault m faults
  refine ⟨⟨fun ended => ?_, ends⟩, fun faults rest => nextEvent?_of_halted (ends faults) rest, sound⟩
  by_contra free
  rw [sound (Bool.eq_false_of_not_eq_true free)] at ended
  exact absurd (running.symm.trans ended) Bool.noConfusion

def plainMessage (topic : String) : Message := ⟨topic, .empty, .atMostOnce, false⟩

def arrivingRun (topic : String) : List Move :=
  [⟨.connect (.notified none), numbering 1⟩, ⟨.report (.connack 0), numbering 1⟩,
   ⟨.dispatch 0, numbering 1⟩, ⟨.tick 0, numbering 1⟩,
   ⟨.request ⟨"t", .subscribe .atMostOnce ⟨"h"⟩, none⟩ (.notified none), numbering 1⟩,
   ⟨.report (.suback 1 (.granted .atMostOnce)), numbering 1⟩, ⟨.dispatch 0, numbering 1⟩,
   ⟨.report (.message (plainMessage topic)), numbering 1⟩]

theorem arrivingRun_handed :
    let s := run (arrivingRun "t") (start .standard)
    s.nextEvent? = some (.message (plainMessage "t")) ∧
    s.dispatch (numbering 1) 0 =
      { s with
        events := s.events.next.2
        effects := s.effects ++ [.submitted (.deliver ⟨"h"⟩ (plainMessage "t"))] } := by
  intro s
  have next : s.nextEvent? = some (.message (plainMessage "t")) := by decide +kernel
  have sound : s.registry.faultsOn "t" = false := by decide +kernel
  have handed : s.handed (plainMessage "t") = [.submitted (.deliver ⟨"h"⟩ (plainMessage "t"))] := by
    rfl
  have dispatched := (message_ends_iff .standard (arrivingRun "t") _ (plainMessage "t") (numbering 1) 0
    next rfl).2.2 sound
  rw [handed] at dispatched
  exact ⟨next, dispatched⟩

/-- A message on a topic that starts with an accented letter ends the consumer, and the end of the
connection is not dispatched any more. -/
theorem accentedRun_ends :
    let s := run (arrivingRun "é") (start .standard)
    let t := s.dispatch (numbering 1) 0
    s.registry.topics = ["t"] ∧ s.nextEvent? = some (.message (plainMessage "é")) ∧
    t.consumer.halted = true ∧ (run [⟨.report (.disconnect 0), numbering 1⟩] t).nextEvent? = none := by
  decide +kernel

end Session

end DurableMqtt
