import DurableMqtt.Proofs.Run.Interleaving
import DurableMqtt.Proofs.Run.Recovery
import DurableMqtt.Proofs.Run.Replay

/-!
Where the consumer stands in its loop, and what it knows there.

In one turn the consumer does what there is to do about an event, looks whether a paced step is due,
and takes it. The other sides may act between any two of these chores, but nothing they do touches
the recovery, so what the consumer has found due stays due until it is done.
-/

namespace DurableMqtt

namespace Chore

def isPaced : Chore → Bool
  | checkDue | pace | resubscribeOne _ | drainOne _ => true
  | _ => false

def isStep : Chore → Bool
  | pace | resubscribeOne _ | drainOne _ => true
  | _ => false

theorem isPaced_of_isStep {chore : Chore} (step : chore.isStep = true) : chore.isPaced = true := by
  cases chore with
  | pace => rfl
  | resubscribeOne interval => rfl
  | drainOne interval => rfl
  | _ => exact absurd step Bool.false_ne_true

def isLast : Chore → Bool
  | welcome | acknowledge .. | deliver _ => true
  | _ => false

def isPreliminary (chore : Chore) : Bool := !chore.isPaced && !chore.isLast

def isQuiet : Chore → Bool
  | acknowledge .. | deliver _ => true
  | chore => chore.isPaced

theorem isLast_of_quiet {chore : Chore} (quiet : chore.isQuiet = true)
    (plain : chore.isPaced = false) : chore.isLast = true := by
  cases chore with
  | acknowledge id ack => rfl
  | deliver m => rfl
  | _ => exact absurd (quiet.symm.trans plain) Bool.noConfusion

def interval? : Chore → Option Duration
  | resubscribeOne interval | drainOne interval => some interval
  | _ => none

def suits (stage : Stage) : Chore → Bool
  | resubscribeOne _ => (stage matches .resubscribing ..)
  | drainOne _ => (stage matches .draining)
  | _ => true

end Chore

/-- Chores about an event, and the look after them. -/
inductive Listed : List Chore → Prop where
  | look : Listed [.checkDue]
  | more (chore : Chore) (rest : List Chore) (plain : chore.isPaced = false)
      (last : chore.isLast = true → rest = [.checkDue]) (listed : Listed rest) :
      Listed (chore :: rest)

/-- What the consumer can have left to do. -/
inductive Agenda : List Chore → Prop where
  | rested : Agenda []
  | listed (chores : List Chore) (listed : Listed chores) : Agenda chores
  | step (chore : Chore) (step : chore.isStep = true) : Agenda [chore]

def Act.now? : Act → Option Instant
  | .turn now | .work _ now => some now
  | .move .. => none

def Act.clock (a : Act) (c : Instant) : Instant := a.now?.getD c

/-- The readings of the consumer's clock, from `c` on, never go back. -/
def Forward : Instant → List Act → Prop
  | _, [] => True
  | c, a :: rest => c ≤ a.clock c ∧ Forward (a.clock c) rest

def clockAfter (acts : List Act) (c : Instant) : Instant := acts.foldl (fun c a => a.clock c) c

theorem forward_append {first second : List Act} {c : Instant} :
    Forward c (first ++ second) ↔ Forward c first ∧ Forward (clockAfter first c) second := by
  induction first generalizing c with
  | nil => exact (and_iff_right trivial).symm
  | cons a rest ih =>
    rw [List.cons_append, Forward, Forward, ih, and_assoc]
    rfl

instance Forward.decidable : (c : Instant) → (acts : List Act) → Decidable (Forward c acts)
  | _, [] => .isTrue trivial
  | c, a :: rest =>
    have := Forward.decidable (a.clock c) rest
    inferInstanceAs (Decidable (c ≤ a.clock c ∧ Forward (a.clock c) rest))

namespace Listed

variable {chore : Chore} {rest : List Chore}

theorem unstepped {chores : List Chore} (listed : Listed chores) :
    ∀ chore ∈ chores, chore.isStep = false := by
  induction listed with
  | look =>
    intro chore member
    rw [List.mem_singleton.mp member]
    rfl
  | more head rest plain last listed ih =>
    intro chore member
    rcases List.mem_cons.mp member with rfl | later
    · cases chore with
      | pace => exact absurd plain (by decide)
      | resubscribeOne interval => exact absurd plain Bool.noConfusion
      | drainOne interval => exact absurd plain Bool.noConfusion
      | _ => rfl
    · exact ih chore later

theorem of_preliminary {first : List Chore} (preliminary : first.all Chore.isPreliminary = true)
    (listed : Listed rest) : Listed (first ++ rest) := by
  induction first with
  | nil => exact listed
  | cons chore first ih =>
    rw [List.all_cons, Bool.and_eq_true] at preliminary
    obtain ⟨head, others⟩ := preliminary
    simp only [Chore.isPreliminary, Bool.and_eq_true, Bool.not_eq_true'] at head
    apply Listed.more chore (first ++ rest) head.1
    · intro last
      exact absurd (head.2.symm.trans last) Bool.noConfusion
    · exact ih others

theorem of_event (e : Event) : Listed (e.chores ++ [.checkDue]) := by
  have only (chore : Chore) (plain : chore.isPaced = false) : Listed [chore, .checkDue] :=
    .more chore [.checkDue] plain (fun _ => rfl) .look
  unfold Event.chores
  cases e.kind with
  | connack code =>
    apply Listed.more (.answer .connect (.connected code)) _ rfl
      (fun last => absurd last Bool.false_ne_true)
    by_cases accepted : code = 0
    · rw [if_pos accepted]
      exact only .welcome rfl
    · rw [if_neg accepted]
      exact only .refuse rfl
  | _ => exact only _ rfl

theorem cons (listed : Listed (chore :: rest)) :
    (chore = .checkDue ∧ rest = []) ∨
      chore.isPaced = false ∧ Listed rest ∧ (chore.isLast = true → rest = [.checkDue]) := by
  cases listed with
  | look => exact .inl ⟨rfl, rfl⟩
  | more _ _ plain last listed => exact .inr ⟨plain, listed, last⟩

end Listed

namespace Session

variable {s t : Session} {engine : Engine} {now c : Instant} {chore : Chore} {rest : List Chore}

theorem acted_append (first second : List Act) (s : Session) :
    acted (first ++ second) s = acted second (acted first s) := by
  induction first generalizing s with
  | nil => rfl
  | cons a rest ih => exact ih (s.act a)

theorem acted_snoc (acts : List Act) (a : Act) (s : Session) :
    acted (acts ++ [a]) s = (acted acts s).act a := by
  rw [acted_append]
  rfl

/-! ### Chores -/

theorem perform_preliminary (chore : Chore) (plain : chore.isPaced = false) (s : Session) :
    (perform engine now chore s).1.all Chore.isPreliminary = true := by
  cases chore with
  | refuse =>
    simp only [perform, refuse]
    split <;> rfl
  | leave code epoch =>
    simp only [perform, leave]
    split <;> rfl
  | checkDue => exact absurd plain (by decide)
  | pace => exact absurd plain (by decide)
  | resubscribeOne interval => exact absurd plain Bool.noConfusion
  | drainOne interval => exact absurd plain Bool.noConfusion
  | _ => rfl

theorem perform_last (chore : Chore) (last : chore.isLast = true) (s : Session) :
    (perform engine now chore s).1 = [] := by
  cases chore with
  | welcome => rfl
  | acknowledge id ack => rfl
  | deliver m => rfl
  | _ => exact absurd last Bool.false_ne_true

/-! ### Turns -/

/-- What a turn comes to: nothing, or the chores about an event, or a paced step that is due. -/
inductive Turned (now : Instant) (s : Session) : Session → Prop where
  | idle (unready : s.consumer.halted = true ∨ s.consumer.chores ≠ [] ∨ s.events.stopped = true ∨
      s.isDue now = false) : Turned now s s
  | takes (e : Event) (events : EventQueue) (running : s.consumer.halted = false)
      (free : s.consumer.chores = []) (next : s.events.next = (.event e, events)) :
      Turned now s { s with events, consumer := { s.consumer with chores := e.chores ++ [.checkDue] } }
  | wakes (running : s.consumer.halted = false) (free : s.consumer.chores = [])
      (due : s.isDue now = true) :
      Turned now s { s with consumer := { s.consumer with chores := [.checkDue] } }

theorem turn_turned (now : Instant) (s : Session) : Turned now s (s.turn now) := by
  unfold turn
  by_cases busy : (s.consumer.halted || !s.consumer.chores.isEmpty) = true
  · rw [if_pos busy]
    apply Turned.idle
    rcases Bool.or_eq_true _ _ |>.mp busy with halted | more
    · exact .inl halted
    · exact .inr (.inl (by simpa using more))
  · rw [if_neg busy]
    simp only [Bool.or_eq_true, Bool.not_eq_true', not_or, Bool.not_eq_true, Bool.not_eq_false,
      List.isEmpty_iff] at busy
    split
    next e events next => exact .takes e events busy.1 busy.2 next
    next =>
      split
      next due => exact .wakes busy.1 busy.2 due
      next undue => exact .idle (.inr (.inr (.inr (Bool.eq_false_of_not_eq_true undue))))
    next events next =>
      unfold EventQueue.next at next
      split at next
      next stopped => exact .idle (.inr (.inr (.inl stopped)))
      next => split at next <;> exact absurd (congrArg Prod.fst next) Next.noConfusion

/-! ### What the consumer knows -/

def Ready (c : Instant) (recovery : Option Recovery) (chore : Chore) : Prop :=
  ∃ r, recovery = some r ∧ r.due? = some r.nextTick ∧ r.nextTick ≤ c ∧ chore.suits r.stage = true

/-- What the consumer knows when its clock has read `c`. -/
structure Timed (c : Instant) (s : Session) : Prop where
  agenda : Agenda s.consumer.chores
  ready : ∀ chore ∈ s.consumer.chores, chore.isStep = true → Ready c s.consumer.recovery chore
  halted : s.consumer.halted = true → s.consumer.chores = []
  opened : s.events.stopped = false

theorem Timed.start (settings : Settings) (c : Instant) : Timed c (start settings) where
  agenda := .rested
  ready := fun _ member => absurd member List.not_mem_nil
  halted := fun _ => rfl
  opened := rfl

theorem Timed.running (timed : Timed c s) (chores : s.consumer.chores = chore :: rest) :
    s.consumer.halted = false := by
  by_contra ended
  have none := timed.halted (eq_true_of_ne_false ended)
  rw [chores] at none
  exact absurd none (List.cons_ne_nil _ _)

theorem Timed.planned (timed : Timed c s) (chores : s.consumer.chores = chore :: rest) :
    Agenda (chore :: rest) :=
  chores ▸ timed.agenda

theorem Timed.next (timed : Timed c s) (chores : s.consumer.chores = chore :: rest) :
    chore.isStep = true → Ready c s.consumer.recovery chore :=
  timed.ready chore (chores ▸ List.mem_cons_self)

theorem due_of_isDue (due : s.isDue now = true) :
    ∃ r, s.consumer.recovery = some r ∧ r.due? = some r.nextTick ∧ r.nextTick ≤ now := by
  unfold isDue at due
  cases held : s.consumer.recovery with
  | none =>
    rw [held] at due
    exact absurd due Bool.false_ne_true
  | some r =>
    rw [held, Option.bind_some] at due
    cases found : r.due? with
    | none =>
      rw [found] at due
      exact absurd due Bool.false_ne_true
    | some tick =>
      rw [found] at due
      have own : tick = r.nextTick := by
        unfold Recovery.due? at found
        split at found
        · cases found
        · exact (Option.some.inj found).symm
      rw [own] at found due
      exact ⟨r, rfl, found, of_decide_eq_true due⟩

/-! ### Paced steps -/

inductive Paces (engine : Engine) (now : Instant) (s : Session) :
    Chore → List Chore × Session → Prop where
  | found (r : Recovery) (held : s.consumer.recovery = some r) (due : r.due? = some r.nextTick)
      (onTime : r.nextTick ≤ now) : Paces engine now s .checkDue ([.pace], s)
  | undue (undue : s.isDue now = false) : Paces engine now s .checkDue ([], s)
  | drains (paced : s.phase.isPaced = true) (tick : Instant)
      (held : s.consumer.recovery = some ⟨.draining, tick⟩) :
      Paces engine now s .pace ([.drainOne s.settings.drainingInterval], s)
  | resubscribes (paced : s.phase.isPaced = true) (unsent : List Subscription) (outstanding : Nat)
      (tick : Instant) (held : s.consumer.recovery = some ⟨.resubscribing unsent outstanding, tick⟩) :
      Paces engine now s .pace ([.resubscribeOne s.settings.drainingInterval], s)
  | stays (paced : s.phase.isPaced = true) (none : s.consumer.recovery = none) :
      Paces engine now s .pace ([], s)
  | ends (unpaced : s.phase.isPaced = false) : Paces engine now s .pace ([], s.withRecovery none)
  | resubscribed (interval : Duration) :
      Paces engine now s (.resubscribeOne interval) ([], s.resubscribeOne engine now interval)
  | drained (interval : Duration) :
      Paces engine now s (.drainOne interval) ([], s.drainOne engine now interval)

theorem perform_paces (engine : Engine) (now : Instant) (chore : Chore)
    (paced : chore.isPaced = true) (s : Session) :
    Paces engine now s chore (perform engine now chore s) := by
  cases chore with
  | checkDue =>
    unfold perform
    cases due : s.isDue now with
    | true =>
      obtain ⟨r, held, tick, onTime⟩ := due_of_isDue due
      exact .found r held tick onTime
    | false => exact .undue due
  | pace =>
    unfold perform pace
    have iff : s.phase = .resubscribing ∨ s.phase = .draining ↔ s.phase.isPaced = true := by
      cases s.phase <;> decide
    by_cases on : s.phase.isPaced = true
    · rw [if_pos (iff.mpr on)]
      cases held : s.consumer.recovery with
      | none => exact .stays on held
      | some r =>
        obtain ⟨stage, tick⟩ := r
        cases stage with
        | draining => exact .drains on tick held
        | resubscribing unsent outstanding => exact .resubscribes on unsent outstanding tick held
    · rw [if_neg (fun other => on (iff.mp other))]
      exact .ends (Bool.eq_false_of_not_eq_true on)
  | resubscribeOne interval => exact .resubscribed interval
  | drainOne interval => exact .drained interval
  | _ => exact absurd paced Bool.false_ne_true

theorem perform_paced_agenda (chore : Chore) (paced : chore.isPaced = true) (s : Session) :
    Agenda (perform engine now chore s).1 := by
  have performed := perform_paces engine now chore paced s
  generalize perform engine now chore s = result at performed ⊢
  cases performed with
  | found r held due onTime => exact .step _ rfl
  | drains on tick held => exact .step _ rfl
  | resubscribes on unsent outstanding tick held => exact .step _ rfl
  | _ => exact .rested

theorem alone_of_paced (agenda : Agenda (chore :: rest)) (paced : chore.isPaced = true) :
    rest = [] := by
  cases agenda with
  | listed _ listed =>
    rcases listed.cons with ⟨-, none⟩ | ⟨plain, -, -⟩
    · exact none
    · exact absurd (plain.symm.trans paced) Bool.noConfusion
  | step _ _ => rfl

theorem listed_of_plain (agenda : Agenda (chore :: rest)) (plain : chore.isPaced = false) :
    Listed rest ∧ (chore.isLast = true → rest = [.checkDue]) := by
  cases agenda with
  | listed _ listed =>
    rcases listed.cons with ⟨rfl, -⟩ | ⟨-, others, last⟩
    · exact absurd plain (by decide)
    · exact ⟨others, last⟩
  | step _ step => exact absurd (plain.symm.trans (Chore.isPaced_of_isStep step)) Bool.noConfusion

theorem listed_perform (agenda : Agenda (chore :: rest)) (plain : chore.isPaced = false)
    (s : Session) : Listed ((perform engine now chore s).1 ++ rest) :=
  .of_preliminary (perform_preliminary chore plain s) (listed_of_plain agenda plain).1

theorem agenda_perform (agenda : Agenda (chore :: rest)) (s : Session) :
    Agenda ((perform engine now chore s).1 ++ rest) := by
  by_cases paced : chore.isPaced = true
  · rw [alone_of_paced agenda paced, List.append_nil]
    exact perform_paced_agenda chore paced s
  · exact .listed _ (listed_perform agenda (Bool.eq_false_of_not_eq_true paced) s)

/-! ### What the consumer knows goes on -/

theorem Timed.later {c' : Instant} (timed : Timed c s) (later : c ≤ c') : Timed c' s where
  agenda := timed.agenda
  ready := by
    intro chore member step
    obtain ⟨r, held, due, onTime, suits⟩ := timed.ready chore member step
    exact ⟨r, held, due, onTime.trans later, suits⟩
  halted := timed.halted
  opened := timed.opened

theorem Timed.of_unstepped {u : Session} (agenda : Agenda u.consumer.chores)
    (unstepped : ∀ chore ∈ u.consumer.chores, chore.isStep = false)
    (halted : u.consumer.halted = true → u.consumer.chores = []) (opened : u.events.stopped = false) :
    Timed c u where
  agenda := agenda
  ready := fun chore member step =>
    absurd ((unstepped chore member).symm.trans step) Bool.noConfusion
  halted := halted
  opened := opened

theorem Timed.turn (timed : Timed c s) (later : c ≤ now) : Timed now (s.turn now) := by
  have turned := turn_turned now s
  generalize s.turn now = t at turned ⊢
  cases turned with
  | idle unready => exact timed.later later
  | takes e events running free next =>
    have opened : events.stopped = s.events.stopped := by
      have same := next_stopped s.events
      rwa [next] at same
    exact .of_unstepped (.listed _ (Listed.of_event e)) (Listed.of_event e).unstepped
      (fun ended => absurd (running.symm.trans ended) Bool.noConfusion)
      (opened.trans timed.opened)
  | wakes running free due =>
    exact .of_unstepped (.listed _ .look) Listed.look.unstepped
      (fun ended => absurd (running.symm.trans ended) Bool.noConfusion) timed.opened

theorem scheduleTick_events (interval : Duration) (s : Session) :
    (s.scheduleTick now interval).events = s.events := by
  rw [scheduleTick_rescheduled]

theorem enterDraining_events (s : Session) : (s.enterDraining now).events = s.events := by
  rw [enterDraining_eq]
  split <;> rfl

theorem resubscribeOne_events (interval : Duration) (s : Session) :
    (s.resubscribeOne engine now interval).events = s.events := by
  unfold resubscribeOne
  cases s.consumer.recovery with
  | none => rfl
  | some r =>
    have sent : ((s.resubscribeNext engine r).scheduleTick now interval).events = s.events := by
      rw [scheduleTick_events]
      unfold resubscribeNext
      split
      next record unsent outstanding stage =>
        rw [resubscribe_eq]
        cases engine (.subscribe record.topic record.qos) <;> rfl
      next => rfl
    simp only
    split
    · exact sent
    · split
      · exact (enterDraining_events _).trans sent
      · exact sent

theorem drainOne_events (interval : Duration) (s : Session) :
    (s.drainOne engine now interval).events = s.events := by
  cases items : s.queue.items with
  | nil =>
    simp only [drainOne, OfflineQueue.pop, items]
    split <;> rfl
  | cons a rest =>
    have attempted : Attempted engine a rest (s.consumer.rescheduled now interval) s
        (s.drainOne engine now interval) := drainOne_attempted interval s items
    generalize s.drainOne engine now interval = t at attempted ⊢
    cases attempted <;> rfl

theorem perform_events (chore : Chore) (s : Session) :
    (perform engine now chore s).2.events = s.events := by
  cases chore with
  | answer id ack =>
    simp only [perform, answer_eq]
  | welcome =>
    simp only [perform, welcome_eq]
    split <;> rfl
  | refuse =>
    simp only [perform, refuse]
    split <;> rfl
  | leave code epoch =>
    simp only [perform, leave, goOffline_eq]
    split <;> rfl
  | loseSession => simp only [perform, loseSession_eq]
  | acknowledge id ack =>
    simp only [perform]
    cases found : s.pending.find? id with
    | none => rw [acknowledge_unknown now id ack s found]
    | some entry =>
      obtain ⟨consumer, settled, -⟩ := acknowledge_eq now id ack entry s found
      rw [settled]
  | deliver m =>
    obtain ⟨consumer, effects, delivered, -⟩ := deliver_eq m s
    simp only [perform, delivered]
  | pace =>
    simp only [perform, pace]
    split
    · split <;> rfl
    · rfl
  | resubscribeOne interval => exact resubscribeOne_events interval s
  | drainOne interval => exact drainOne_events interval s
  | _ => rfl

theorem perform_uncalled (engine : Engine) (now : Instant) (chore : Chore)
    (unread : chore.interval? = none) (s : Session) :
    ∃ effects, (perform engine now chore s).2.effects = s.effects ++ effects ∧ Uncalled effects := by
  have nothing {t : Session} (same : t.effects = s.effects) :
      ∃ effects, t.effects = s.effects ++ effects ∧ Uncalled effects :=
    ⟨[], same.trans (List.append_nil _).symm, .nil⟩
  cases chore with
  | answer id ack =>
    simp only [perform, answer_eq]
    exact ⟨_, rfl, answered_uncalled s.pending id ack⟩
  | welcome =>
    simp only [perform, welcome_eq]
    split
    · exact ⟨_, rfl, .hooks (hooked_isHook _ _ fun _ => rfl)⟩
    · exact nothing rfl
  | refuse =>
    simp only [perform, refuse]
    split <;> exact nothing rfl
  | leave code epoch =>
    simp only [perform, leave, goOffline_eq]
    split <;> exact ⟨_, rfl, .hooks s.farewell_isHook⟩
  | loseSession =>
    simp only [perform, loseSession_eq]
    exact ⟨_, rfl, discarded_uncalled _⟩
  | stopIo => exact ⟨_, rfl, .single rfl⟩
  | acknowledge id ack =>
    simp only [perform]
    cases found : s.pending.find? id with
    | none =>
      rw [acknowledge_unknown now id ack s found]
      exact nothing rfl
    | some entry =>
      obtain ⟨consumer, settled, -⟩ := acknowledge_eq now id ack entry s found
      rw [settled]
      exact ⟨_, rfl, told_uncalled id entry.responder ack⟩
  | deliver m =>
    obtain ⟨consumer, effects, delivered, -, hooks⟩ := deliver_eq m s
    simp only [perform, delivered]
    exact ⟨_, rfl, .hooks hooks⟩
  | pace =>
    simp only [perform, pace]
    split
    · split <;> exact nothing rfl
    · exact nothing rfl
  | resubscribeOne interval => cases unread
  | drainOne interval => cases unread
  | _ => exact nothing rfl

theorem ready_perform (agenda : Agenda (chore :: rest))
    (ready : chore.isStep = true → Ready c s.consumer.recovery chore) (later : c ≤ now) :
    ∀ next ∈ (perform engine now chore s).1 ++ rest, next.isStep = true →
      Ready now (perform engine now chore s).2.consumer.recovery next := by
  intro next member step
  by_cases paced : chore.isPaced = true
  · rw [alone_of_paced agenda paced, List.append_nil] at member
    have performed := perform_paces engine now chore paced s
    generalize perform engine now chore s = result at performed member ⊢
    cases performed with
    | found r held due onTime =>
      rw [List.mem_singleton.mp member]
      exact ⟨r, held, due, onTime, rfl⟩
    | drains on tick held =>
      rw [List.mem_singleton.mp member]
      obtain ⟨r, same, due, onTime, -⟩ := ready rfl
      rw [held] at same
      cases same
      exact ⟨_, held, due, onTime.trans later, rfl⟩
    | resubscribes on unsent outstanding tick held =>
      rw [List.mem_singleton.mp member]
      obtain ⟨r, same, due, onTime, -⟩ := ready rfl
      rw [held] at same
      cases same
      exact ⟨_, held, due, onTime.trans later, rfl⟩
    | _ => exact absurd member List.not_mem_nil
  · -- What is left of an event holds no part of a step yet.
    have listed : Listed ((perform engine now chore s).1 ++ rest) :=
      listed_perform agenda (Bool.eq_false_of_not_eq_true paced) s
    exact absurd ((listed.unstepped next member).symm.trans step) Bool.noConfusion

theorem Timed.work (timed : Timed c s) (later : c ≤ now) : Timed now (s.work engine now) := by
  cases chores : s.consumer.chores with
  | nil =>
    rw [work_idle chores]
    exact timed.later later
  | cons chore rest =>
    rw [work_eq chores (timed.running chores)]
    constructor
    · change Agenda (if _ then [] else _)
      split
      · exact .rested
      · exact agenda_perform (timed.planned chores) s
    · intro next member step
      change next ∈ (if _ then [] else _) at member
      split at member
      · exact absurd member List.not_mem_nil
      · exact ready_perform (timed.planned chores) (timed.next chores) later next member step
    · exact fun ended => if_pos ended
    · exact (congrArg EventQueue.stopped (perform_events chore s)).trans timed.opened

theorem Timed.act (timed : Timed c s) (a : Act) (later : c ≤ a.clock c) :
    Timed (a.clock c) (s.act a) := by
  cases a with
  | move m others =>
    have consumer : (s.after m).consumer = s.consumer := after_consumer m others
    have opened : (s.after m).events.stopped = s.events.stopped := (framed m s).stopped
    constructor
    · change Agenda (s.after m).consumer.chores
      rw [consumer]
      exact timed.agenda
    · change ∀ chore ∈ (s.after m).consumer.chores, _ → Ready c (s.after m).consumer.recovery chore
      rw [consumer]
      exact timed.ready
    · change (s.after m).consumer.halted = true → (s.after m).consumer.chores = []
      rw [consumer]
      exact timed.halted
    · exact opened.trans timed.opened
  | turn now => exact timed.turn later
  | work engine now => exact timed.work later

theorem Timed.acted (timed : Timed c s) (acts : List Act) (forward : Forward c acts) :
    Timed (clockAfter acts c) (acted acts s) := by
  induction acts generalizing c s with
  | nil => exact timed
  | cons a rest ih => exact ih (timed.act a forward.1) forward.2

end Session

end DurableMqtt
