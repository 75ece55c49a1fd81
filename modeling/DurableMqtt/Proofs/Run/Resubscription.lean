import DurableMqtt.Proofs.Run.Resending

/-!
How the subscriptions of an accepted session are restored.

Each record of the registry is sent once, in order. The recovery's count of the others is right at
any moment, so draining starts with the last record that is settled and not before.
-/

namespace DurableMqtt.Session

variable {s t : Session} {m : Move} {engine : Engine} {now : Instant} {r : Restoration}

/-! ### The restoration under way -/

/-- Some subscription is still to be sent or acknowledged, and the recovery knows how many. -/
structure Underway (s : Session) (r : Restoration) : Prop where
  phase : s.phase = .resubscribing
  recovery : ∃ nextTick,
    s.consumer.recovery = some ⟨.resubscribing r.unsent r.outstanding, nextTick⟩
  pending : s.pending.entries.filter (·.2.resubscribe) = r.waiting
  found : ∀ entry ∈ r.waiting, s.pending.find? entry.1 = some entry.2
  once : (r.waiting.map Prod.fst).Nodup
  unsettled : r.isOpen = true

structure Over (s : Session) : Prop where
  phase : s.phase = .draining ∨ s.phase = .stable
  plain : s.pending.entries.filter (·.2.resubscribe) = []
  unled : ∀ unsent outstanding nextTick,
    s.consumer.recovery ≠ some ⟨.resubscribing unsent outstanding, nextTick⟩

/-- Every subscription is settled, but the consumer has ended before the session could go on. -/
structure Stuck (s : Session) : Prop where
  phase : s.phase = .resubscribing
  plain : s.pending.entries.filter (·.2.resubscribe) = []
  halted : s.consumer.halted = true

structure Advances (m : Move) (s t : Session) (r r' : Restoration) : Prop where
  calls : r'.calls = r.calls ++ ((since s t).filterMap Effect.restoration?).map Prod.fst
  /-- No request of the queue is sent. -/
  silent : ∀ e ∈ since s t, e.ticket? = none
  outcome : Underway t r' ∧ stalls m s r = false ∨ r'.isOpen = false ∧
    (Over t ∧ stalls m s r = false ∨ Stuck t ∧ stalls m s r = true)

theorem stalls_of_open (unsettled : (restorationAfter m s r).isOpen = true) :
    stalls m s r = false := by
  unfold stalls
  rw [unsettled, Bool.not_true, Bool.and_false, Bool.false_and]

theorem stalls_of_closed (closed : r.isOpen = false) : stalls m s r = false := by
  unfold stalls
  rw [closed, Bool.false_and, Bool.false_and]

theorem Underway.of_same (underway : Underway s r) (phase : t.phase = s.phase)
    (recovery : t.consumer.recovery = s.consumer.recovery) (pending : t.pending = s.pending) :
    Underway t r where
  phase := phase.trans underway.phase
  recovery := by
    rw [recovery]
    exact underway.recovery
  pending := by
    rw [pending]
    exact underway.pending
  found := by
    rw [pending]
    exact underway.found
  once := underway.once
  unsettled := underway.unsettled

theorem Advances.of_uncalled (after : s.after m = t) {effects : List Effect}
    (appended : t.effects = s.effects ++ effects) (uncalled : Uncalled effects)
    (outcome : Underway t ((acknowledged? m s).elim r r.acknowledge) ∨
      ((acknowledged? m s).elim r r.acknowledge).isOpen = false ∧ Over t ∧
        ∀ now, m.step ≠ .tick now) : Advances m s t r (restorationAfter m s r) := by
  have quiet : (since s t).filterMap Effect.restoration? = [] := by
    rw [since_of_append appended]
    exact Unrestoring.of_uncalled uncalled
  have settled : restorationAfter m s r = (acknowledged? m s).elim r r.acknowledge := by
    rw [← after] at quiet
    exact restorationAfter_of_unsent quiet
  constructor
  · rw [quiet, settled, List.map_nil, List.append_nil]
    cases acknowledged? m s with
    | none => rfl
    | some id => exact r.calls_acknowledge id
  · intro e member
    rw [since_of_append appended] at member
    cases e with
    | called call answer ticket => exact absurd (uncalled _ member).symm Bool.false_ne_true
    | _ => rfl
  · rw [← settled] at outcome
    rcases outcome with underway | ⟨closed, ended, untimed⟩
    · exact .inl ⟨underway, stalls_of_open underway.unsettled⟩
    · refine .inr ⟨closed, .inl ⟨ended, ?_⟩⟩
      unfold stalls
      split
      next now timed => exact absurd timed (untimed now)
      next => exact Bool.and_false _

theorem Advances.unmoved (underway : Underway s r) (after : s.after m = t)
    (acknowledged : acknowledged? m s = none) (phase : t.phase = s.phase)
    (recovery : t.consumer.recovery = s.consumer.recovery) (pending : t.pending = s.pending)
    {effects : List Effect} (appended : t.effects = s.effects ++ effects)
    (uncalled : Uncalled effects) : Advances m s t r (restorationAfter m s r) := by
  refine .of_uncalled after appended uncalled (.inl ?_)
  rw [acknowledged]
  exact underway.of_same phase recovery pending

/-! ### Paced steps -/

theorem Underway.insert {number : UInt32} {record : Subscription} {rest : List Subscription}
    (underway : Underway s r) (next : r.unsent = record :: rest)
    (free : s.pending.find? (.packet number) = none) (phase : t.phase = s.phase)
    (recovery : ∃ nextTick,
      t.consumer.recovery = some ⟨.resubscribing rest r.outstanding, nextTick⟩)
    (pending : t.pending = s.pending.insert (.packet number) (restoring record)) :
    Underway t (r.answer (.ok number)) := by
  have answered : r.answer (.ok number) = ⟨r.sent ++ [(record, .waiting number)], rest⟩ := by
    unfold Restoration.answer
    rw [next]
    rfl
  have waiting : (r.answer (.ok number)).waiting =
      r.waiting ++ [(.packet number, restoring record)] := by
    rw [answered]
    exact Restoration.waiting_append r.sent (record, .waiting number) r.unsent rest
  have apart : ∀ entry ∈ r.waiting, entry.1 ≠ .packet number := by
    intro entry member same
    have found := underway.found entry member
    rw [same, free] at found
    exact absurd found (Option.some_ne_none _).symm
  have others : s.pending.entries.filter (·.1 != .packet number) = s.pending.entries :=
    List.filter_eq_self.mpr fun entry member =>
      bne_iff_ne.mpr (PendingTable.find?_none free entry member)
  constructor
  · exact phase.trans underway.phase
  · obtain ⟨nextTick, held⟩ := recovery
    refine ⟨nextTick, held.trans ?_⟩
    have count : (r.answer (.ok number)).outstanding = r.outstanding := by
      unfold Restoration.outstanding
      rw [waiting, answered, next, List.length_append, List.length_cons]
      simp only [List.length_cons, List.length_nil]
      omega
    rw [count, answered]
  · rw [pending, PendingTable.insert, others, List.filter_append, underway.pending, waiting]
    rfl
  · rw [waiting, pending]
    intro entry member
    rcases List.mem_append.mp member with old | new
    · rw [PendingTable.find?_insert_of_ne (apart entry old)]
      exact underway.found entry old
    · rw [List.mem_singleton.mp new]
      exact PendingTable.find?_insert_self _
  · rw [waiting, List.map_append]
    refine List.nodup_append.mpr ⟨underway.once, List.nodup_singleton _, ?_⟩
    rintro id old _ new rfl
    obtain ⟨entry, member, rfl⟩ := List.mem_map.mp old
    exact apart entry member (List.mem_singleton.mp new)
  · refine Restoration.isOpen_iff.mpr (.inr ?_)
    rw [waiting]
    exact List.append_ne_nil_of_right_ne_nil _ (List.cons_ne_nil _ _)

theorem restorationAfter_of_sent {record : Subscription} {given : Except EngineError UInt32}
    (effects : (s.after ⟨.tick now, engine⟩).effects =
      s.effects ++ [.called (.subscribe record.topic record.qos) given none]) :
    restorationAfter ⟨.tick now, engine⟩ s r = r.answer given := by
  have sent : (since s (s.after ⟨.tick now, engine⟩)).filterMap Effect.restoration? =
      [(.subscribe record.topic record.qos, given)] := by
    rw [since_of_append effects]
    rfl
  unfold restorationAfter
  rw [acknowledged?_of_other fun _ => Step.noConfusion, sent]
  rfl

theorem calls_answer {record : Subscription} {rest : List Subscription}
    (next : r.unsent = record :: rest) (given : Except EngineError UInt32) :
    (r.answer given).calls = r.calls ++ [record.call] := by
  unfold Restoration.answer Restoration.calls
  rw [next]
  simp only [List.map_append, List.map_cons, List.map_nil]

theorem Advances.of_sent {record : Subscription} {rest : List Subscription}
    {given : Except EngineError UInt32} (next : r.unsent = record :: rest)
    (after : s.after ⟨.tick now, engine⟩ = t)
    (effects : t.effects = s.effects ++ [.called (.subscribe record.topic record.qos) given none])
    (outcome : Underway t (r.answer given) ∨ (r.answer given).isOpen = false ∧
      (Over t ∧ (Instant.after? now s.settings.drainingInterval).isNone = false ∨
        Stuck t ∧ (Instant.after? now s.settings.drainingInterval).isNone = true)) :
    Advances ⟨.tick now, engine⟩ s t r (restorationAfter ⟨.tick now, engine⟩ s r) := by
  have answered : restorationAfter ⟨.tick now, engine⟩ s r = r.answer given := by
    rw [← after] at effects
    exact restorationAfter_of_sent effects
  have unsettled : r.isOpen = true := by
    refine Restoration.isOpen_iff.mpr (.inl ?_)
    rw [next]
    exact List.cons_ne_nil _ _
  constructor
  · rw [answered, calls_answer next, since_of_append effects]
    rfl
  · rw [since_of_append effects]
    intro e member
    rw [List.mem_singleton.mp member]
    rfl
  · rcases outcome with underway | ⟨closed, gone⟩
    · rw [answered]
      exact .inl ⟨underway, stalls_of_open (by rw [answered]; exact underway.unsettled)⟩
    · have stall : stalls ⟨.tick now, engine⟩ s r =
          (Instant.after? now s.settings.drainingInterval).isNone := by
        unfold stalls
        rw [answered, closed, unsettled]
        rfl
      rw [answered, stall]
      exact .inr ⟨closed, gone⟩

theorem Underway.tick (underway : Underway s r) (undisturbed : Undisturbed ⟨.tick now, engine⟩ s) :
    Advances ⟨.tick now, engine⟩ s (s.tick engine now) r
      (restorationAfter ⟨.tick now, engine⟩ s r) := by
  have after : s.after ⟨.tick now, engine⟩ = s.tick engine now := rfl
  obtain ⟨nextTick, held⟩ := underway.recovery
  by_cases due : (!s.consumer.halted && s.isDue now) = true
  · obtain ⟨running, isDue⟩ : s.consumer.halted = false ∧ s.isDue now = true := by simpa using due
    cases next : r.unsent with
    | nil =>
      rw [Session.isDue, held, next] at isDue
      exact absurd isDue Bool.false_ne_true
    | cons record rest =>
      have step : s.tick engine now = s.resubscribeOne engine now s.settings.drainingInterval := by
        rw [tick_eq, if_pos due]
        simp only [paceNow, underway.phase, true_or, ↓reduceIte, held]
      rw [next] at held
      have count : r.outstanding = rest.length + 1 + r.waiting.length := by
        rw [Restoration.outstanding, next, List.length_cons]
      cases answer : engine (.subscribe record.topic record.qos) with
      | ok number =>
        obtain ⟨recovery, phase, pending, effects⟩ := resubscribeOne_taken now
          s.settings.drainingInterval held (by omega) answer
        rw [← step] at recovery phase pending effects
        refine .of_sent next after effects (.inl ?_)
        have given : number ∈ restoredNumbers ⟨.tick now, engine⟩ s := by
          rw [restoredNumbers, after, since_of_append effects]
          exact List.mem_singleton_self _
        exact underway.insert next (undisturbed.fresh number given) phase recovery pending
      | error cause =>
        obtain ⟨pending, effects, outcome⟩ := resubscribeOne_refused now
          s.settings.drainingInterval held running underway.phase answer
        rw [← step] at pending effects outcome
        refine .of_sent next after effects ?_
        have answered : r.answer (.error cause) = ⟨r.sent ++ [(record, .refused)], rest⟩ := by
          unfold Restoration.answer
          rw [next]
          rfl
        have waiting : (r.answer (.error cause)).waiting = r.waiting := by
          rw [answered]
          exact (Restoration.waiting_append r.sent (record, .refused) r.unsent rest).trans
            (List.append_nil _)
        have unsent : (r.answer (.error cause)).unsent = rest := by rw [answered]
        have left : (r.answer (.error cause)).outstanding = r.outstanding - 1 := by
          rw [Restoration.outstanding, waiting, unsent]
          omega
        by_cases last : rest = [] ∧ r.outstanding - 1 = 0
        · have none : r.waiting = [] := List.eq_nil_of_length_eq_zero (by omega)
          have plain : (s.tick engine now).pending.entries.filter (·.2.resubscribe) = [] := by
            rw [pending, underway.pending, none]
          refine .inr ⟨Restoration.closed_iff.mpr ⟨unsent.trans last.1, waiting.trans none⟩, ?_⟩
          rw [if_pos last] at outcome
          by_cases beyond : (Instant.after? now s.settings.drainingInterval).isNone = true
          · rw [if_pos beyond] at outcome
            exact .inr ⟨⟨outcome.1, plain, outcome.2⟩, beyond⟩
          · rw [if_neg beyond] at outcome
            refine .inl ⟨⟨.inl outcome.1, plain, fun unsent outstanding nextTick stage => ?_⟩,
              Bool.eq_false_of_not_eq_true beyond⟩
            cases outcome.2.symm.trans stage
        · rw [if_neg last] at outcome
          obtain ⟨phase, later, recovery⟩ := outcome
          refine .inl ⟨phase, ⟨later, ?_⟩, ?_, ?_, ?_, ?_⟩
          · rw [unsent, left]
            exact recovery
          · rw [pending, waiting]
            exact underway.pending
          · rw [pending, waiting]
            exact underway.found
          · rw [waiting]
            exact underway.once
          · refine Restoration.isOpen_iff.mpr ?_
            rw [unsent, waiting]
            by_contra settled
            obtain ⟨none, alone⟩ := not_or.mp settled
            rw [not_not] at none alone
            exact last ⟨none, by rw [count, none, alone]; rfl⟩
  · have same : s.tick engine now = s := by rw [tick_eq, if_neg due]
    rw [same] at after ⊢
    exact .unmoved underway after (acknowledged?_of_other fun _ => Step.noConfusion) rfl rfl rfl
      (List.append_nil _).symm .nil

/-! ### Events -/

theorem length_erase {entries : List (RequestId × PendingEntry)} {id : RequestId}
    (once : (entries.map Prod.fst).Nodup) (member : id ∈ entries.map Prod.fst) :
    (entries.filter (·.1 != id)).length + 1 = entries.length := by
  have one : entries.countP (·.1 == id) = 1 := by
    rw [← List.count_eq_one_of_mem once member, List.count, List.countP_map]
    rfl
  have parts := List.length_eq_countP_add_countP (l := entries) (·.1 == id)
  rw [one] at parts
  rw [← List.countP_eq_length_filter, parts, Nat.add_comm]
  congr 1
  exact List.countP_congr fun entry _ => by simp

theorem Underway.acknowledge (underway : Underway s r) (now : Instant) (id : RequestId)
    (ack : Ack) :
    let t := s.acknowledge now id ack
    (Underway t (r.acknowledge id) ∨ (r.acknowledge id).isOpen = false ∧ Over t) ∧
      ∃ effects, t.effects = s.effects ++ effects ∧ Uncalled effects := by
  have waiting := r.waiting_acknowledge id
  have erased : (s.pending.erase id).entries.filter (·.2.resubscribe) =
      (r.acknowledge id).waiting := by
    rw [waiting, ← underway.pending, PendingTable.erase, List.filter_filter, List.filter_filter]
    exact List.filter_congr fun entry _ => Bool.and_comm _ _
  have found : ∀ entry ∈ (r.acknowledge id).waiting,
      (s.pending.erase id).find? entry.1 = some entry.2 := by
    intro entry member
    rw [waiting] at member
    obtain ⟨before, apart⟩ := List.mem_filter.mp member
    rw [PendingTable.find?_erase_of_ne (bne_iff_ne.mp apart)]
    exact underway.found entry before
  have once : ((r.acknowledge id).waiting.map Prod.fst).Nodup := by
    rw [waiting]
    exact (List.filter_sublist.map _).nodup underway.once
  cases stored : s.pending.find? id with
  | none =>
    rw [acknowledge_unknown now id ack s stored, Restoration.acknowledge_of_absent]
    · exact ⟨.inl underway, [], (List.append_nil _).symm, .nil⟩
    · rintro entry member rfl
      exact absurd (stored.symm.trans (underway.found entry member)) (Option.some_ne_none _).symm
  | some entry =>
    obtain ⟨nextTick, held⟩ := underway.recovery
    simp only [Session.acknowledge, PendingTable.take?, stored, Option.map_some, respond_eq]
    cases restores : entry.resubscribe with
    | false =>
      have same : r.acknowledge id = r := by
        refine Restoration.acknowledge_of_absent fun other member same => ?_
        have kept := underway.found other member
        rw [same, stored] at kept
        rw [← underway.pending] at member
        have resubscribes := (List.mem_filter.mp member).2
        rw [← Option.some.inj kept, restores] at resubscribes
        exact Bool.false_ne_true resubscribes
      refine ⟨.inl ⟨underway.phase, ⟨nextTick, ?_⟩, erased, found, once, ?_⟩, _, rfl,
        told_uncalled _ _ _⟩
      · rw [same]
        exact held
      · rw [same]
        exact underway.unsettled
    | true =>
      have member : (id, entry) ∈ r.waiting := by
        rw [← underway.pending]
        exact List.mem_filter.mpr ⟨PendingTable.mem_of_find? stored, restores⟩
      have count : (r.acknowledge id).outstanding = r.outstanding - 1 := by
        have one := length_erase underway.once (List.mem_map_of_mem member)
        rw [← waiting] at one
        unfold Restoration.outstanding
        rw [← one]
        rfl
      simp only [↓reduceIte]
      rw [settleResubscribe_held (s := { s with
        pending := s.pending.erase id
        registry := s.registry.acknowledged entry.effect ack }) held underway.phase]
      by_cases last : r.unsent = [] ∧ r.outstanding - 1 = 0
      · rw [if_pos last]
        have settled : (r.acknowledge id).waiting = [] := by
          rw [last.2, Restoration.outstanding] at count
          exact List.eq_nil_of_length_eq_zero (Nat.eq_zero_of_add_eq_zero_left count)
        refine ⟨.inr ⟨Restoration.closed_iff.mpr ⟨last.1, settled⟩, .inl rfl, ?_, ?_⟩, _, rfl,
          told_uncalled _ _ _⟩
        · exact erased.trans settled
        · exact fun unsent outstanding nextTick stage => by cases stage
      · rw [if_neg last]
        refine ⟨.inl ⟨underway.phase, ⟨nextTick, ?_⟩, erased, found, once, ?_⟩, _, rfl,
          told_uncalled _ _ _⟩
        · rw [count]
          rfl
        · refine Bool.eq_true_of_not_eq_false fun closed => last ?_
          obtain ⟨unsent, settled⟩ := Restoration.closed_iff.mp closed
          refine ⟨unsent, ?_⟩
          rw [← count, Restoration.outstanding, unsent, settled]
          rfl

theorem Underway.dispatch (underway : Underway s r)
    (undisturbed : Undisturbed ⟨.dispatch now, engine⟩ s) :
    Advances ⟨.dispatch now, engine⟩ s (s.dispatch engine now) r
      (restorationAfter ⟨.dispatch now, engine⟩ s r) := by
  have after : s.after ⟨.dispatch now, engine⟩ = s.dispatch engine now := rfl
  have calm := dispatch_calm undisturbed
  generalize s.dispatch engine now = t at after calm ⊢
  cases calm with
  | idle none => exact .unmoved underway after none rfl rfl rfl (List.append_nil _).symm .nil
  | acknowledges id ack given =>
    have taken : Underway { s with events := s.events.next.2 } r := underway.of_same rfl rfl rfl
    obtain ⟨outcome, effects, appended, uncalled⟩ := taken.acknowledge now id ack
    refine .of_uncalled after appended uncalled ?_
    rw [given]
    exact outcome.imp_right fun ⟨closed, ended⟩ => ⟨closed, ended, fun _ => Step.noConfusion⟩
  | delivers consumer effects none same hooks =>
    exact .unmoved underway after none rfl same rfl rfl (.hooks hooks)

/-! ### Every step -/

theorem Underway.after (underway : Underway s r) (undisturbed : Undisturbed m s) :
    Advances m s (s.after m) r (restorationAfter m s r) := by
  have recovering : s.phase.isRecovering = true := by rw [underway.phase]; rfl
  have aside (others : m.isConsumers = false) :
      Advances m s (s.after m) r (restorationAfter m s r) := by
    have still := still_aside undisturbed others (.inl recovering)
    refine .unmoved underway rfl (acknowledged?_of_other fun now step => ?_) still.phase
      (congrArg Consumer.recovery still.consumer) still.pending
      (still.effects.trans (List.append_nil _).symm) .nil
    rw [Move.isConsumers, step] at others
    exact absurd others Bool.false_ne_true.symm
  obtain ⟨step, engine⟩ := m
  cases step with
  | dispatch now => exact underway.dispatch undisturbed
  | tick now => exact underway.tick undisturbed
  | _ => exact aside rfl

/-! ### After the restoration -/

theorem plain_insert {table : PendingTable} (plain : table.entries.filter (·.2.resubscribe) = [])
    (id : RequestId) (a : Accepted) (responder : Option Responder) :
    (table.insert id (entryOf a responder)).entries.filter (·.2.resubscribe) = [] := by
  have others : (table.entries.filter (·.1 != id)).filter (·.2.resubscribe) = [] := by
    rw [List.filter_filter]
    refine List.filter_eq_nil_iff.mpr fun entry member both => ?_
    exact List.filter_eq_nil_iff.mp plain entry member (Bool.and_eq_true_iff.mp both).1
  rw [PendingTable.insert, List.filter_append, others]
  rfl

theorem Over.of_same (ended : Over s) (phase : t.phase = s.phase)
    (recovery : t.consumer.recovery = s.consumer.recovery)
    (plain : t.pending.entries.filter (·.2.resubscribe) = []) : Over t where
  phase := by
    rw [phase]
    exact ended.phase
  plain := plain
  unled := by
    rw [recovery]
    exact ended.unled

theorem Over.acknowledge (ended : Over s) (now : Instant) (id : RequestId) (ack : Ack) :
    Over (s.acknowledge now id ack) ∧
      ∃ effects, (s.acknowledge now id ack).effects = s.effects ++ effects ∧ Uncalled effects := by
  cases stored : s.pending.find? id with
  | none =>
    rw [acknowledge_unknown now id ack s stored]
    exact ⟨ended, [], (List.append_nil _).symm, .nil⟩
  | some entry =>
    have plain : entry.resubscribe = false := by
      refine Bool.eq_false_of_not_eq_true fun restores => ?_
      exact List.filter_eq_nil_iff.mp ended.plain _ (PendingTable.mem_of_find? stored) restores
    simp only [Session.acknowledge, PendingTable.take?, stored, Option.map_some, plain,
      Bool.false_eq_true, ↓reduceIte, respond_eq]
    refine ⟨ended.of_same rfl rfl ?_, _, rfl, told_uncalled _ _ _⟩
    rw [PendingTable.erase, List.filter_filter]
    refine List.filter_eq_nil_iff.mpr fun other member both => ?_
    exact List.filter_eq_nil_iff.mp ended.plain other member (Bool.and_eq_true_iff.mp both).1

theorem Over.scheduleTick (ended : Over s) (now : Instant) (interval : Duration) :
    Over (s.scheduleTick now interval) ∧ (s.scheduleTick now interval).effects = s.effects := by
  unfold Session.scheduleTick
  cases stage : s.consumer.recovery with
  | none => exact ⟨ended, rfl⟩
  | some recovery =>
    simp only
    cases now.after? interval with
    | none => exact ⟨ended.of_same rfl rfl ended.plain, rfl⟩
    | some nextTick =>
      refine ⟨⟨ended.phase, ended.plain, fun unsent outstanding later held => ?_⟩, rfl⟩
      refine ended.unled unsent outstanding recovery.nextTick (stage.trans ?_)
      have same : recovery.stage = .resubscribing unsent outstanding :=
        congrArg Recovery.stage (Option.some.inj held)
      rw [← same]

theorem Over.replayHead (ended : Over s) (engine : Engine) (a : Accepted) :
    Over (s.replayHead engine a) ∧ Rests s (s.replayHead engine a) := by
  unfold Session.replayHead
  rw [issue_eq]
  cases engine a.request.call with
  | ok number =>
    refine ⟨ended.of_same rfl rfl (plain_insert ended.plain _ _ _), _, rfl, .request .nil _ _ _⟩
  | error cause =>
    simp only [respond_eq]
    split
    · exact ⟨ended.of_same rfl rfl ended.plain, _, rfl, .request .nil _ _ _⟩
    · exact ⟨ended.of_same rfl rfl ended.plain, _, List.append_assoc _ _ _,
        .request (told_uncalled _ _ _) _ _ _⟩

theorem Over.tick (ended : Over s) :
    Over (s.tick engine now) ∧ Rests s (s.tick engine now) := by
  rw [tick_eq]
  split
  · unfold paceNow
    split
    next recovering =>
      split
      next nextTick stage =>
        unfold Session.drainOne
        split
        · have opened : s.phase.accepts .stable = true := by
            rcases ended.phase with phase | phase <;> rw [phase] <;> rfl
          simp only [opened, ↓reduceIte, writePhase, Phase.write, withRecovery]
          exact ⟨⟨.inr rfl, ended.plain, fun _ _ _ => (Option.some_ne_none _).symm⟩, .of_same rfl⟩
        next a queue popped =>
          have taken : Over { s with queue } := ended.of_same rfl rfl ended.plain
          obtain ⟨sent, effects, appended, unrestoring⟩ := taken.replayHead engine a
          obtain ⟨scheduled, same⟩ := sent.scheduleTick now s.settings.drainingInterval
          exact ⟨scheduled, effects, same.trans appended, unrestoring⟩
      next unsent outstanding nextTick stage =>
        exact absurd stage (ended.unled unsent outstanding nextTick)
      next => exact ⟨ended, .of_same rfl⟩
    next =>
      exact ⟨⟨ended.phase, ended.plain, fun _ _ _ => (Option.some_ne_none _).symm⟩, .of_same rfl⟩
  · exact ⟨ended, .of_same rfl⟩

theorem Over.after (ended : Over s) (undisturbed : Undisturbed m s) :
    Over (s.after m) ∧ Rests s (s.after m) := by
  have aside (others : m.isConsumers = false)
      (unrequested : ∀ request caller, m.step ≠ .request request caller) :
      Over (s.after m) ∧ Rests s (s.after m) := by
    have still := still_aside undisturbed others (.inr unrequested)
    refine ⟨ended.of_same still.phase (congrArg Consumer.recovery still.consumer) ?_,
      .of_same still.effects⟩
    rw [still.pending]
    exact ended.plain
  obtain ⟨step, engine⟩ := m
  cases step with
  | request request caller =>
    have routed : Routed engine _ _ s (s.route engine request caller) :=
      route_routed request caller s
    change Over (s.route engine request caller).2 ∧ Rests s (s.route engine request caller).2
    generalize s.route engine request caller = result at routed ⊢
    cases routed with
    | sent number taken ready =>
      exact ⟨ended.of_same rfl rfl (plain_insert ended.plain _ _ _), _, rfl, .request .nil _ _ _⟩
    | refused error cause refused ready =>
      exact ⟨ended.of_same rfl rfl ended.plain, _, rfl, .request .nil _ _ _⟩
    | _ => exact ⟨ended.of_same rfl rfl ended.plain, .of_same rfl⟩
  | dispatch now =>
    have calm := dispatch_calm undisturbed
    change Over (s.dispatch engine now) ∧ Rests s (s.dispatch engine now)
    generalize s.dispatch engine now = t at calm ⊢
    cases calm with
    | idle none => exact ⟨ended, .of_same rfl⟩
    | acknowledges id ack given =>
      have taken : Over { s with events := s.events.next.2 } :=
        ended.of_same rfl rfl ended.plain
      obtain ⟨acknowledged, effects, appended, uncalled⟩ := taken.acknowledge now id ack
      exact ⟨acknowledged, effects, appended, .of_uncalled uncalled⟩
    | delivers consumer effects none same hooks =>
      exact ⟨ended.of_same rfl same ended.plain, effects, rfl, .of_uncalled (.hooks hooks)⟩
  | tick now => exact ended.tick
  | _ => exact aside rfl fun _ _ => Step.noConfusion

theorem Stuck.after (stuck : Stuck s) (undisturbed : Undisturbed m s) :
    Stuck (s.after m) ∧ Rests s (s.after m) := by
  have recovering : s.phase.isRecovering = true := by rw [stuck.phase]; rfl
  have same (rests : s.after m = s) : Stuck (s.after m) ∧ Rests s (s.after m) := by
    rw [rests]
    exact ⟨stuck, .of_same rfl⟩
  have aside (others : m.isConsumers = false) : Stuck (s.after m) ∧ Rests s (s.after m) := by
    have still := still_aside undisturbed others (.inl recovering)
    refine ⟨⟨still.phase.trans stuck.phase, ?_, ?_⟩, .of_same still.effects⟩
    · rw [still.pending]
      exact stuck.plain
    · rw [still.consumer]
      exact stuck.halted
  obtain ⟨step, engine⟩ := m
  cases step with
  | dispatch now =>
    refine same ?_
    change s.dispatch engine now = s
    simp only [Session.dispatch, nextEvent?, stuck.halted, ↓reduceIte]
  | tick now =>
    refine same ?_
    change s.tick engine now = s
    simp only [Session.tick, stuck.halted, ↓reduceIte]
  | _ => exact aside rfl

/-! ### Runs -/

theorem filterMap_since_cons {β : Type} (f : Effect → Option β) (m : Move) (rest : List Move)
    (s : Session) :
    (since s (run (m :: rest) s)).filterMap f =
      (since s (s.after m)).filterMap f ++
        (since (s.after m) (run rest (s.after m))).filterMap f := by
  rw [since_run_cons, List.filterMap_append]

structure Restores (s u : Session) (r r' : Restoration) (stalled : Bool) : Prop where
  calls : r'.calls = r.calls ++ ((since s u).filterMap Effect.restoration?).map Prod.fst
  outcome : Underway u r' ∧ (∀ e ∈ since s u, e.ticket? = none) ∧ stalled = false ∨
    r'.isOpen = false ∧ (Over u ∧ stalled = false ∨ Stuck u ∧ stalled = true)

/-- What every step keeps up once all subscriptions are settled stays so in a run. -/
theorem run_settled {P : Session → Prop}
    (step : ∀ m s, P s → Undisturbed m s → P (s.after m) ∧ Rests s (s.after m))
    (closed : r.isOpen = false) (moves : List Move) (holds : P s)
    (undisturbed : UndisturbedAlong moves s) :
    P (run moves s) ∧ restorationAlong moves s r = r ∧ stallsAlong moves s r = false ∧
      (since s (run moves s)).filterMap Effect.restoration? = [] := by
  induction moves generalizing s with
  | nil =>
    refine ⟨holds, rfl, rfl, ?_⟩
    rw [run, since_self]
    rfl
  | cons m rest ih =>
    obtain ⟨next, rests⟩ := step m s holds undisturbed.1
    obtain ⟨last, same, unstalled, none⟩ := ih next undisturbed.2
    refine ⟨last, ?_, ?_, ?_⟩
    · rw [restorationAlong, restorationAfter_closed closed, same]
    · rw [stallsAlong, restorationAfter_closed closed, stalls_of_closed closed, unstalled]
      rfl
    · rw [filterMap_since_cons, none, rests.unrestoring]
      rfl

theorem Over.run (ended : Over s) (closed : r.isOpen = false) (moves : List Move)
    (undisturbed : UndisturbedAlong moves s) :
    Restores s (run moves s) r (restorationAlong moves s r) (stallsAlong moves s r) := by
  obtain ⟨last, same, unstalled, none⟩ :=
    run_settled (fun _ _ ended => Over.after ended) closed moves ended undisturbed
  rw [same, unstalled]
  refine ⟨?_, .inr ⟨closed, .inl ⟨last, rfl⟩⟩⟩
  rw [none, List.map_nil, List.append_nil]

theorem Underway.run (underway : Underway s r) (moves : List Move)
    (undisturbed : UndisturbedAlong moves s) :
    Restores s (run moves s) r (restorationAlong moves s r) (stallsAlong moves s r) := by
  induction moves generalizing s r with
  | nil =>
    refine ⟨?_, .inl ⟨underway, ?_, rfl⟩⟩
    · rw [Session.run, since_self, List.filterMap_nil, List.map_nil, List.append_nil]
      rfl
    · rw [Session.run, since_self]
      exact fun e member => absurd member List.not_mem_nil
  | cons m rest ih =>
    have step := underway.after undisturbed.1
    -- The calls of the first step come before those of the others.
    have joined {r' : Restoration} (later : r'.calls = (restorationAfter m s r).calls ++
        ((since (s.after m) (Session.run rest (s.after m))).filterMap Effect.restoration?).map
          Prod.fst) :
        r'.calls = r.calls ++
          ((since s (Session.run (m :: rest) s)).filterMap Effect.restoration?).map Prod.fst := by
      rw [filterMap_since_cons, List.map_append, later, step.calls, List.append_assoc]
    rw [restorationAlong, stallsAlong]
    rcases step.outcome with ⟨next, unstalled⟩ | ⟨closed, ⟨next, unstalled⟩ | ⟨next, stalled⟩⟩
    · have later := ih next undisturbed.2
      refine ⟨joined later.calls, ?_⟩
      rw [unstalled, Bool.false_or]
      rcases later.outcome with ⟨last, silent, steady⟩ | beyond
      · refine .inl ⟨last, fun e member => ?_, steady⟩
        rw [since_run_cons] at member
        exact (List.mem_append.mp member).elim (step.silent e) (silent e)
      · exact .inr beyond
    · have later := next.run closed rest undisturbed.2
      refine ⟨joined later.calls, ?_⟩
      rw [unstalled, Bool.false_or]
      refine .inr ?_
      rcases later.outcome with ⟨last, -, -⟩ | settled
      · have same := (run_settled (fun _ _ ended => Over.after ended) closed rest next
          undisturbed.2).2.1
        rw [same] at last
        exact absurd (closed.symm.trans last.unsettled) Bool.false_ne_true
      · exact settled
    · obtain ⟨last, same, -, none⟩ :=
        run_settled (fun _ _ stuck => Stuck.after stuck) closed rest next undisturbed.2
      rw [same, stalled, Bool.true_or]
      refine ⟨joined ?_, .inr ⟨closed, .inr ⟨last, rfl⟩⟩⟩
      rw [none, List.map_nil, List.append_nil]

/-- How an accepted session restores the records of its registry. -/
structure Resubscribes (records : List Subscription) (t u : Session) (r : Restoration)
    (stalled : Bool) : Prop where
  same : r.records = records
  /-- Each record is sent once, in the order of the registry. -/
  inOrder : ((since t u).filterMap Effect.restoration?).map Prod.fst ++
    r.unsent.map Subscription.call = records.map Subscription.call
  pending : u.pending.entries.filter (·.2.resubscribe) = r.waiting
  /-- As long as a record is unsent or its entry is in the table, the session waits for it. -/
  underway : r.isOpen = true → u.phase = .resubscribing ∧
    (∃ nextTick, u.consumer.recovery = some ⟨.resubscribing r.unsent
      (r.unsent.length + (u.pending.entries.filter (·.2.resubscribe)).length), nextTick⟩) ∧
    ∀ e ∈ since t u, e.ticket? = none
  /-- As soon as every record is refused or acknowledged, it goes on. -/
  completed : r.isOpen = false → ((u.phase = .draining ∨ u.phase = .stable) ↔ stalled = false)

theorem welcomed (engine : Engine) (now : Instant) (connecting : s.phase = .connecting)
    (accepted : s.nextEvent?.map Event.kind = some (.connack 0))
    (clear : ∀ entry ∈ s.pending.entries, entry.2.resubscribe = false) :
    let t := s.dispatch engine now
    Underway t { unsent := s.registry.records } ∨ s.registry.records = [] ∧ Over t := by
  intro t
  obtain ⟨e, next, kind⟩ := Option.map_eq_some_iff.mp accepted
  have plain : (s.pending.erase .connect).entries.filter (·.2.resubscribe) = [] :=
    List.filter_eq_nil_iff.mpr fun entry member restores =>
      absurd ((clear entry (List.mem_filter.mp member).1).symm.trans restores) Bool.false_ne_true
  have handled : t = (({ s with events := s.events.next.2 } : Session).answer .connect
      (.connected 0)).welcome now := by
    change s.dispatch engine now = _
    rw [dispatch_eq s next, handle, kind]
    rfl
  rw [answer_eq, welcome_eq, if_pos connecting] at handled
  rw [handled]
  cases records : s.registry.records with
  | nil =>
    refine .inr ⟨rfl, .inl ?_, plain, fun unsent outstanding nextTick stage => ?_⟩
    · simp only [List.isEmpty_nil, ↓reduceIte]
    · simp only [List.isEmpty_nil, ↓reduceIte] at stage
      cases stage
  | cons record rest =>
    refine .inl ⟨?_, ⟨now, ?_⟩, plain, ?_, List.nodup_nil, rfl⟩
    · simp only [List.isEmpty_cons, Bool.false_eq_true, ↓reduceIte]
    · simp only [List.isEmpty_cons, Bool.false_eq_true, ↓reduceIte]
      rfl
    · exact fun entry member => absurd member List.not_mem_nil

/-- An accepted session restores its subscriptions before it sends anything else, and goes on with
the last one that is settled, in just those runs in which the clock can name the time of the step
after it. -/
theorem resubscription_completes (s : Session) (engine : Engine) (now : Instant) (moves : List Move)
    (connecting : s.phase = .connecting)
    (accepted : s.nextEvent?.map Event.kind = some (.connack 0))
    (clear : ∀ entry ∈ s.pending.entries, entry.2.resubscribe = false)
    (undisturbed : UndisturbedAlong moves (s.after ⟨.dispatch now, engine⟩)) :
    let t := s.after ⟨.dispatch now, engine⟩
    Resubscribes s.registry.records t (run moves t)
      (restorationAlong moves t { unsent := s.registry.records })
      (stallsAlong moves t { unsent := s.registry.records }) := by
  intro t
  have restores : Restores t (run moves t) { unsent := s.registry.records }
      (restorationAlong moves t { unsent := s.registry.records })
      (stallsAlong moves t { unsent := s.registry.records }) := by
    rcases welcomed engine now connecting accepted clear with
      underway | ⟨none, ended⟩
    · exact underway.run moves undisturbed
    · exact ended.run (by rw [none]; rfl) moves undisturbed
  have records (moves : List Move) (s : Session) (r : Restoration) :
      (restorationAlong moves s r).records = r.records := by
    induction moves generalizing s r with
    | nil => rfl
    | cons m rest ih => exact (ih _ _).trans (records_restorationAfter m s r)
  have same := records moves t { unsent := s.registry.records }
  generalize restorationAlong moves t { unsent := s.registry.records } = r at restores same
  constructor
  · exact same
  · have sent : r.calls = ((since t (run moves t)).filterMap Effect.restoration?).map Prod.fst :=
      restores.calls
    change r.records = s.registry.records at same
    rw [← sent, ← same, Restoration.records, Restoration.calls, List.map_append, List.map_map]
    rfl
  · rcases restores.outcome with ⟨underway, -, -⟩ | ⟨closed, ⟨ended, -⟩ | ⟨stuck, -⟩⟩
    · exact underway.pending
    · rw [ended.plain, (Restoration.closed_iff.mp closed).2]
    · rw [stuck.plain, (Restoration.closed_iff.mp closed).2]
  · intro unsettled
    rcases restores.outcome with ⟨underway, silent, -⟩ | ⟨closed, -⟩
    · rw [underway.pending]
      exact ⟨underway.phase, underway.recovery, silent⟩
    · exact absurd (closed.symm.trans unsettled) Bool.false_ne_true
  · intro closed
    rcases restores.outcome with ⟨underway, -, -⟩ | ⟨-, ⟨ended, unstalled⟩ | ⟨stuck, stalled⟩⟩
    · exact absurd (closed.symm.trans underway.unsettled) Bool.false_ne_true
    · exact ⟨fun _ => unstalled, fun _ => ended.phase⟩
    · rw [stuck.phase, stalled]
      constructor
      · rintro (phase | phase) <;> exact Phase.noConfusion phase
      · exact fun steady => Bool.noConfusion steady

/-- A session with one subscription is lost, and connects again after its application has set the
interval of the recovery. -/
def reconnectingWith (interval : Duration) : Session :=
  run [⟨.connect (.notified none), numbering 1⟩, ⟨.report (.connack 0), numbering 1⟩,
    ⟨.dispatch 0, numbering 1⟩, ⟨.tick 0, numbering 1⟩,
    ⟨.request ⟨"t", .subscribe .atMostOnce ⟨"h"⟩, none⟩ (.notified none), numbering 1⟩,
    ⟨.report (.suback 1 (.granted .atMostOnce)), numbering 1⟩, ⟨.dispatch 0, numbering 1⟩,
    ⟨.report (.disconnect 0), numbering 1⟩, ⟨.dispatch 0, numbering 1⟩,
    ⟨.connect (.notified none), numbering 1⟩, ⟨.adjust (.drainingInterval interval), numbering 1⟩,
    ⟨.report (.connack 0), numbering 1⟩] (start .standard)

def refusing : List Move := [⟨.tick 0, fun _ => .error .notConnected⟩]

theorem reconnecting_completes :
    let s := reconnectingWith Settings.standard.drainingInterval
    (s.phase = .connecting ∧ s.nextEvent?.map Event.kind = some (.connack 0) ∧
      (∀ entry ∈ s.pending.entries, entry.2.resubscribe = false) ∧
      UndisturbedAlong refusing (s.after ⟨.dispatch 0, numbering 1⟩)) ∧
      (run refusing (s.after ⟨.dispatch 0, numbering 1⟩)).phase = .draining := by
  intro s
  have connecting : s.phase = .connecting := by decide +kernel
  have accepted : s.nextEvent?.map Event.kind = some (.connack 0) := by decide +kernel
  have clear : ∀ entry ∈ s.pending.entries, entry.2.resubscribe = false := by decide +kernel
  have undisturbed : UndisturbedAlong refusing (s.after ⟨.dispatch 0, numbering 1⟩) := by
    decide +kernel
  have completes :=
    resubscription_completes s (numbering 1) 0 refusing connecting accepted clear undisturbed
  have closed : (restorationAlong refusing (s.after ⟨.dispatch 0, numbering 1⟩)
      { unsent := s.registry.records }).isOpen = false := by decide +kernel
  have unstalled : stallsAlong refusing (s.after ⟨.dispatch 0, numbering 1⟩)
      { unsent := s.registry.records } = false := by decide +kernel
  have unstable : (run refusing (s.after ⟨.dispatch 0, numbering 1⟩)).phase ≠ .stable := by
    decide +kernel
  exact ⟨⟨connecting, accepted, clear, undisturbed⟩,
    ((completes.completed closed).mpr unstalled).resolve_right unstable⟩

/-- With an interval that leads beyond the clock, the consumer ends and the session never goes on. -/
theorem reconnecting_stalls :
    let s := reconnectingWith ⟨maxNanoseconds, Nat.le_refl _⟩
    let u := run refusing (s.after ⟨.dispatch 0, numbering 1⟩)
    (s.phase = .connecting ∧ s.nextEvent?.map Event.kind = some (.connack 0) ∧
      (∀ entry ∈ s.pending.entries, entry.2.resubscribe = false) ∧
      UndisturbedAlong refusing (s.after ⟨.dispatch 0, numbering 1⟩)) ∧
      (restorationAlong refusing (s.after ⟨.dispatch 0, numbering 1⟩)
        { unsent := s.registry.records }).isOpen = false ∧
      u.consumer.halted = true ∧ ¬(u.phase = .draining ∨ u.phase = .stable) := by
  decide +kernel

end DurableMqtt.Session
