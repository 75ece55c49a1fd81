import DurableMqtt.Proofs.Run.Answering

/-!
How a session that was accepted again sends what was parked.

Each paced step sends the oldest parked request. It leaves the queue when the engine takes it or
refuses it for good, and keeps its place when the engine is busy. So the steps that get nowhere are
those on which the engine is busy, and the first step after as many others as there are requests
finds the queue empty.
-/

namespace DurableMqtt

def Consumer.rescheduled (now : Instant) (interval : Duration) (c : Consumer) : Consumer :=
  match c.recovery with
  | none => c
  | some r =>
    match now.after? interval with
    | some nextTick => { c with recovery := some { r with nextTick } }
    | none => { c with chores := [], halted := true }

def Effect.isBusy : Effect → Bool
  | called _ (.error cause) _ => cause.isTransient
  | _ => false

structure Tick where
  now : Instant
  engine : Engine

def Tick.move (tick : Tick) : Move := ⟨.tick tick.now, tick.engine⟩

/-- Each step is taken when it is due, at a point that the clock can name. -/
def Timely (interval : Duration) : Instant → List Tick → Prop
  | _, [] => True
  | due, tick :: rest =>
    due ≤ tick.now ∧ tick.now < Instant.limit ∧
      Timely interval (tick.now + interval.nanoseconds) rest

theorem Timely.named {interval : Duration} {due : Instant} {ticks : List Tick} {next : Tick}
    (timely : Timely interval due (ticks ++ [next])) : due < Instant.limit := by
  cases ticks with
  | nil => exact Nat.lt_of_le_of_lt timely.1 timely.2.1
  | cons tick rest => exact Nat.lt_of_le_of_lt timely.1 timely.2.1

instance Timely.decidable (interval : Duration) :
    (due : Instant) → (ticks : List Tick) → Decidable (Timely interval due ticks)
  | _, [] => .isTrue trivial
  | due, tick :: rest =>
    have := Timely.decidable interval (tick.now + interval.nanoseconds) rest
    inferInstanceAs (Decidable (due ≤ tick.now ∧ tick.now < Instant.limit ∧
      Timely interval (tick.now + interval.nanoseconds) rest))

namespace Session

variable {s t u : Session} {engine : Engine} {now due : Instant} {a : Accepted}
  {rest : List Accepted}

def retries (s t : Session) : Nat := (since s t).countP Effect.isBusy

/-- An accepted session sends its queue, and the next paced step is due. -/
structure IsDraining (s : Session) (due : Instant) : Prop where
  running : s.consumer.halted = false
  phase : s.phase = .draining
  recovery : s.consumer.recovery = some ⟨.draining, due⟩

/-- What sending the oldest parked request comes to. -/
inductive Attempted (engine : Engine) (a : Accepted) (rest : List Accepted) (consumer : Consumer)
    (s : Session) : Session → Prop where
  | accepted (number : UInt32) (taken : engine a.request.call = .ok number) :
      Attempted engine a rest consumer s
        { s with
          consumer
          queue := { s.queue with items := rest }
          pending := s.pending.insert (.packet number) (entryOf a (a.request.onAck.map .pooled))
          effects := s.effects ++ [.called a.request.call (.ok number) (some a.ticket)] }
  /-- The request keeps its place. -/
  | putOff (cause : EngineError) (refused : engine a.request.call = .error cause)
      (transient : cause.isTransient = true) :
      Attempted engine a rest consumer s
        { s with
          consumer
          effects := s.effects ++ [.called a.request.call (.error cause) (some a.ticket)] }
  | discarded (cause : EngineError) (refused : engine a.request.call = .error cause)
      (permanent : cause.isTransient = false) :
      Attempted engine a rest consumer s
        { s with
          consumer
          queue := { s.queue with items := rest }
          effects := s.effects ++ ([.called a.request.call (.error cause) (some a.ticket)] ++
            told .queued (a.request.onAck.map .pooled) .discarded) }

/-! ### One step -/

theorem scheduleTick_rescheduled (now : Instant) (interval : Duration) (s : Session) :
    s.scheduleTick now interval = { s with consumer := s.consumer.rescheduled now interval } := by
  unfold scheduleTick Consumer.rescheduled
  cases stage : s.consumer.recovery with
  | none => rfl
  | some r =>
    cases now.after? interval with
    | none => simp only [halt, stage]
    | some nextTick => rfl

theorem drainOne_attempted (interval : Duration) (s : Session) (head : s.queue.items = a :: rest) :
    Attempted engine a rest (s.consumer.rescheduled now interval) s
      (s.drainOne engine now interval) := by
  simp only [drainOne, OfflineQueue.pop, head, replayHead, issue_eq, scheduleTick_rescheduled]
  cases answer : engine a.request.call with
  | ok number => exact .accepted number answer
  | error cause =>
    cases transient : cause.isTransient with
    | true =>
      simp only [transient, ↓reduceIte, OfflineQueue.restore, List.cons_append, List.nil_append,
        ← head]
      exact .putOff cause answer transient
    | false =>
      simp only [transient, Bool.false_eq_true, ↓reduceIte, respond_eq, List.append_assoc]
      exact .discarded cause answer transient

def settledDown (s : Session) : Session :=
  { s with
    phase := .stable
    backoff := s.backoff.startTimer
    consumer := { s.consumer with recovery := none } }

theorem drainOne_empty (interval : Duration) (s : Session) (empty : s.queue.items = [])
    (phase : s.phase = .draining) : s.drainOne engine now interval = s.settledDown := by
  simp only [drainOne, OfflineQueue.pop, empty, phase, Phase.accepts, writePhase, Phase.write]
  rfl

theorem tick_draining (draining : IsDraining s due) (onTime : due ≤ now) :
    s.tick engine now = s.drainOne engine now s.settings.drainingInterval := by
  have dueNow : s.isDue now = true := by
    rw [isDue, draining.recovery]
    exact decide_eq_true onTime
  rw [tick_eq, draining.running, dueNow]
  change s.paceNow engine now = _
  rw [paceNow, if_pos (.inr draining.phase), draining.recovery]

theorem tick_recovered (recovered : s.consumer.recovery = none) : s.tick engine now = s := by
  have undue : s.isDue now = false := by
    rw [isDue, recovered]
    rfl
  rw [tick_eq, undue, Bool.and_false]
  rfl

theorem rescheduled_draining (draining : IsDraining s due) {interval : Duration}
    (named : now + interval.nanoseconds < Instant.limit) :
    s.consumer.rescheduled now interval =
      { s.consumer with recovery := some ⟨.draining, now + interval.nanoseconds⟩ } := by
  rw [Consumer.rescheduled, draining.recovery, Instant.after?, if_pos named]

theorem Attempted.draining {interval : Duration}
    (attempted : Attempted engine a rest (s.consumer.rescheduled now interval) s t)
    (draining : IsDraining s due) (named : now + interval.nanoseconds < Instant.limit) :
    IsDraining t (now + interval.nanoseconds) := by
  rw [rescheduled_draining draining named] at attempted
  cases attempted <;> exact ⟨draining.running, draining.phase, rfl⟩

theorem Attempted.aside {consumer : Consumer} (attempted : Attempted engine a rest consumer s t) :
    t.settings = s.settings ∧ t.backoff = s.backoff := by
  cases attempted <;> exact ⟨rfl, rfl⟩

theorem told_unbusy (id : RequestId) (responder : Option Responder) (ack : Ack) :
    (told id responder ack).countP Effect.isBusy = 0 := by
  cases responder with
  | none => rfl
  | some responder => cases responder <;> rfl

/-- An attempt either takes the head out of the queue or counts as a retry. -/
theorem Attempted.settles {consumer : Consumer} (attempted : Attempted engine a rest consumer s t)
    (head : s.queue.items = a :: rest) :
    t.queue.items = rest ∧ retries s t = 0 ∨ t.queue.items = a :: rest ∧ retries s t = 1 := by
  cases attempted with
  | accepted number taken =>
    refine .inl ⟨rfl, ?_⟩
    rw [retries, since_of_append rfl]
    rfl
  | putOff cause refused transient =>
    refine .inr ⟨head, ?_⟩
    rw [retries, since_of_append rfl, List.countP_singleton, Effect.isBusy, transient]
    rfl
  | discarded cause refused permanent =>
    refine .inl ⟨rfl, ?_⟩
    rw [retries, since_of_append rfl, List.countP_append, told_unbusy, List.countP_singleton,
      Effect.isBusy, permanent]
    rfl

theorem tick_attempted (draining : IsDraining s due) (onTime : due ≤ now)
    (head : s.queue.items = a :: rest) :
    Attempted engine a rest (s.consumer.rescheduled now s.settings.drainingInterval) s
      (s.tick engine now) := by
  rw [tick_draining draining onTime]
  exact drainOne_attempted s.settings.drainingInterval s head

theorem tick_settledDown (draining : IsDraining s due) (onTime : due ≤ now)
    (empty : s.queue.items = []) : s.tick engine now = s.settledDown := by
  rw [tick_draining draining onTime]
  exact drainOne_empty s.settings.drainingInterval s empty draining.phase

/-! ### All steps -/

theorem retries_trans (first : s.effects <+: t.effects) (second : t.effects <+: u.effects) :
    retries s u = retries s t + retries t u := by
  obtain ⟨early, there⟩ := first
  obtain ⟨late, here⟩ := second
  have whole : u.effects = s.effects ++ (early ++ late) := by
    rw [← here, ← there, List.append_assoc]
  rw [retries, retries, retries, since_of_append there.symm, since_of_append here.symm,
    since_of_append whole, List.countP_append]

theorem retries_of_same (same : t.effects = s.effects) : retries s t = 0 := by
  rw [retries, since_of_same same, List.countP_nil]

theorem run_recovered (ticks : List Tick) (recovered : s.consumer.recovery = none) :
    run (ticks.map Tick.move) s = s := by
  induction ticks with
  | nil => rfl
  | cons tick rest ih =>
    have same : s.after tick.move = s := tick_recovered recovered
    rw [List.map_cons, run, same]
    exact ih

structure Progress (next : Tick) (steps : Nat) (s u : Session) : Prop where
  few : retries s u ≤ steps
  /-- As long as requests may be left, those are parked that were not settled yet. -/
  pursued : steps ≤ s.queue.items.length + retries s u →
    u.queue.items = s.queue.items.drop (steps - retries s u) ∧ u.backoff = s.backoff ∧
      ∃ due, IsDraining u due ∧ due ≤ next.now
  finished : s.queue.items.length + retries s u < steps →
    u.queue.items = [] ∧ u.consumer.recovery = none

theorem Progress.of_shorter {next : Tick} {steps : Nat} (items : s.queue.items = a :: rest)
    (shorter : t.queue.items = rest) (backoff : t.backoff = s.backoff)
    (same : retries s u = retries t u) (later : Progress next steps t u) :
    Progress next (steps + 1) s u := by
  obtain ⟨few, pursued, finished⟩ := later
  rw [shorter] at pursued finished
  constructor
  case few => omega
  case pursued =>
    intro left
    rw [items, List.length_cons] at left
    have settled :
        (a :: rest).drop (steps + 1 - retries t u) = rest.drop (steps - retries t u) := by
      rw [Nat.succ_sub few, List.drop_succ_cons]
    rw [items, same, settled, ← backoff]
    exact pursued (by omega)
  case finished =>
    intro beyond
    rw [items, List.length_cons] at beyond
    exact finished (by omega)

theorem Progress.of_busy {next : Tick} {steps : Nat} (items : t.queue.items = s.queue.items)
    (backoff : t.backoff = s.backoff) (busy : retries s u = retries t u + 1)
    (later : Progress next steps t u) : Progress next (steps + 1) s u := by
  obtain ⟨few, pursued, finished⟩ := later
  rw [items] at pursued finished
  constructor
  case few => omega
  case pursued =>
    intro left
    rw [busy, Nat.add_sub_add_right, ← backoff]
    exact pursued (by omega)
  case finished => exact fun beyond => finished (by omega)

theorem progress (ticks : List Tick) (next : Tick) (draining : IsDraining s due)
    (timely : Timely s.settings.drainingInterval due (ticks ++ [next])) :
    Progress next ticks.length s (run (ticks.map Tick.move) s) := by
  induction ticks generalizing s due with
  | nil =>
    have none : retries s s = 0 := retries_of_same rfl
    simp only [List.map_nil, run, List.length_nil]
    refine ⟨none.le, fun _ => ⟨?_, rfl, due, draining, timely.1⟩, fun beyond => ?_⟩
    · rw [none, Nat.sub_zero, List.drop_zero]
    · exact absurd beyond (Nat.not_lt_zero _)
  | cons tick rest ih =>
    obtain ⟨onTime, -, later⟩ := timely
    change Progress next (rest.length + 1) s
      (run (rest.map Tick.move) (s.tick tick.engine tick.now))
    cases items : s.queue.items with
    | nil =>
      -- The session is stable, so the steps that are left change nothing.
      rw [tick_settledDown draining onTime items, run_recovered rest rfl]
      have none : retries s s.settledDown = 0 := retries_of_same rfl
      refine ⟨by omega, fun left => ?_, fun _ => ⟨items, rfl⟩⟩
      rw [items, none] at left
      exact absurd left (Nat.not_succ_le_zero _)
    | cons a others =>
      have attempted : Attempted tick.engine a others
          (s.consumer.rescheduled tick.now s.settings.drainingInterval) s
          (s.tick tick.engine tick.now) := tick_attempted draining onTime items
      have grown : s.effects <+: (s.tick tick.engine tick.now).effects :=
        (framed tick.move s).effects
      generalize s.tick tick.engine tick.now = t at attempted grown ⊢
      obtain ⟨settings, backoff⟩ := attempted.aside
      have whole := retries_trans grown (run_effects_grow (rest.map Tick.move) t)
      have further : Progress next rest.length t (run (rest.map Tick.move) t) := by
        refine ih (attempted.draining draining (Timely.named later)) ?_
        rw [settings]
        exact later
      rcases attempted.settles items with ⟨shorter, sent⟩ | ⟨same, busy⟩
      · exact further.of_shorter items shorter backoff (by rw [whole, sent, Nat.zero_add])
      · exact further.of_busy (same.trans items.symm) backoff (by rw [whole, busy, Nat.add_comm])

/-! ### The whole of it -/

/-- What a session comes to that sends its queue in the given steps, and then in one more. -/
structure Replays (ticks : List Tick) (next : Tick) (s u t : Session) : Prop where
  /-- As long as a request is parked, the step sends the oldest one. -/
  attempted : ∀ a rest, u.queue.items = a :: rest →
    Attempted next.engine a rest (u.consumer.rescheduled next.now u.settings.drainingInterval) u t
  /-- An accepted request moves to the table. -/
  moved : ∀ a rest number, u.queue.items = a :: rest → next.engine a.request.call = .ok number →
    u.pending.find? (.packet number) = none →
    t.pending.entries =
      u.pending.entries ++ [(.packet number, entryOf a (a.request.onAck.map .pooled))]
  /-- Until every request was settled and every retry made, the session is not stable. -/
  pursued : ticks.length ≤ s.queue.items.length + retries s u →
    u.queue.items = s.queue.items.drop (ticks.length - retries s u) ∧ u.phase = .draining ∧
      u.backoff = s.backoff ∧ u.consumer.recovery.isSome
  /-- On the first step after that, it is, and its stability timer runs under a generation of its
  own. -/
  settled : ticks.length = s.queue.items.length + retries s u →
    u.queue.items = [] ∧
      t = { u with
        phase := .stable
        backoff := { u.backoff with
          generation := u.backoff.generation + 1
          armed := true
          timers := u.backoff.timers ++ [⟨u.backoff.generation + 1, u.backoff.timing.stable⟩] }
        consumer := { u.consumer with recovery := none } }

theorem insert_fresh {table : PendingTable} {id : RequestId} (fresh : table.find? id = none)
    (entry : PendingEntry) : (table.insert id entry).entries = table.entries ++ [(id, entry)] := by
  have others := congrArg PendingTable.entries (PendingTable.erase_of_find?_none table id fresh)
  exact congrArg (· ++ [(id, entry)]) others

/-- In any number of paced steps that are taken one after the other, the parked requests are sent in
their order, each until it is settled, and the session becomes stable on the step after. -/
theorem queue_replayed (ticks : List Tick) (next : Tick) (s : Session) (due : Instant)
    (draining : IsDraining s due)
    (timely : Timely s.settings.drainingInterval due (ticks ++ [next])) :
    Replays ticks next s (run (ticks.map Tick.move) s)
      (run ((ticks ++ [next]).map Tick.move) s) := by
  have came := progress ticks next draining timely
  rw [List.map_append, run_append]
  generalize run (ticks.map Tick.move) s = u at came ⊢
  change Replays ticks next s u (u.tick next.engine next.now)
  have parked (a : Accepted) (rest : List Accepted) (items : u.queue.items = a :: rest) :
      Attempted next.engine a rest (u.consumer.rescheduled next.now u.settings.drainingInterval) u
        (u.tick next.engine next.now) := by
    rcases Nat.lt_or_ge (s.queue.items.length + retries s u) ticks.length with beyond | left
    · rw [(came.finished beyond).1] at items
      cases items
    · obtain ⟨-, -, due, here, onTime⟩ := came.pursued left
      exact tick_attempted here onTime items
  constructor
  case attempted => exact parked
  case moved =>
    intro a rest number items taken fresh
    have attempted := parked a rest items
    generalize u.tick next.engine next.now = t at attempted ⊢
    cases attempted with
    | accepted number' taken' =>
      cases taken.symm.trans taken'
      exact insert_fresh fresh _
    | putOff cause refused transient => cases taken.symm.trans refused
    | discarded cause refused permanent => cases taken.symm.trans refused
  case pursued =>
    intro left
    obtain ⟨items, backoff, due, here, -⟩ := came.pursued left
    exact ⟨items, here.phase, backoff, by rw [here.recovery]; rfl⟩
  case settled =>
    intro count
    obtain ⟨items, -, due, here, onTime⟩ := came.pursued count.le
    have empty : u.queue.items = [] := by
      rw [items, List.drop_eq_nil_iff]
      omega
    exact ⟨empty, tick_settledDown here onTime empty⟩

def parkingRun : List Move :=
  [⟨.connect (.notified none), numbering 1⟩, ⟨.request publishing (.notified none), numbering 1⟩,
   ⟨.request publishing (.notified (some ⟨"A"⟩)), numbering 1⟩,
   ⟨.report (.connack 0), numbering 1⟩, ⟨.dispatch 0, numbering 1⟩]

/-- The engine is busy at first, and takes a request on each of the next two steps. -/
def busyTicks : List Tick :=
  [⟨0, fun _ => .error (.busy "later")⟩, ⟨500000000, numbering 1⟩, ⟨1000000000, numbering 2⟩]

/-- The fourth step makes the session stable. -/
theorem parkingRun_replayed :
    let s := run parkingRun (start .standard)
    let next : Tick := ⟨1500000000, numbering 3⟩
    IsDraining s 0 ∧ Timely s.settings.drainingInterval 0 (busyTicks ++ [next]) ∧
      s.queue.items.length = 2 ∧ retries s (run (busyTicks.map Tick.move) s) = 1 ∧
      (run (busyTicks.map Tick.move) s).queue.items = [] ∧
      (run ((busyTicks ++ [next]).map Tick.move) s).phase = .stable := by
  intro s next
  have draining : IsDraining s 0 := ⟨by decide +kernel, by decide +kernel, rfl⟩
  have timely : Timely s.settings.drainingInterval 0 (busyTicks ++ [next]) := by decide +kernel
  have parked : s.queue.items.length = 2 := by decide +kernel
  have retried : retries s (run (busyTicks.map Tick.move) s) = 1 := by decide +kernel
  have replayed := queue_replayed busyTicks next s 0 draining timely
  obtain ⟨empty, stable⟩ := replayed.settled (by rw [parked, retried]; rfl)
  exact ⟨draining, timely, parked, retried, empty, congrArg Session.phase stable⟩

end Session

end DurableMqtt
