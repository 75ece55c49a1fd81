import DurableMqtt.Proofs.Run.Steering

/-!
How fast a session that was accepted again sends its subscriptions and its queue.

Each attempt puts the next one off by the interval that was read for it, and nothing but the
beginning of another phase brings it forward: neither the events that are dispatched meanwhile nor
the looks after each of them. A phase begins with an attempt that is due at once, so it is made in
the turn that is under way or in the next one.
-/

namespace DurableMqtt

/-- When something was sent again, and the interval that was read for it. -/
structure Attempt where
  made : Instant
  interval : Duration
deriving DecidableEq

def Event.isConnection (e : Event) : Bool :=
  match e.kind with
  | .connack _ | .disconnect _ => true
  | _ => false

def Act.isWork : Act → Bool
  | .work .. => true
  | _ => false

namespace Session

def attempt? (a : Act) (s : Session) : Option Attempt :=
  match a, s.consumer.chores with
  | .work _ now, .resubscribeOne interval :: _ =>
    if s.unsent.isEmpty then none else some ⟨now, interval⟩
  | .work _ now, .drainOne interval :: _ =>
    if s.queue.items.isEmpty then none else some ⟨now, interval⟩
  | _, _ => none

def attempts : List Act → Session → List Attempt
  | [], _ => []
  | a :: rest, s => (attempt? a s).toList ++ attempts rest (s.act a)

def greets (s : Session) : Bool :=
  match s.consumer.chores with
  | .welcome :: _ => s.phase == .connecting
  | _ => false

/-- Whether an act begins to send the subscriptions of an accepted session, or its queue. -/
def beginsPhase (a : Act) (s : Session) : Bool :=
  match a with
  | .work .. => s.greets || (!s.drains && (s.act a).drains)
  | _ => false

def beginsAlong : List Act → Session → Bool
  | [], _ => false
  | a :: rest, s => beginsPhase a s || beginsAlong rest (s.act a)

def takesConnection (a : Act) (s : Session) : Bool :=
  match a with
  | .turn _ =>
    !s.consumer.halted && s.consumer.chores.isEmpty &&
      match s.events.next.1 with
      | .event e => e.isConnection
      | _ => false
  | _ => false

/-- The session stays on its way to stability, and nothing comes up that is about its connection. -/
def steady : List Act → Session → Bool
  | [], s => s.phase.isPaced
  | a :: rest, s => s.phase.isPaced && !takesConnection a s && steady rest (s.act a)

variable {s t : Session} {engine : Engine} {now c d : Instant} {chore : Chore} {rest : List Chore}
  {a : Act}

/-! ### No step before its time -/

theorem turn_recovery (now : Instant) (s : Session) :
    (s.turn now).consumer.halted = s.consumer.halted ∧
      (s.turn now).consumer.recovery = s.consumer.recovery := by
  have turned := turn_turned now s
  generalize s.turn now = t at turned ⊢
  cases turned <;> exact ⟨rfl, rfl⟩

def NotBefore (d : Instant) (s : Session) : Prop :=
  s.consumer.halted = true ∨ ∀ r, s.consumer.recovery = some r → d ≤ r.nextTick

theorem NotBefore.of_same (notBefore : NotBefore d s) (halted : t.consumer.halted = s.consumer.halted)
    (recovery : t.consumer.recovery = s.consumer.recovery) : NotBefore d t := by
  unfold NotBefore
  rw [halted, recovery]
  exact notBefore

theorem NotBefore.of_none (none : t.consumer.recovery = none) : NotBefore d t := by
  apply Or.inr
  intro r held
  cases none.symm.trans held

theorem NotBefore.of_tick {r : Recovery} (held : t.consumer.recovery = some r) (tick : d ≤ r.nextTick) :
    NotBefore d t := by
  apply Or.inr
  intro other same
  cases held.symm.trans same
  exact tick

theorem Stepped.notBefore {interval : Duration} (stepped : Stepped now interval s t)
    (unbegun : s.drains = false → t.drains = false) :
    NotBefore (now + interval.nanoseconds) t := by
  cases stepped with
  | halted halted => exact .inl halted
  | ended recovery => exact .of_none recovery
  | begun undrained running recovery =>
    have drained := unbegun undrained
    rw [drains, recovery] at drained
    exact absurd drained Bool.true_eq_false.mp
  | putOff r tick drains recovery => exact .of_tick recovery (le_of_eq tick.symm)

theorem unbegun_of_work (unbegun : beginsPhase (.work engine now) s = false) :
    s.greets = false ∧ (s.drains = false → (s.work engine now).drains = false) := by
  obtain ⟨ungreeted, same⟩ := Bool.or_eq_false_iff.mp unbegun
  refine ⟨ungreeted, fun undrained => ?_⟩
  rw [undrained] at same
  exact same

theorem NotBefore.perform (notBefore : NotBefore d s) (chores : s.consumer.chores = chore :: rest)
    (ready : chore.isStep = true → Ready c s.consumer.recovery chore) (later : c ≤ now)
    (running : s.consumer.halted = false) (ungreeted : s.greets = false)
    (undrained : s.drains = false → (perform engine now chore s).2.drains = false) :
    NotBefore d (Session.perform engine now chore s).2 := by
  have before : ∀ r, s.consumer.recovery = some r → d ≤ r.nextTick :=
    notBefore.resolve_left (by rw [running]; exact Bool.false_ne_true)
  by_cases paced : chore.isPaced = true
  · cases read : chore.interval? with
    | none =>
      obtain ⟨halted, same | none⟩ := perform_looks engine now s paced read
      · exact notBefore.of_same halted same
      · exact .of_none none
    | some interval =>
      have ready := ready (isStep_of_interval read)
      have stepped : Stepped now interval s (Session.perform engine now chore s).2 :=
        perform_stepped read ready
      obtain ⟨r, held, -, onTime, -⟩ := ready
      -- A step that is taken was due, so `d` is over and the next step may have any later time.
      have reached : d ≤ now + interval.nanoseconds :=
        (before r held).trans (onTime.trans (later.trans (Nat.le_add_right _ _)))
      rcases stepped.notBefore undrained with halted | next
      · exact .inl halted
      · exact .inr fun r held => reached.trans (next r held)
  · have steered : Steered now chore s (Session.perform engine now chore s).2 :=
      perform_steered chore (Bool.eq_false_of_not_eq_true paced) s
    cases steered with
    | kept recovery => exact .inr fun r held => before r (recovery.symm.trans held)
    | ended spent recovery => exact .of_none recovery
    | counted unsent outstanding tick held recovery =>
      exact .of_tick recovery (before ⟨.resubscribing unsent outstanding, tick⟩ held)
    | settled last before unsent running recovery =>
      have drained := undrained before
      rw [drains, recovery] at drained
      exact absurd drained Bool.true_eq_false.mp
    | welcomed is connecting r tick due running recovery =>
      rw [greets, chores, is, connecting] at ungreeted
      exact absurd ungreeted Bool.true_eq_false.mp

theorem NotBefore.act (notBefore : NotBefore d s) (timed : Timed c s) (later : c ≤ a.clock c)
    (unbegun : beginsPhase a s = false) : NotBefore d (s.act a) := by
  cases a with
  | move m others =>
    have consumer : (s.after m).consumer = s.consumer := after_consumer m others
    exact notBefore.of_same (congrArg Consumer.halted consumer) (congrArg Consumer.recovery consumer)
  | turn now =>
    obtain ⟨halted, recovery⟩ := turn_recovery now s
    exact notBefore.of_same halted recovery
  | work engine now =>
    change NotBefore d (s.work engine now)
    obtain ⟨ungreeted, undrained⟩ := unbegun_of_work unbegun
    cases chores : s.consumer.chores with
    | nil =>
      rw [work_idle chores]
      exact notBefore
    | cons chore rest =>
      have running := timed.running chores
      rw [work_eq chores running] at undrained ⊢
      exact notBefore.perform chores (timed.next chores) later running ungreeted undrained

theorem NotBefore.acted {acts : List Act} (notBefore : NotBefore d s) (timed : Timed c s)
    (forward : Forward c acts) (unbegun : beginsAlong acts s = false) :
    NotBefore d (acted acts s) := by
  induction acts generalizing c s with
  | nil => exact notBefore
  | cons a rest ih =>
    obtain ⟨now, later⟩ := Bool.or_eq_false_iff.mp unbegun
    exact ih (notBefore.act timed forward.1 now) (timed.act a forward.1) forward.2 later

/-! ### Attempts -/

theorem attempt_eq {attempt : Attempt} (made : attempt? a s = some attempt) :
    ∃ engine chore rest, a = .work engine attempt.made ∧ s.consumer.chores = chore :: rest ∧
      chore.interval? = some attempt.interval := by
  unfold attempt? at made
  split at made
  next engine now interval rest chores =>
    split at made
    · cases made
    · cases made
      exact ⟨engine, _, rest, rfl, chores, rfl⟩
  next engine now interval rest chores =>
    split at made
    · cases made
    · cases made
      exact ⟨engine, _, rest, rfl, chores, rfl⟩
  next => cases made

theorem NotBefore.le_made {attempt : Attempt} (notBefore : NotBefore d s) (timed : Timed c s)
    (later : c ≤ a.clock c) (made : attempt? a s = some attempt) : d ≤ attempt.made := by
  obtain ⟨engine, chore, rest, rfl, chores, read⟩ := attempt_eq made
  obtain ⟨r, held, -, onTime, -⟩ := timed.next chores (isStep_of_interval read)
  have before : ∀ r, s.consumer.recovery = some r → d ≤ r.nextTick :=
    notBefore.resolve_left (by rw [timed.running chores]; exact Bool.false_ne_true)
  exact (before r held).trans (onTime.trans later)

theorem notBefore_of_attempt {attempt : Attempt} (timed : Timed c s)
    (made : attempt? a s = some attempt) (unbegun : beginsPhase a s = false) :
    NotBefore (attempt.made + attempt.interval.nanoseconds) (s.act a) := by
  obtain ⟨engine, chore, rest, rfl, chores, read⟩ := attempt_eq made
  obtain ⟨-, undrained⟩ := unbegun_of_work unbegun
  change NotBefore _ (s.work engine attempt.made)
  rw [work_eq chores (timed.running chores)] at undrained ⊢
  have stepped : Stepped attempt.made attempt.interval s (perform engine attempt.made chore s).2 :=
    perform_stepped read (timed.next chores (isStep_of_interval read))
  exact stepped.notBefore undrained

/-! ### The interval of an attempt -/

/-- The interval that was set when the consumer chose its step, since when it did nothing else. -/
def ReadAlong (acts : List Act) (interval : Duration) (s : Session) : Prop :=
  ∃ early engine now late, acts = early ++ .work engine now :: late ∧
    (acted early s).consumer.chores = [.pace] ∧
    (acted early s).settings.drainingInterval = interval ∧ ∀ a ∈ late, a.isWork = false

theorem ReadAlong.snoc {acts : List Act} {interval : Duration} (read : ReadAlong acts interval s)
    (others : a.isWork = false) : ReadAlong (acts ++ [a]) interval s := by
  obtain ⟨early, engine, now, late, rfl, chores, set, idle⟩ := read
  refine ⟨early, engine, now, late ++ [a], by rw [List.append_assoc, List.cons_append], chores, set, ?_⟩
  intro b member
  rcases List.mem_append.mp member with among | last
  · exact idle b among
  · rw [List.mem_singleton.mp last]
    exact others

theorem chosen_of_interval {interval : Duration} (agenda : Agenda (chore :: rest)) {next : Chore}
    (member : next ∈ (perform engine now chore s).1 ++ rest) (read : next.interval? = some interval) :
    chore = .pace ∧ rest = [] ∧ s.settings.drainingInterval = interval := by
  by_cases paced : chore.isPaced = true
  · have alone : rest = [] := alone_of_paced agenda paced
    rw [alone, List.append_nil] at member
    have performed := perform_paces engine now chore paced s
    generalize perform engine now chore s = result at performed member
    cases performed with
    | found r held due onTime =>
      rw [List.mem_singleton.mp member] at read
      cases read
    | drains on tick held =>
      rw [List.mem_singleton.mp member] at read
      exact ⟨rfl, alone, Option.some.inj read⟩
    | resubscribes on unsent outstanding tick held =>
      rw [List.mem_singleton.mp member] at read
      exact ⟨rfl, alone, Option.some.inj read⟩
    | _ => exact absurd member List.not_mem_nil
  · have listed : Listed ((perform engine now chore s).1 ++ rest) :=
      listed_perform agenda (Bool.eq_false_of_not_eq_true paced) s
    exact absurd ((listed.unstepped next member).symm.trans (isStep_of_interval read)) Bool.noConfusion

/-- Whatever the other sides do, the interval of a step that is left to do is the one that was set
when it was chosen. -/
theorem readAlong_acted {acts : List Act} {interval : Duration} (timed : Timed c s)
    (forward : Forward c acts) (free : s.consumer.chores = [])
    (member : chore ∈ (acted acts s).consumer.chores) (read : chore.interval? = some interval) :
    ReadAlong acts interval s := by
  -- By the last act: either it did nothing about the step that is left to do, or it chose it.
  induction acts using List.reverseRecOn generalizing chore with
  | nil =>
    rw [acted, free] at member
    exact absurd member List.not_mem_nil
  | append_singleton acts a ih =>
    have earlier := (forward_append.mp forward).1
    have timed := timed.acted acts earlier
    rw [acted_snoc] at member
    cases a with
    | move m others =>
      change chore ∈ ((acted acts s).after m).consumer.chores at member
      rw [after_consumer m others] at member
      exact (ih earlier member read).snoc rfl
    | turn now =>
      have turned := turn_turned now (acted acts s)
      change chore ∈ ((acted acts s).turn now).consumer.chores at member
      generalize (acted acts s).turn now = t at turned member
      cases turned with
      | idle unready => exact (ih earlier member read).snoc rfl
      | takes e events running free next =>
        exact absurd (((Listed.of_event e).unstepped chore member).symm.trans
          (isStep_of_interval read)) Bool.noConfusion
      | wakes running free due =>
        rw [List.mem_singleton.mp member] at read
        cases read
    | work engine now =>
      change chore ∈ ((acted acts s).work engine now).consumer.chores at member
      cases chores : (acted acts s).consumer.chores with
      | nil =>
        rw [Session.work, chores] at member
        exact absurd (chores ▸ member) List.not_mem_nil
      | cons head rest =>
        rw [work_eq chores (timed.running chores)] at member
        change chore ∈ (if _ then [] else _) at member
        split at member
        · exact absurd member List.not_mem_nil
        · obtain ⟨rfl, rfl, set⟩ := chosen_of_interval (timed.planned chores) member read
          exact ⟨acts, engine, now, [], rfl, chores, set, fun _ none => absurd none List.not_mem_nil⟩

/-! ### The first attempt of a phase -/

def DueBy (c : Instant) (s : Session) : Prop :=
  ∃ r, s.consumer.recovery = some r ∧ r.due? = some r.nextTick ∧ r.nextTick ≤ c

/-- A step has been due since `c` at the latest, and what is left to do is about no connection. -/
structure Awaits (c : Instant) (s : Session) : Prop where
  running : s.consumer.halted = false
  due : DueBy c s
  quiet : ∀ chore ∈ s.consumer.chores, chore.isQuiet = true

theorem DueBy.later (due : DueBy c s) (later : c ≤ d) : DueBy d s := by
  obtain ⟨r, held, due, onTime⟩ := due
  exact ⟨r, held, due, onTime.trans later⟩

theorem DueBy.isDue (due : DueBy now s) : s.isDue now = true := by
  obtain ⟨r, held, due, onTime⟩ := due
  unfold Session.isDue
  rw [held, Option.bind_some, due]
  exact decide_eq_true onTime

theorem due?_resubscribing (unsent : List Subscription) (outstanding left : Nat) (tick : Instant) :
    Recovery.due? ⟨.resubscribing unsent left, tick⟩ =
      Recovery.due? ⟨.resubscribing unsent outstanding, tick⟩ := by
  cases unsent <;> rfl

theorem unsent_of_due {r : Recovery} (held : s.consumer.recovery = some r)
    (due : r.due? = some r.nextTick) (undrained : s.drains = false) : s.unsent ≠ [] := by
  obtain ⟨stage, tick⟩ := r
  cases stage with
  | draining =>
    rw [drains, held] at undrained
    exact absurd undrained Bool.true_eq_false.mp
  | resubscribing unsent outstanding =>
    intro none
    rw [Session.unsent, held] at none
    change unsent = [] at none
    rw [none] at due
    cases due

theorem quiet_of_event {e : Event} (aside : e.isConnection = false) :
    ∀ chore ∈ e.chores ++ [.checkDue], chore.isQuiet = true := by
  have only (chore : Chore) (quiet : chore.isQuiet = true) :
      ∀ next ∈ [chore, .checkDue], next.isQuiet = true :=
    List.forall_mem_cons.mpr ⟨quiet, List.forall_mem_singleton.mpr rfl⟩
  unfold Event.isConnection at aside
  unfold Event.chores
  cases kind : e.kind with
  | connack code =>
    rw [kind] at aside
    cases aside
  | disconnect code =>
    rw [kind] at aside
    cases aside
  | _ => exact only _ rfl

theorem Awaits.move {m : Move} (awaits : Awaits c s) (others : m.isConsumers = false) :
    Awaits c (s.after m) := by
  have consumer : (s.after m).consumer = s.consumer := after_consumer m others
  obtain ⟨running, due, quiet⟩ := awaits
  unfold DueBy at due
  rw [← consumer] at running due quiet
  exact ⟨running, due, quiet⟩

theorem Awaits.turn (awaits : Awaits c s) (timed : Timed c s) (later : c ≤ now)
    (keeps : takesConnection (.turn now) s = false) :
    Awaits now (s.turn now) ∧ (s.turn now).consumer.chores ≠ [] := by
  have due : DueBy now s := awaits.due.later later
  have turned := turn_turned now s
  generalize s.turn now = t at turned ⊢
  cases turned with
  | idle unready =>
    rcases unready with halted | busy | stopped | undue
    · exact absurd (awaits.running.symm.trans halted) Bool.noConfusion
    · exact ⟨⟨awaits.running, due, awaits.quiet⟩, busy⟩
    · exact absurd (timed.opened.symm.trans stopped) Bool.noConfusion
    · exact absurd (due.isDue.symm.trans undue) Bool.noConfusion
  | takes e events running free next =>
    have aside : e.isConnection = false := by
      unfold takesConnection at keeps
      rw [running, free, next] at keeps
      exact keeps
    exact ⟨⟨running, due, quiet_of_event aside⟩, by simp⟩
  | wakes running free woken =>
    refine ⟨⟨running, due, ?_⟩, by simp⟩
    intro chore member
    rw [List.mem_singleton.mp member]
    rfl

theorem attempted_of_interval {interval : Duration} (chores : s.consumer.chores = chore :: rest)
    (read : chore.interval? = some interval) (ready : Ready c s.consumer.recovery chore)
    (paced : s.phase.isPaced = true) (stays : (perform engine now chore s).2.phase.isPaced = true) :
    attempt? (.work engine now) s = some ⟨now, interval⟩ := by
  obtain ⟨r, held, due, -, suits⟩ := ready
  unfold attempt?
  rw [chores]
  rcases sends_of_interval read with rfl | rfl
  · have undrained : s.drains = false := by
      rw [drains, held]
      obtain ⟨stage, tick⟩ := r
      cases stage with
      | resubscribing unsent outstanding => rfl
      | draining => exact absurd suits Bool.false_ne_true
    exact if_neg fun none => unsent_of_due held due undrained (List.isEmpty_iff.mp none)
  · apply if_neg
    intro none
    have ended := unpaced_of_drained engine now interval (List.isEmpty_iff.mp none) paced
    exact absurd (ended.symm.trans stays) Bool.noConfusion

theorem Awaits.perform (awaits : Awaits c s) (timed : Timed c s)
    (chores : s.consumer.chores = chore :: rest) (later : c ≤ now)
    (paced : s.phase.isPaced = true) (stays : (perform engine now chore s).2.phase.isPaced = true)
    (unmade : attempt? (.work engine now) s = none) :
    DueBy now (Session.perform engine now chore s).2 ∧
      (Session.perform engine now chore s).1 ++ rest ≠ [] ∧
      ∀ next ∈ (Session.perform engine now chore s).1 ++ rest, next.isQuiet = true := by
  have still : DueBy now s := awaits.due.later later
  have ⟨r, held, due, onTime⟩ := still
  have agenda := timed.planned chores
  have single (next : Chore) (quiet : next.isQuiet = true) :
      [next] ≠ [] ∧ ∀ other ∈ [next], other.isQuiet = true :=
    ⟨List.cons_ne_nil _ _, List.forall_mem_singleton.mpr quiet⟩
  by_cases part : chore.isPaced = true
  · rw [alone_of_paced agenda part, List.append_nil]
    have unread : chore.interval? = none := by
      by_contra sends
      obtain ⟨interval, read⟩ := Option.ne_none_iff_exists'.mp sends
      have ready := timed.next chores (isStep_of_interval read)
      have made := attempted_of_interval chores read ready paced stays
      exact absurd (unmade.symm.trans made) (Option.some_ne_none _).symm
    have performed := perform_paces engine now chore part s
    generalize Session.perform engine now chore s = result at performed ⊢
    cases performed with
    | found r' held' due' onTime' => exact ⟨still, single _ rfl⟩
    | undue undue => exact absurd (still.isDue.symm.trans undue) Bool.noConfusion
    | drains on tick same => exact ⟨still, single _ rfl⟩
    | resubscribes on unsent outstanding tick same => exact ⟨still, single _ rfl⟩
    | stays on none => exact absurd (none.symm.trans held) (Option.some_ne_none _).symm
    | ends unpaced => exact absurd (unpaced.symm.trans paced) Bool.noConfusion
    | resubscribed interval => cases unread
    | drained interval => cases unread
  · have plain := Bool.eq_false_of_not_eq_true part
    have quiet : chore.isQuiet = true := awaits.quiet chore (chores ▸ List.mem_cons_self)
    have last : chore.isLast = true := Chore.isLast_of_quiet quiet plain
    rw [perform_last chore last, (listed_of_plain agenda plain).2 last]
    refine ⟨?_, single _ rfl⟩
    have steered : Steered now chore s (Session.perform engine now chore s).2 :=
      perform_steered chore plain s
    -- Neither of the ways out of the phase is open while something is due in it.
    have unspent : ¬(s.drains = false ∧ s.unsent = []) :=
      fun spent => unsent_of_due held due spent.1 spent.2
    cases steered with
    | kept recovery => exact ⟨r, recovery.trans held, due, onTime⟩
    | ended spent recovery => exact absurd (spent quiet) unspent
    | counted unsent outstanding tick same recovery =>
      cases held.symm.trans same
      exact ⟨_, recovery, (due?_resubscribing unsent outstanding _ tick).trans due, onTime⟩
    | settled last before unsent running recovery => exact absurd ⟨before, unsent⟩ unspent
    | welcomed is connecting r tick due running recovery =>
      rw [is] at quiet
      cases quiet

theorem Awaits.work (awaits : Awaits c s) (timed : Timed c s) (later : c ≤ now)
    (paced : s.phase.isPaced = true) (stays : (s.work engine now).phase.isPaced = true)
    (unmade : attempt? (.work engine now) s = none) :
    (s.work engine now).consumer.halted = true ∨ Awaits now (s.work engine now) ∧
      (s.consumer.chores ≠ [] → (s.work engine now).consumer.chores ≠ []) := by
  cases chores : s.consumer.chores with
  | nil =>
    rw [work_idle chores]
    exact .inr ⟨⟨awaits.running, awaits.due.later later, awaits.quiet⟩, absurd rfl⟩
  | cons chore rest =>
    rw [work_eq chores awaits.running] at stays ⊢
    obtain ⟨due, left, quiet⟩ := awaits.perform timed chores later paced stays unmade
    by_cases ended : (Session.perform engine now chore s).2.consumer.halted = true
    · exact .inl ended
    · rw [if_neg ended]
      exact .inr ⟨⟨Bool.eq_false_of_not_eq_true ended, due, quiet⟩, fun _ => left⟩

theorem Awaits.act (awaits : Awaits c s) (timed : Timed c s) (later : c ≤ a.clock c)
    (paced : s.phase.isPaced = true) (stays : (s.act a).phase.isPaced = true)
    (keeps : takesConnection a s = false) (unmade : attempt? a s = none) :
    (s.act a).consumer.halted = true ∨ Awaits (a.clock c) (s.act a) ∧
      (s.consumer.chores ≠ [] → (s.act a).consumer.chores ≠ []) := by
  cases a with
  | move m others =>
    have same : (s.after m).consumer.chores = s.consumer.chores :=
      congrArg Consumer.chores (after_consumer m others)
    exact .inr ⟨awaits.move others, fun busy none => busy (same.symm.trans none)⟩
  | turn now =>
    obtain ⟨turned, busy⟩ := awaits.turn timed later keeps
    exact .inr ⟨turned, fun _ => busy⟩
  | work engine now => exact awaits.work timed later paced stays unmade

theorem halted_act (timed : Timed c s) (halted : s.consumer.halted = true) :
    (s.act a).consumer.halted = true := by
  cases a with
  | move m others => exact (congrArg Consumer.halted (after_consumer m others)).trans halted
  | turn now => exact (turn_recovery now s).1.trans halted
  | work engine now =>
    have idle : s.work engine now = s := work_idle (timed.halted halted)
    exact (congrArg (fun s => s.consumer.halted) idle).trans halted

theorem halted_acted {acts : List Act} (timed : Timed c s) (forward : Forward c acts)
    (halted : s.consumer.halted = true) : (acted acts s).consumer.halted = true := by
  induction acts generalizing c s with
  | nil => exact halted
  | cons a rest ih => exact ih (timed.act a forward.1) forward.2 (halted_act timed halted)

theorem steady_cons {acts : List Act} (steadily : steady (a :: acts) s = true) :
    s.phase.isPaced = true ∧ takesConnection a s = false ∧ steady acts (s.act a) = true := by
  simpa [steady, and_assoc] using steadily

theorem steady_phase {acts : List Act} (steadily : steady acts s = true) :
    s.phase.isPaced = true := by
  cases acts with
  | nil => exact steadily
  | cons a rest => exact (steady_cons steadily).1

theorem attempts_cons {acts : List Act} (unmade : attempts (a :: acts) s = []) :
    attempt? a s = none ∧ attempts acts (s.act a) = [] := by
  simpa [attempts] using unmade

/-- While nothing is sent, the consumer stays about to send something, and a turn that it has begun
does not come to an end. -/
theorem Awaits.acted {acts : List Act} (awaits : Awaits c s) (timed : Timed c s)
    (forward : Forward c acts) (steadily : steady acts s = true) (unmade : attempts acts s = []) :
    (acted acts s).consumer.halted = true ∨ Awaits (clockAfter acts c) (acted acts s) ∧
      (s.consumer.chores ≠ [] → (acted acts s).consumer.chores ≠ []) := by
  induction acts generalizing c s with
  | nil => exact .inr ⟨awaits, id⟩
  | cons a rest ih =>
    obtain ⟨paced, keeps, steadily⟩ := steady_cons steadily
    obtain ⟨unmade, later⟩ := attempts_cons unmade
    have next := timed.act a forward.1
    rcases awaits.act timed forward.1 paced (steady_phase steadily) keeps unmade with
      halted | ⟨awaits, busy⟩
    · have ended : (Session.acted rest (s.act a)).consumer.halted = true :=
        halted_acted next forward.2 halted
      exact .inl ended
    · rcases ih awaits next forward.2 steadily later with halted | ⟨awaits, still⟩
      · exact .inl halted
      · exact .inr ⟨awaits, fun begun => still (busy begun)⟩

theorem attempts_append (first second : List Act) (s : Session) :
    attempts (first ++ second) s = attempts first s ++ attempts second (acted first s) := by
  induction first generalizing s with
  | nil => rfl
  | cons a rest ih => rw [List.cons_append, attempts, ih, ← List.append_assoc, ← attempts, acted]

theorem steady_append {first second : List Act} (steadily : steady (first ++ second) s = true) :
    steady first s = true ∧ steady second (acted first s) = true := by
  induction first generalizing s with
  | nil => exact ⟨steady_phase steadily, steadily⟩
  | cons a rest ih =>
    obtain ⟨paced, keeps, onward⟩ := steady_cons steadily
    obtain ⟨early, late⟩ := ih onward
    refine ⟨?_, late⟩
    rw [steady, paced, keeps, early]
    rfl

/-- A turn that begins while a step is due, and ends, sends something. -/
theorem Awaits.attempts {acts : List Act} (awaits : Awaits c s) (timed : Timed c s)
    (forward : Forward c (.turn now :: acts)) (steadily : steady (.turn now :: acts) s = true)
    (ended : (Session.acted (.turn now :: acts) s).consumer.chores = [])
    (running : (Session.acted (.turn now :: acts) s).consumer.halted = false) :
    attempts (.turn now :: acts) s ≠ [] := by
  intro unmade
  obtain ⟨-, keeps, onward⟩ := steady_cons steadily
  obtain ⟨-, unmade⟩ := attempts_cons unmade
  obtain ⟨due, busy⟩ := awaits.turn timed forward.1 keeps
  rcases due.acted (timed.turn forward.1) forward.2 onward unmade with halted | ⟨-, still⟩
  · exact absurd (running.symm.trans halted) Bool.noConfusion
  · exact still busy ended

/-! ### The beginning of a phase -/

theorem welcome_begins (connecting : s.phase = .connecting) :
    DueBy now (s.welcome now) := by
  rw [welcome_eq, if_pos connecting]
  cases records : s.registry.records with
  | nil => exact ⟨⟨.draining, now⟩, rfl, rfl, le_rfl⟩
  | cons record others =>
    exact ⟨⟨.resubscribing (record :: others) (record :: others).length, now⟩, rfl, rfl, le_rfl⟩

theorem welcome_of_greets (chores : s.consumer.chores = chore :: rest) (greeted : s.greets = true) :
    chore = .welcome ∧ s.phase = .connecting := by
  unfold greets at greeted
  rw [chores] at greeted
  cases chore with
  | welcome => exact ⟨rfl, beq_iff_eq.mp greeted⟩
  | _ => cases greeted

theorem perform_begins (timed : Timed c s) (chores : s.consumer.chores = chore :: rest)
    (undrained : s.drains = false) (drained : (perform engine now chore s).2.drains = true)
    (running : (perform engine now chore s).2.consumer.halted = false) :
    DueBy now (perform engine now chore s).2 ∧
      ∀ next ∈ (perform engine now chore s).1 ++ rest, next.isQuiet = true := by
  have agenda := timed.planned chores
  have others (recovery : Option Recovery) (undrained : recovery.any Recovery.isDraining = false)
      (held : (perform engine now chore s).2.consumer.recovery = recovery) : False := by
    rw [drains, held, undrained] at drained
    cases drained
  by_cases part : chore.isPaced = true
  · rw [alone_of_paced agenda part, List.append_nil]
    cases read : chore.interval? with
    | none =>
      obtain ⟨-, same | none⟩ := perform_looks engine now s part read
      · exact (others _ undrained same).elim
      · exact (others _ rfl none).elim
    | some interval =>
      have ready := timed.next chores (isStep_of_interval read)
      have nothing : (perform engine now chore s).1 = [] := by
        rcases sends_of_interval read with rfl | rfl <;> rfl
      rw [nothing]
      refine ⟨?_, fun _ none => absurd none List.not_mem_nil⟩
      have stepped : Stepped now interval s (perform engine now chore s).2 :=
        perform_stepped read ready
      cases stepped with
      | halted halted => exact absurd (running.symm.trans halted) Bool.noConfusion
      | ended recovery => exact (others _ rfl recovery).elim
      | begun before running recovery => exact ⟨⟨.draining, now⟩, recovery, rfl, le_rfl⟩
      | putOff r tick same recovery => exact (others (some r) (same.trans undrained) recovery).elim
  · have plain := Bool.eq_false_of_not_eq_true part
    have look (last : chore.isLast = true) :
        ∀ next ∈ (perform engine now chore s).1 ++ rest, next.isQuiet = true := by
      rw [perform_last chore last, (listed_of_plain agenda plain).2 last]
      exact List.forall_mem_singleton.mpr rfl
    have steered : Steered now chore s (perform engine now chore s).2 :=
      perform_steered chore plain s
    cases steered with
    | kept recovery => exact (others _ undrained recovery).elim
    | ended spent recovery => exact (others _ rfl recovery).elim
    | counted unsent outstanding tick held recovery => exact (others _ rfl recovery).elim
    | settled last before unsent running recovery =>
      exact ⟨⟨⟨.draining, now⟩, recovery, rfl, le_rfl⟩, look last⟩
    | welcomed is connecting r tick due running recovery =>
      subst is
      exact ⟨⟨r, recovery, due.trans (congrArg some tick.symm), le_of_eq tick⟩, look rfl⟩

theorem awaits_of_begins (timed : Timed c s) (begins : beginsPhase a s = true) :
    (s.act a).consumer.halted = true ∨ Awaits (a.clock c) (s.act a) := by
  cases a with
  | move m others => cases begins
  | turn now => cases begins
  | work engine now =>
    change (s.work engine now).consumer.halted = true ∨ Awaits now (s.work engine now)
    change (s.greets || (!s.drains && (s.work engine now).drains)) = true at begins
    cases chores : s.consumer.chores with
    | nil =>
      rw [greets, chores, work_idle chores] at begins
      simp at begins
    | cons chore rest =>
      rw [work_eq chores (timed.running chores)] at begins ⊢
      by_cases ended : (perform engine now chore s).2.consumer.halted = true
      · exact .inl ended
      · rw [if_neg ended] at begins ⊢
        apply Or.inr
        have running := Bool.eq_false_of_not_eq_true ended
        rcases Bool.or_eq_true _ _ |>.mp begins with greeted | drained
        · obtain ⟨rfl, connecting⟩ := welcome_of_greets chores greeted
          have look : rest = [.checkDue] := (listed_of_plain (timed.planned chores) rfl).2 rfl
          subst look
          exact ⟨running, welcome_begins connecting, List.forall_mem_singleton.mpr rfl⟩
        · simp only [Bool.and_eq_true, Bool.not_eq_true'] at drained
          obtain ⟨due, quiet⟩ := perform_begins timed chores drained.1 drained.2 running
          exact ⟨running, due, quiet⟩

/-! ### Calls -/

theorem work_callCount (timed : Timed c s) :
    callCount s (s.work engine now) = (attempt? (.work engine now) s).toList.length := by
  unfold attempt?
  cases chores : s.consumer.chores with
  | nil =>
    rw [work_idle chores]
    exact callCount_self s
  | cons chore rest =>
    rw [work_eq chores (timed.running chores)]
    change callCount s (perform engine now chore s).2 = _
    cases read : chore.interval? with
    | none =>
      obtain ⟨effects, appended, uncalled⟩ :=
        perform_uncalled engine now chore read s
      rw [callCount_of_append appended, countP_of_uncalled uncalled]
      cases chore with
      | resubscribeOne interval => cases read
      | drainOne interval => cases read
      | _ => rfl
    | some interval =>
      rcases sends_of_interval read with rfl | rfl
      · refine (resubscribeOne_callCount interval s).trans ?_
        cases s.unsent.isEmpty <;> rfl
      · refine (drainOne_callCount interval s).trans ?_
        cases s.queue.items.isEmpty <;> rfl

/-! ### Runs -/

/-- What holds of the attempts along any acts. -/
structure KeepsPace (acts : List Act) (s : Session) : Prop where
  /-- What the consumer calls the engine for is an attempt. -/
  called : ∀ before engine now later, acts = before ++ .work engine now :: later →
    callCount (acted before s) (acted (before ++ [.work engine now]) s) =
      (attempt? (.work engine now) (acted before s)).toList.length
  /-- The interval of an attempt was in force when the consumer chose it, since when the consumer
  has done nothing else. -/
  read : ∀ before a later attempt, acts = before ++ a :: later →
    attempt? a (acted before s) = some attempt → ReadAlong before attempt.interval s
  /-- Of two attempts in one phase, the later one waits for the interval of the earlier one. -/
  apart : ∀ before a between b later first second,
    acts = before ++ a :: (between ++ b :: later) →
    beginsAlong (a :: between) (acted before s) = false →
    attempt? a (acted before s) = some first →
    attempt? b (acted (before ++ a :: between) s) = some second →
    first.made + first.interval.nanoseconds ≤ second.made
  /-- A phase that goes on has its first attempt before the end of the first turn after the one in
  which it began. -/
  prompt : ∀ before a ending now turn later,
    acts = before ++ a :: (ending ++ .turn now :: (turn ++ later)) →
    beginsPhase a (acted before s) = true →
    (acted (before ++ a :: (ending ++ .turn now :: turn)) s).consumer.chores = [] →
    (acted (before ++ a :: (ending ++ .turn now :: turn)) s).consumer.halted = false →
    steady (ending ++ .turn now :: turn) (acted (before ++ [a]) s) = true →
    attempts (ending ++ .turn now :: turn) (acted (before ++ [a]) s) ≠ []

/-- Of two attempts with no beginning of a phase from the earlier one on, the later one waits for
the interval of the earlier one. -/
theorem made_apart {between : List Act} {b : Act} {first second : Attempt} (timed : Timed c s)
    (forward : Forward c (a :: (between ++ [b]))) (unbegun : beginsAlong (a :: between) s = false)
    (made : attempt? a s = some first)
    (next : attempt? b (acted (a :: between) s) = some second) :
    first.made + first.interval.nanoseconds ≤ second.made := by
  obtain ⟨same, others⟩ := Bool.or_eq_false_iff.mp unbegun
  obtain ⟨along, last, -⟩ := forward_append.mp forward.2
  have from_first : Timed (a.clock c) (s.act a) := timed.act a forward.1
  have putOff := (notBefore_of_attempt timed made same).acted from_first along others
  exact putOff.le_made (from_first.acted between along) last next

/-- A phase that goes on has its first attempt before the end of the next turn. -/
theorem made_promptly {ending turn : List Act} (timed : Timed c s)
    (forward : Forward c (a :: (ending ++ .turn now :: turn))) (begins : beginsPhase a s = true)
    (ended : (acted (a :: (ending ++ .turn now :: turn)) s).consumer.chores = [])
    (running : (acted (a :: (ending ++ .turn now :: turn)) s).consumer.halted = false)
    (steadily : steady (ending ++ .turn now :: turn) (s.act a) = true) :
    attempts (ending ++ .turn now :: turn) (s.act a) ≠ [] := by
  have begun : Timed (a.clock c) (s.act a) := timed.act a forward.1
  have alive {t : Session} {acts : List Act} {c : Instant} (timed : Timed c t)
      (forward : Forward c acts) (same : acted acts t =
        acted (a :: (ending ++ .turn now :: turn)) s) : t.consumer.halted ≠ true := by
    intro halted
    rw [← same, halted_acted timed forward halted] at running
    cases running
  -- What is left of the turn in which the phase began comes first, then the whole of the next one.
  have awaits := (awaits_of_begins timed begins).resolve_left (alive begun forward.2 rfl)
  obtain ⟨before, after⟩ := forward_append.mp forward.2
  obtain ⟨calm, still⟩ := steady_append steadily
  have there := begun.acted ending before
  intro unmade
  rw [attempts_append, List.append_eq_nil_iff] at unmade
  have same : acted (.turn now :: turn) (acted ending (s.act a)) =
      acted (a :: (ending ++ .turn now :: turn)) s := (acted_append ending _ _).symm
  obtain ⟨waits, -⟩ := (awaits.acted begun before calm unmade.1).resolve_left
    (alive there after same)
  exact waits.attempts there after still (same ▸ ended) (same ▸ running) unmade.2

/-- Whatever the other sides do meanwhile, an accepted session is recovered at its pace, as long as
the clock of the consumer does not go back. -/
theorem replay_paced (settings : Settings) (acts : List Act) (forward : Forward 0 acts) :
    KeepsPace acts (start settings) := by
  have timed {first second : List Act} (whole : acts = first ++ second) :
      Timed (clockAfter first 0) (acted first (start settings)) ∧
        Forward (clockAfter first 0) second := by
    rw [whole] at forward
    obtain ⟨before, after⟩ := forward_append.mp forward
    exact ⟨(Timed.start settings 0).acted first before, after⟩
  constructor
  case called =>
    intro before engine now later whole
    rw [acted_snoc]
    exact work_callCount (timed whole).1
  case read =>
    intro before a later attempt whole made
    obtain ⟨engine, chore, rest, rfl, chores, read⟩ := attempt_eq made
    rw [whole] at forward
    exact readAlong_acted (Timed.start settings 0) (forward_append.mp forward).1 rfl
      (chores ▸ List.mem_cons_self) read
  case apart =>
    intro before a between b later first second whole unbegun made next
    obtain ⟨there, after⟩ := timed whole
    -- What comes after the later attempt has no part in it.
    have parted : a :: (between ++ b :: later) = (a :: (between ++ [b])) ++ later := by
      simp only [List.cons_append, List.append_assoc, List.nil_append]
    rw [parted] at after
    rw [acted_append] at next
    exact made_apart there (forward_append.mp after).1 unbegun made next
  case prompt =>
    intro before a ending now turn later whole begins ended running steadily
    obtain ⟨there, after⟩ := timed whole
    have parted : a :: (ending ++ .turn now :: (turn ++ later)) =
        (a :: (ending ++ .turn now :: turn)) ++ later := by
      simp only [List.cons_append, List.append_assoc]
    rw [parted] at after
    rw [acted_append] at ended running
    rw [acted_snoc] at steadily ⊢
    exact made_promptly there (forward_append.mp after).1 begins ended running steadily

/-- Two requests wait when the session is accepted, and the interval changes while the first of them
is about to be sent. -/
def hurriedRun : List Act :=
  [.move ⟨.connect (.notified none), numbering 3⟩ rfl,
   .move ⟨.request publishing (.notified none), numbering 3⟩ rfl,
   .move ⟨.request publishing (.notified (some ⟨"A"⟩)), numbering 3⟩ rfl,
   .move ⟨.report (.connack 0), numbering 3⟩ rfl,
   .turn 0, .work (numbering 3) 0, .work (numbering 3) 0, .work (numbering 3) 0,
   .work (numbering 3) 0,
   .move ⟨.adjust (.drainingInterval ⟨3000000000, by decide⟩), numbering 3⟩ rfl,
   .work (numbering 3) 0,
   .move ⟨.report (.puback 3), numbering 3⟩ rfl,
   .turn 100000000, .work (numbering 3) 100000000, .work (numbering 3) 100000000,
   .turn 500000000, .work (numbering 3) 500000000, .work (numbering 3) 500000000,
   .work (numbering 4) 500000000]

/-- The acknowledgment of the first request does not bring the second one forward. -/
theorem hurriedRun_paced :
    Forward 0 hurriedRun ∧
      attempts hurriedRun (start .standard) =
        [⟨0, ⟨500000000, by decide⟩⟩, ⟨500000000, ⟨3000000000, by decide⟩⟩] ∧
      KeepsPace hurriedRun (start .standard) := by
  have forward : Forward 0 hurriedRun := by decide +kernel
  exact ⟨forward, by decide +kernel, replay_paced .standard hurriedRun forward⟩

end Session

end DurableMqtt
