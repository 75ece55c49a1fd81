import DurableMqtt.Proofs.Backoff

/-!
Which stability timers count.

A timer that was replaced or stopped may come to its end all the same, beside others like it and in
the middle of a wait. Every start, every stop and every wait that begins moves the generation on. So
only the timer of the newest start can have the generation at hand, and only until the next of these,
as long as the generations do not come round.
-/

namespace DurableMqtt.Backoff

/-- The quiet times of one supervisor with the timers that were ever started. -/
structure Timers where
  backoff : Backoff
  /-- Oldest first, those that are over included. -/
  started : List StabilityTimer := []
  /-- How long each wait sleeps, oldest first. -/
  slept : List Duration := []

namespace Timers

/-- What anyone may do, at any time. Between the parts of a wait there may be other acts, and parts
of other waits. -/
inductive Act where
  | start
  | stop
  /-- A wait begins. -/
  | cancel
  /-- It reads how long it sleeps. -/
  | sleep
  /-- It is over. -/
  | escalate
  | reconfigure (timing : Timing)
  /-- The timer of the start that this number of starts came before is at its end. -/
  | expire (place : Nat)
deriving DecidableEq

def Act.supersedes : Act → Bool
  | start | stop | cancel => true
  | sleep | escalate | reconfigure _ | expire _ => false

def after (t : Timers) : Act → Timers
  | .start =>
    { t with
      backoff := t.backoff.startTimer
      started := t.started ++ [⟨t.backoff.generation + 1, t.backoff.timing.stable⟩] }
  | .stop | .cancel => { t with backoff := t.backoff.stopTimer }
  | .sleep => { t with slept := t.slept ++ [t.backoff.current] }
  | .escalate => { t with backoff := t.backoff.escalate }
  | .reconfigure timing => { t with backoff := t.backoff.reconfigure timing }
  | .expire place =>
    match t.started[place]? with
    | none => t
    | some timer => { t with backoff := t.backoff.expire timer }

def run (acts : List Act) (t : Timers) : Timers := acts.foldl after t

theorem run_backOff (t : Timers) :
    run [.cancel, .sleep, .escalate] t =
      { t with backoff := t.backoff.backOff.2, slept := t.slept ++ [t.backoff.backOff.1] } := rfl

theorem after_expire {t : Timers} {place : Nat} {timer : StabilityTimer}
    (known : t.started[place]? = some timer) :
    t.after (.expire place) = { t with backoff := t.backoff.expire timer } := by
  simp only [after, known]

theorem after_expire_unknown {t : Timers} {place : Nat} (unknown : t.started[place]? = none) :
    t.after (.expire place) = t := by
  simp only [after, unknown]

theorem run_concat (acts : List Act) (act : Act) (t : Timers) :
    run (acts ++ [act]) t = (run acts t).after act := by
  rw [run, List.foldl_append, run, List.foldl_cons, List.foldl_nil]

/-! ### The newest start -/

/-- The start is the last one, and since then there was no stop and no wait began. -/
def Newest (acts : List Act) (place : Nat) : Prop :=
  ∃ before later, acts = before ++ .start :: later ∧ before.count .start = place ∧
    ∀ act ∈ later, act.supersedes = false

def Ended (acts : List Act) (place : Nat) : Prop :=
  ∃ before later, acts = before ++ .expire place :: later ∧ place < before.count .start

theorem newest_concat (acts : List Act) (act : Act) (place : Nat) :
    Newest (acts ++ [act]) place ↔
      (act = .start ∧ acts.count .start = place) ∨
        (Newest acts place ∧ act.supersedes = false) := by
  constructor
  · rintro ⟨before, later, parts, earlier, calm⟩
    cases later using List.reverseRecOn with
    | nil =>
      obtain ⟨rfl, here⟩ := List.append_inj' parts rfl
      exact .inl ⟨List.head_eq_of_cons_eq here, earlier⟩
    | append_singleton later last =>
      rw [← List.cons_append, ← List.append_assoc] at parts
      obtain ⟨rfl, here⟩ := List.append_inj' parts rfl
      cases here
      have calm := List.forall_mem_append.mp calm
      exact .inr ⟨⟨before, later, rfl, earlier, calm.1⟩, calm.2 _ (List.mem_singleton_self _)⟩
  · rintro (⟨rfl, earlier⟩ | ⟨⟨before, later, rfl, earlier, calm⟩, quiet⟩)
    · exact ⟨acts, [], rfl, earlier, fun act member => absurd member List.not_mem_nil⟩
    · refine ⟨before, later ++ [act], by simp, earlier, List.forall_mem_append.mpr ⟨calm, ?_⟩⟩
      simpa using quiet

theorem ended_concat (acts : List Act) (act : Act) (place : Nat) :
    Ended (acts ++ [act]) place ↔
      (act = .expire place ∧ place < acts.count .start) ∨ Ended acts place := by
  constructor
  · rintro ⟨before, later, parts, known⟩
    cases later using List.reverseRecOn with
    | nil =>
      obtain ⟨rfl, here⟩ := List.append_inj' parts rfl
      exact .inl ⟨List.head_eq_of_cons_eq here, known⟩
    | append_singleton later last =>
      rw [← List.cons_append, ← List.append_assoc] at parts
      obtain ⟨rfl, -⟩ := List.append_inj' parts rfl
      exact .inr ⟨before, later, rfl, known⟩
  · rintro (⟨rfl, known⟩ | ⟨before, later, rfl, known⟩)
    · exact ⟨acts, [], rfl, known⟩
    · exact ⟨before, later ++ [act], by simp, known⟩

theorem lt_of_ended {acts : List Act} {place : Nat} (ended : Ended acts place) :
    place < acts.count .start := by
  obtain ⟨before, later, rfl, known⟩ := ended
  rw [List.count_append]
  omega

/-! ### Generations -/

/-- Generations come round after 2^64 steps. -/
theorem generation_ne (first : UInt64) {m n : Nat} (lt : m < n) (bound : n < 2 ^ 64) :
    first + UInt64.ofNat m ≠ first + UInt64.ofNat n := by
  intro same
  have counts := congrArg UInt64.toNat ((UInt64.add_right_inj first).mp same)
  rw [UInt64.toNat_ofNat', UInt64.toNat_ofNat'] at counts
  omega

variable {b : Backoff} {acts : List Act} {t : Timers}

structure Tracked (b : Backoff) (acts : List Act) (t : Timers) : Prop where
  generation : t.backoff.generation = b.generation + UInt64.ofNat (acts.countP Act.supersedes)
  length : t.started.length = acts.count .start
  earlier : ∀ timer ∈ t.started, ∃ n ≤ acts.countP Act.supersedes,
    timer.generation = b.generation + UInt64.ofNat n
  distinct : (t.started.map (·.generation)).Nodup
  newest : ∀ place timer, t.started[place]? = some timer →
    (timer.generation = t.backoff.generation ↔ Newest acts place)
  member : ∀ timer ∈ t.backoff.timers, timer ∈ t.started
  once : t.backoff.timers.Nodup
  unended : ∀ place timer, t.started[place]? = some timer →
    (timer ∈ t.backoff.timers ↔ ¬Ended acts place)

theorem Tracked.start (idle : b.timers = []) : Tracked b [] { backoff := b } where
  generation := by simp
  length := rfl
  earlier := fun _ member => absurd member List.not_mem_nil
  distinct := List.nodup_nil
  newest := fun place timer found => by simp at found
  member := fun timer member => by simp [idle] at member
  once := by
    rw [idle]
    exact List.nodup_nil
  unended := fun place timer found => by simp at found

theorem Tracked.quiet (tracked : Tracked b acts t) {act : Act} {t' : Timers}
    (started : t'.started = t.started) (generation : t'.backoff.generation = t.backoff.generation)
    (timers : t'.backoff.timers = t.backoff.timers) (quiet : act.supersedes = false)
    (unended : ∀ place, act = .expire place → ¬place < acts.count .start) :
    Tracked b (acts ++ [act]) t' := by
  have unstarted : act ≠ .start := by
    rintro rfl
    cases quiet
  have count : (acts ++ [act]).countP Act.supersedes = acts.countP Act.supersedes := by
    simp [quiet]
  have starts : (acts ++ [act]).count .start = acts.count .start := by
    simp [unstarted]
  constructor
  · rw [generation, tracked.generation, count]
  · rw [started, tracked.length, starts]
  · rw [started, count]
    exact tracked.earlier
  · rw [started]
    exact tracked.distinct
  · intro place timer found
    rw [started] at found
    rw [generation, newest_concat, tracked.newest place timer found]
    simp [unstarted, quiet]
  · rw [started, timers]
    exact tracked.member
  · rw [timers]
    exact tracked.once
  · intro place timer found
    rw [started] at found
    rw [timers, ended_concat, tracked.unended place timer found]
    have other : ¬(act = .expire place ∧ place < acts.count .start) :=
      fun ⟨ends, known⟩ => unended place ends known
    simp [other]

theorem getElem?_concat {α : Type} {l : List α} {last a : α} {place : Nat}
    (found : (l ++ [last])[place]? = some a) :
    (place < l.length ∧ l[place]? = some a) ∨ (place = l.length ∧ a = last) := by
  rcases Nat.lt_or_ge place l.length with within | beyond
  · rw [List.getElem?_append_left within] at found
    exact .inl ⟨within, found⟩
  · rw [List.getElem?_append_right beyond] at found
    obtain ⟨here, rfl⟩ := List.getElem?_eq_some_iff.mp found
    have place : place = l.length := by
      rw [List.length_singleton] at here
      omega
    exact .inr ⟨place, by simp⟩

theorem Tracked.outdated (tracked : Tracked b acts t)
    (few : acts.countP Act.supersedes + 1 < 2 ^ 64) {timer : StabilityTimer}
    (member : timer ∈ t.started) : timer.generation ≠ t.backoff.generation + 1 := by
  obtain ⟨n, le, number⟩ := tracked.earlier timer member
  rw [number, tracked.generation, UInt64.add_assoc]
  have next : UInt64.ofNat (acts.countP Act.supersedes) + 1 =
      UInt64.ofNat (acts.countP Act.supersedes + 1) := by simp
  rw [next]
  exact generation_ne _ (by omega) few

theorem Tracked.stop (tracked : Tracked b acts t) (few : acts.countP Act.supersedes + 1 < 2 ^ 64)
    {act : Act} (supersedes : act.supersedes = true) (unstarted : act ≠ .start) :
    Tracked b (acts ++ [act]) { t with backoff := t.backoff.stopTimer } := by
  have count : (acts ++ [act]).countP Act.supersedes = acts.countP Act.supersedes + 1 := by
    simp [supersedes]
  have starts : (acts ++ [act]).count .start = acts.count .start := by
    simp [unstarted]
  constructor
  · change t.backoff.generation + 1 = _
    rw [count, tracked.generation, UInt64.add_assoc]
    simp
  · rw [starts]
    exact tracked.length
  · intro timer member
    obtain ⟨n, le, number⟩ := tracked.earlier timer member
    exact ⟨n, by omega, number⟩
  · exact tracked.distinct
  · intro place timer found
    have outdated := tracked.outdated few (List.mem_of_getElem? found)
    rw [newest_concat]
    simp [unstarted, supersedes, stopTimer, outdated]
  · exact tracked.member
  · exact tracked.once
  · intro place timer found
    have other : act ≠ .expire place := by
      rintro rfl
      cases supersedes
    rw [ended_concat]
    simp only [other, false_and, false_or]
    exact tracked.unended place timer found

theorem Tracked.restart (tracked : Tracked b acts t)
    (few : acts.countP Act.supersedes + 1 < 2 ^ 64) :
    Tracked b (acts ++ [.start]) (t.after .start) := by
  have count : (acts ++ [Act.start]).countP Act.supersedes = acts.countP Act.supersedes + 1 := by
    simp [Act.supersedes]
  have generation : t.backoff.generation + 1 =
      b.generation + UInt64.ofNat (acts.countP Act.supersedes + 1) := by
    rw [tracked.generation, UInt64.add_assoc]
    simp
  have absent : (⟨t.backoff.generation + 1, t.backoff.timing.stable⟩ : StabilityTimer) ∉ t.started :=
    fun member => tracked.outdated few member rfl
  constructor
  · rw [count]
    exact generation
  · simp [after, tracked.length]
  · intro timer member
    rw [count]
    rcases List.mem_append.mp member with old | new
    · obtain ⟨n, le, number⟩ := tracked.earlier timer old
      exact ⟨n, by omega, number⟩
    · rw [List.mem_singleton.mp new]
      exact ⟨_, le_refl _, generation⟩
  · simp only [after, List.map_append, List.map_cons, List.map_nil]
    refine List.nodup_append.mpr ⟨tracked.distinct, List.nodup_singleton _, ?_⟩
    intro old member new single same
    obtain ⟨timer, started, rfl⟩ := List.mem_map.mp member
    rw [List.mem_singleton.mp single] at same
    exact tracked.outdated few started same
  · intro place timer found
    rw [newest_concat]
    rcases getElem?_concat found with ⟨within, old⟩ | ⟨rfl, rfl⟩
    · have outdated := tracked.outdated few (List.mem_of_getElem? old)
      have other : acts.count .start ≠ place := by
        rw [← tracked.length]
        exact within.ne'
      simp [after, startTimer, stopTimer, outdated, other, Act.supersedes]
    · exact iff_of_true rfl (.inl ⟨rfl, tracked.length.symm⟩)
  · intro timer member
    rcases List.mem_append.mp member with old | new
    · exact List.mem_append_left _ (tracked.member timer old)
    · exact List.mem_append_right _ new
  · refine List.nodup_append.mpr ⟨tracked.once, List.nodup_singleton _, ?_⟩
    rintro timer member new single rfl
    exact absent (List.mem_singleton.mp single ▸ tracked.member _ member)
  · intro place timer found
    rw [ended_concat]
    rcases getElem?_concat found with ⟨within, old⟩ | ⟨rfl, rfl⟩
    · have unended := tracked.unended place timer old
      have other : timer ≠ ⟨t.backoff.generation + 1, t.backoff.timing.stable⟩ := by
        rintro rfl
        exact absent (List.mem_of_getElem? old)
      simpa [after, startTimer, stopTimer, other] using unended
    · have unended : ¬Ended acts t.started.length := by
        intro ended
        have known := lt_of_ended ended
        rw [tracked.length] at known
        exact lt_irrefl _ known
      simp [after, startTimer, stopTimer, unended]

theorem Tracked.expire (tracked : Tracked b acts t) {place : Nat} {timer : StabilityTimer}
    (known : t.started[place]? = some timer) :
    Tracked b (acts ++ [.expire place]) { t with backoff := t.backoff.expire timer } := by
  have count : (acts ++ [Act.expire place]).countP Act.supersedes =
      acts.countP Act.supersedes := by
    simp [Act.supersedes]
  have starts : (acts ++ [Act.expire place]).count .start = acts.count .start := by simp
  constructor
  · rw [expire_eq, count]
    exact tracked.generation
  · rw [starts]
    exact tracked.length
  · rw [count]
    exact tracked.earlier
  · exact tracked.distinct
  · intro other another found
    rw [expire_eq, newest_concat]
    simpa [Act.supersedes] using tracked.newest other another found
  · intro another member
    rw [expire_eq] at member
    exact tracked.member another (List.mem_of_mem_erase member)
  · rw [expire_eq]
    exact tracked.once.erase timer
  · intro other another found
    rw [expire_eq, ended_concat]
    by_cases same : place = other
    · subst same
      cases Option.some.inj (known.symm.trans found)
      have within := (List.getElem?_eq_some_iff.mp known).1
      rw [tracked.length] at within
      exact iff_of_false tracked.once.not_mem_erase fun unended => unended (.inl ⟨rfl, within⟩)
    · have apart : another ≠ timer := by
        rintro rfl
        have within := (List.getElem?_eq_some_iff.mp known).1
        exact same ((List.getElem?_inj within tracked.distinct.of_map).mp (known.trans found.symm))
      rw [List.mem_erase_of_ne apart, tracked.unended other another found]
      simp [same]

theorem Tracked.after (tracked : Tracked b acts t) (act : Act)
    (few : (acts ++ [act]).countP Act.supersedes < 2 ^ 64) :
    Tracked b (acts ++ [act]) (t.after act) := by
  have few : acts.countP Act.supersedes + (if act.supersedes then 1 else 0) < 2 ^ 64 := by
    simpa using few
  cases act with
  | start => exact tracked.restart few
  | stop => exact tracked.stop few rfl Act.noConfusion
  | cancel => exact tracked.stop few rfl Act.noConfusion
  | sleep => exact tracked.quiet rfl rfl rfl rfl fun _ => Act.noConfusion
  | escalate => exact tracked.quiet rfl rfl rfl rfl fun _ => Act.noConfusion
  | reconfigure timing => exact tracked.quiet rfl rfl rfl rfl fun _ => Act.noConfusion
  | expire place =>
    cases known : t.started[place]? with
    | some timer =>
      rw [after_expire known]
      exact tracked.expire known
    | none =>
      have beyond := List.getElem?_eq_none_iff.mp known
      rw [tracked.length] at beyond
      rw [after_expire_unknown known]
      refine tracked.quiet rfl rfl rfl rfl fun other same => ?_
      cases same
      omega

theorem tracked_run (idle : b.timers = []) (acts : List Act)
    (few : acts.countP Act.supersedes < 2 ^ 64) : Tracked b acts (run acts { backoff := b }) := by
  induction acts using List.reverseRecOn with
  | nil => exact .start idle
  | append_singleton acts act ih =>
    rw [run_concat]
    refine (ih ?_).after act few
    rw [List.countP_append] at few
    omega

/-- Whoever starts and stops timers, waits and changes the timing, in whatever order: as long as
there are fewer than 2^64 starts, stops and waits, the end of a timer brings the quiet time back to
the base that holds at that moment just if the timer is that of the newest start, with no stop and
no wait begun since. The end of any other timer does nothing else than that this timer is gone, and
no timer ends twice. A wait whose parts nothing comes between is one call of `backOff`. -/
theorem expiry_counts_iff_newest (b : Backoff) (idle : b.timers = []) (acts : List Act)
    (few : acts.countP Act.supersedes < 2 ^ 64) :
    let t := run acts { backoff := b }
    run (acts ++ [.cancel, .sleep, .escalate]) { backoff := b } =
      { t with backoff := t.backoff.backOff.2, slept := t.slept ++ [t.backoff.backOff.1] } ∧
    t.started.length = acts.count .start ∧
    ∀ place timer, t.started[place]? = some timer →
      (Ended acts place → t.after (.expire place) = t) ∧
      (¬Ended acts place →
        (Newest acts place → t.after (.expire place) =
          { t with backoff := { t.backoff with
              current := t.backoff.timing.base
              timers := t.backoff.timers.erase timer } }) ∧
        (¬Newest acts place → t.after (.expire place) =
          { t with backoff := { t.backoff with timers := t.backoff.timers.erase timer } })) := by
  intro t
  have tracked : Tracked b acts t := tracked_run idle acts few
  refine ⟨?_, tracked.length, fun place timer found => ?_⟩
  · rw [run, List.foldl_append]
    exact run_backOff t
  have lives := tracked.unended place timer found
  have counts : t.backoff.resets timer = true ↔ ¬Ended acts place ∧ Newest acts place := by
    rw [resets, decide_eq_true_iff, lives, tracked.newest place timer found]
  rw [after_expire found, expire_eq]
  refine ⟨fun ended => ?_, fun unended => ⟨fun newest => ?_, fun superseded => ?_⟩⟩
  · have gone : timer ∉ t.backoff.timers := fun member => lives.mp member ended
    rw [if_neg fun resets => (counts.mp resets).1 ended, List.erase_of_not_mem gone]
  · rw [if_pos (counts.mpr ⟨unended, newest⟩)]
  · rw [if_neg fun resets => superseded (counts.mp resets).2]

/-- The first timer is replaced and ends in a wait, the second one stopped by that wait. The third
one is started before the wait is over, holds through a change of the timing, and ends. -/
def overlappingActs : List Act :=
  [.start, .sleep, .escalate, .start, .cancel, .sleep, .expire 0, .start, .escalate, .expire 1,
    .reconfigure ⟨⟨2000000000, by decide⟩, ⟨64000000000, by decide⟩, ⟨7000000000, by decide⟩,
      by decide⟩]

theorem overlappingActs_count :
    let t := run overlappingActs { backoff := .start .standard }
    t.started.map (·.generation) = [1, 2, 4] ∧ t.backoff.generation = 4 ∧
      t.backoff.current.seconds = 4 ∧
      (t.after (.expire 2)).backoff.current.seconds = 2 ∧
      (t.after (.expire 0)).backoff.current.seconds = 4 := by
  intro t
  have third : t.started[2]? = some ⟨4, ⟨20000000000, by decide⟩⟩ := by decide +kernel
  have first : t.started[0]? = some ⟨1, ⟨20000000000, by decide⟩⟩ := by decide +kernel
  have newest : Newest overlappingActs 2 :=
    ⟨overlappingActs.take 7, overlappingActs.drop 8, by decide, by decide, by decide⟩
  have unended : ¬Ended overlappingActs 2 := by
    rintro ⟨before, later, parts, -⟩
    have member : Act.expire 2 ∈ overlappingActs := by simp [parts]
    exact absurd member (by decide)
  have ended : Ended overlappingActs 0 :=
    ⟨overlappingActs.take 6, overlappingActs.drop 7, by decide, by decide⟩
  obtain ⟨-, -, ends⟩ := expiry_counts_iff_newest (.start .standard) rfl overlappingActs (by decide)
  refine ⟨by decide +kernel, by decide +kernel, by decide +kernel, ?_, ?_⟩
  · rw [((ends 2 _ third).2 unended).1 newest]
    decide +kernel
  · rw [(ends 0 _ first).1 ended]
    decide +kernel

end Timers

end DurableMqtt.Backoff
