import Mathlib
import DurableMqtt.Configuration.Checks

/-!
How long the supervisor waits between its attempts.

Each wait doubles the quiet time up to the bound of the timing, so after `n` waits it is the smaller
one of the bound and `2 ^ n` times the quiet time at the start. The span at which arithmetic stops
is never below the bound and therefore never shows. Only the end of a stability timer shortens the
quiet time, to the base of the timing.

A wait has two ends. Between them the timer may be started and stopped, and may come to its end. A
wait that nothing comes between is one call of `backOff`.
-/

namespace DurableMqtt

namespace Backoff

/-! ### Spans -/

theorem double_nanoseconds (d : Duration) :
    d.double.nanoseconds = min (2 * d.nanoseconds) maxNanoseconds := rfl

theorem le_iff {a b : Duration} : a ≤ b ↔ a.nanoseconds ≤ b.nanoseconds := Iff.rfl

theorem min_nanoseconds (a b : Duration) :
    (a.min b).nanoseconds = min a.nanoseconds b.nanoseconds := by
  unfold Duration.min
  split
  next le => exact (Nat.min_eq_left le).symm
  next gt => exact (Nat.min_eq_right (Nat.le_of_not_le gt)).symm

theorem ofSeconds_nanoseconds (seconds : UInt64) :
    (Duration.ofSeconds seconds).nanoseconds = seconds.toNat * 1000000000 := by
  have bounded := seconds.toNat_lt
  change min (seconds.toNat * 1000000000) maxNanoseconds = _
  unfold maxNanoseconds
  omega

/-! ### Waits -/

def backOffs : Nat → Backoff → List Duration × Backoff
  | 0, b => ([], b)
  | n + 1, b => (b.backOff.1 :: (backOffs n b.backOff.2).1, (backOffs n b.backOff.2).2)

theorem length_backOffs (n : Nat) (b : Backoff) : (b.backOffs n).1.length = n := by
  induction n generalizing b with
  | zero => rfl
  | succ n ih => exact congrArg (· + 1) (ih _)

inductive Act where
  /-- A wait begins. -/
  | fallQuiet
  /-- The wait is over. -/
  | wake
  | startTimer
  | stopTimer
  | expire (timer : StabilityTimer)

structure Wait where
  slept : Duration
  /-- A timer has come to its end since the wait before began. -/
  reset : Bool
deriving DecidableEq

/-- The quiet times of one supervisor, with its waits, oldest first. -/
structure Waits where
  backoff : Backoff
  asleep : Bool := false
  begun : List Wait := []
  /-- How many waits are over. -/
  returned : Nat := 0
  /-- A timer has come to its end since the last wait began. -/
  reset : Bool := false

def resets (b : Backoff) (t : StabilityTimer) : Bool :=
  decide (t ∈ b.timers ∧ t.generation = b.generation)

namespace Waits

/-- Nobody begins a wait before the last one is over, or ends one that has not begun. -/
def after (w : Waits) : Act → Waits
  | .fallQuiet =>
    if w.asleep then w
    else { w with
      backoff := w.backoff.stopTimer
      asleep := true
      begun := w.begun ++ [⟨w.backoff.stopTimer.current, w.reset⟩]
      reset := false }
  | .wake =>
    if w.asleep then
      { w with backoff := w.backoff.escalate, asleep := false, returned := w.returned + 1 }
    else w
  | .startTimer => { w with backoff := w.backoff.startTimer }
  | .stopTimer => { w with backoff := w.backoff.stopTimer }
  | .expire timer =>
    { w with
      backoff := w.backoff.expire timer
      reset := w.reset || w.backoff.resets timer }

theorem after_fallQuiet {w : Waits} (awake : w.asleep = false) :
    w.after .fallQuiet =
      { w with
        backoff := w.backoff.stopTimer
        asleep := true
        begun := w.begun ++ [⟨w.backoff.current, w.reset⟩]
        reset := false } := if_neg (ne_true_of_eq_false awake)

theorem after_wake {w : Waits} (asleep : w.asleep = true) :
    w.after .wake =
      { w with backoff := w.backoff.escalate, asleep := false, returned := w.returned + 1 } :=
  if_pos asleep

theorem after_unfit {w : Waits} :
    (w.asleep = true → w.after .fallQuiet = w) ∧ (w.asleep = false → w.after .wake = w) :=
  ⟨fun asleep => if_pos asleep, fun awake => if_neg (ne_true_of_eq_false awake)⟩

def run (acts : List Act) (w : Waits) : Waits := acts.foldl after w

theorem run_append (first second : List Act) (w : Waits) :
    run (first ++ second) w = run second (run first w) :=
  List.foldl_append

def isUnreset (w : Waits) : Bool := !w.reset && w.begun.all (!·.reset)

/-- A wait that nothing comes between is a whole wait. -/
theorem run_backOff (w : Waits) (awake : w.asleep = false) :
    run [.fallQuiet, .wake] w =
      { w with
        backoff := w.backoff.backOff.2
        begun := w.begun ++ [⟨w.backoff.backOff.1, w.reset⟩]
        returned := w.returned + 1
        reset := false } := by
  obtain ⟨backoff, asleep, begun, returned, reset⟩ := w
  cases awake
  rfl

def wholeWaits (n : Nat) : List Act := (List.replicate n [.fallQuiet, .wake]).flatten

theorem run_wholeWaits (n : Nat) (w : Waits) (awake : w.asleep = false) (reset : w.reset = false) :
    run (wholeWaits n) w =
      { w with
        backoff := (w.backoff.backOffs n).2
        begun := w.begun ++ (w.backoff.backOffs n).1.map (⟨·, false⟩)
        returned := w.returned + n } := by
  induction n generalizing w with
  | zero => simp [wholeWaits, run, backOffs]
  | succ n ih =>
    have first := run_backOff w awake
    have later := ih (run [.fallQuiet, .wake] w) (by rw [first]; exact awake) (by rw [first])
    change run ([.fallQuiet, .wake] ++ wholeWaits n) w = _
    rw [run_append, later, first]
    simp [backOffs, reset, Nat.add_assoc, Nat.add_comm 1 n]

end Waits

/-! ### What becomes of the quiet time -/

theorem escalate_current (b : Backoff) (positive : 0 < b.current.nanoseconds) :
    b.escalate.current.nanoseconds =
      min b.timing.max.nanoseconds (2 * b.current.nanoseconds) := by
  have unfinished : b.current.isZero = false := by
    simp only [Duration.isZero, beq_eq_false_iff_ne]
    omega
  have bounded := b.timing.max.le_max
  change b.escalated.nanoseconds = _
  rw [escalated, if_neg (ne_true_of_eq_false unfinished), min_nanoseconds,
    double_nanoseconds]
  omega

theorem expire_eq (b : Backoff) (timer : StabilityTimer) :
    b.expire timer =
      { b with
        current := if b.resets timer then b.timing.base else b.current
        timers := b.timers.erase timer } := by
  unfold expire resets
  by_cases counts : timer ∈ b.timers ∧ timer.generation = b.generation
  · simp only [if_pos counts, decide_eq_true counts, ↓reduceIte]
  · simp only [if_neg counts, decide_eq_false counts, Bool.false_eq_true, ↓reduceIte]

theorem expire_timing (b : Backoff) (timer : StabilityTimer) :
    (b.expire timer).timing = b.timing := by
  rw [expire_eq]

theorem expire_current (b : Backoff) (timer : StabilityTimer) :
    (b.expire timer).current = if b.resets timer then b.timing.base else b.current := by
  rw [expire_eq]

namespace Waits

variable {w : Waits}

/-- The quiet time after `n` waits that began with `c` and are bounded by `most`. -/
def doubled (most c : Nat) : Nat → Nat
  | 0 => c
  | n + 1 => min most (2 ^ (n + 1) * c)

theorem doubled_pos {most c : Nat} (bound : 0 < most) (start : 0 < c) (n : Nat) :
    0 < doubled most c n := by
  cases n with
  | zero => exact start
  | succ n =>
    apply lt_min bound
    positivity

theorem doubled_succ (most c n : Nat) :
    doubled most c (n + 1) = min most (2 * doubled most c n) := by
  cases n with
  | zero => simp only [doubled, zero_add, pow_one]
  | succ n =>
    have twice : 2 ^ (n + 1 + 1) * c = 2 * (2 ^ (n + 1) * c) := by ring
    simp only [doubled, twice]
    omega

theorem doubled_mono (most c : Nat) {m n : Nat} (le : m ≤ n) :
    doubled most c (m + 1) ≤ doubled most c (n + 1) := by
  apply min_le_min_left
  gcongr
  norm_num

/-- Waits that no timer has shortened, from a quiet time `c` on. -/
structure Doubles (timing : Timing) (c : Nat) (w : Waits) : Prop where
  kept : w.backoff.timing = timing
  current : w.backoff.current.nanoseconds = doubled timing.max.nanoseconds c w.returned
  count : w.begun.length = w.returned + w.asleep.toNat
  slept : ∀ k wait, w.begun[k]? = some wait →
    wait.slept.nanoseconds = doubled timing.max.nanoseconds c k

theorem Doubles.start (b : Backoff) :
    Doubles b.timing b.current.nanoseconds { backoff := b } where
  kept := rfl
  current := rfl
  count := rfl
  slept := fun k wait member => by simp at member

theorem Doubles.after {timing : Timing} {c : Nat} (doubles : Doubles timing c w)
    (bound : 0 < timing.max.nanoseconds) (start : 0 < c) (act : Act)
    (unreset : (w.after act).isUnreset) : Doubles timing c (w.after act) := by
  cases act with
  | fallQuiet =>
    cases asleep : w.asleep with
    | true =>
      rw [after_unfit.1 asleep]
      exact doubles
    | false =>
      have count : w.begun.length = w.returned := by
        have count := doubles.count
        rwa [asleep] at count
      rw [after_fallQuiet asleep]
      constructor
      · exact doubles.kept
      · exact doubles.current
      · simp only [List.length_append, count, List.length_singleton, Bool.toNat_true]
      · intro k wait stands
        rcases Nat.lt_trichotomy k w.begun.length with old | rfl | beyond
        · apply doubles.slept k wait
          rwa [List.getElem?_append_left old] at stands
        · rw [List.getElem?_concat_length] at stands
          rw [← Option.some.inj stands, count]
          exact doubles.current
        · rw [List.getElem?_eq_none (by simp; omega)] at stands
          cases stands
  | wake =>
    cases asleep : w.asleep with
    | false =>
      rw [after_unfit.2 asleep]
      exact doubles
    | true =>
      have positive : 0 < w.backoff.current.nanoseconds := by
        rw [doubles.current]
        exact doubled_pos bound start _
      rw [after_wake asleep]
      constructor
      · exact doubles.kept
      · calc
          w.backoff.escalate.current.nanoseconds
            = min timing.max.nanoseconds (2 * w.backoff.current.nanoseconds) := by
              rw [escalate_current _ positive, doubles.kept]
          _ = doubled timing.max.nanoseconds c (w.returned + 1) := by
              rw [doubles.current, doubled_succ]
      · have count := doubles.count
        rw [asleep] at count
        exact count
      · exact doubles.slept
  | startTimer => exact ⟨doubles.kept, doubles.current, doubles.count, doubles.slept⟩
  | stopTimer => exact ⟨doubles.kept, doubles.current, doubles.count, doubles.slept⟩
  | expire timer =>
    have ignored : w.backoff.resets timer = false := by
      simp only [isUnreset, Waits.after, Bool.and_eq_true, Bool.not_eq_true', Bool.or_eq_false_iff]
        at unreset
      exact unreset.1.2
    constructor
    · exact (expire_timing _ _).trans doubles.kept
    · change (w.backoff.expire timer).current.nanoseconds = _
      rw [expire_current, ignored]
      exact doubles.current
    · exact doubles.count
    · exact doubles.slept

theorem isUnreset_of_after {act : Act} (unreset : (w.after act).isUnreset) : w.isUnreset := by
  cases act with
  | fallQuiet =>
    cases asleep : w.asleep with
    | true => rwa [after_unfit.1 asleep] at unreset
    | false =>
      rw [after_fallQuiet asleep] at unreset
      simpa [isUnreset, and_comm] using unreset
  | wake =>
    cases asleep : w.asleep with
    | true =>
      rw [after_wake asleep] at unreset
      exact unreset
    | false => rwa [after_unfit.2 asleep] at unreset
  | startTimer => exact unreset
  | stopTimer => exact unreset
  | expire timer =>
    simp only [isUnreset, Waits.after, Bool.and_eq_true, Bool.not_eq_true', Bool.or_eq_false_iff]
      at unreset ⊢
    exact ⟨unreset.1.1, unreset.2⟩

theorem isUnreset_of_run {acts : List Act} (unreset : (run acts w).isUnreset) : w.isUnreset := by
  induction acts generalizing w with
  | nil => exact unreset
  | cons act rest ih => exact isUnreset_of_after (ih unreset)

theorem Doubles.run {timing : Timing} {c : Nat} (acts : List Act) (doubles : Doubles timing c w)
    (bound : 0 < timing.max.nanoseconds) (start : 0 < c) (unreset : (run acts w).isUnreset) :
    Doubles timing c (run acts w) := by
  induction acts generalizing w with
  | nil => exact doubles
  | cons act rest ih =>
    exact ih (doubles.after bound start act (isUnreset_of_run unreset)) unreset

/-- What `n` waits of these spans come to, when no timer has come to its end. -/
structure Grows (b : Backoff) (n : Nat) (spans : List Duration) (b' : Backoff) : Prop where
  current : 1 ≤ n → b'.current.nanoseconds =
    min b.timing.max.nanoseconds (2 ^ n * b.current.nanoseconds)
  slept : ∀ k span, spans[k]? = some span → span.nanoseconds =
    if k = 0 then b.current.nanoseconds
    else min b.timing.max.nanoseconds (2 ^ k * b.current.nanoseconds)
  ascending : (spans.tail.map Duration.nanoseconds).Pairwise (· ≤ ·)

theorem doubled_of_ne_zero (most c : Nat) {n : Nat} (begun : n ≠ 0) :
    doubled most c n = min most (2 ^ n * c) := by
  cases n with
  | zero => exact absurd rfl begun
  | succ n => rfl

theorem Doubles.grows {b : Backoff} (doubles : Doubles b.timing b.current.nanoseconds w) :
    Grows b w.returned (w.begun.map (·.slept)) w.backoff := by
  have stood (k : Nat) (span : Duration) (found : (w.begun.map (·.slept))[k]? = some span) :
      span.nanoseconds = doubled b.timing.max.nanoseconds b.current.nanoseconds k := by
    rw [List.getElem?_map] at found
    obtain ⟨wait, stands, rfl⟩ := Option.map_eq_some_iff.mp found
    exact doubles.slept k wait stands
  constructor
  case current =>
    intro returned
    rw [doubles.current]
    exact doubled_of_ne_zero _ _ (by omega)
  case slept =>
    intro k span found
    rw [stood k span found]
    split
    next first => rw [first, doubled]
    next later => exact doubled_of_ne_zero _ _ later
  case ascending =>
    apply List.pairwise_iff_getElem.mpr
    intro i j hi hj lt
    simp only [List.length_map, List.length_tail] at hi hj
    have later (k : Nat) (within : k + 1 < w.begun.length) :
        w.begun[k + 1].slept.nanoseconds =
          doubled b.timing.max.nanoseconds b.current.nanoseconds (k + 1) :=
      doubles.slept (k + 1) _ (List.getElem?_eq_getElem within)
    simp only [List.getElem_map, List.getElem_tail]
    rw [later i (by omega), later j (by omega)]
    exact doubled_mono _ _ (by omega)

theorem grows_backOffs (b : Backoff) (n : Nat) (bound : 0 < b.timing.max.nanoseconds)
    (start : 0 < b.current.nanoseconds) : Grows b n (b.backOffs n).1 (b.backOffs n).2 := by
  have whole := run_wholeWaits n { backoff := b } rfl rfl
  have unreset : (Waits.run (wholeWaits n) { backoff := b }).isUnreset = true := by
    rw [whole]
    simp [isUnreset]
  have grows := ((Doubles.start b).run (wholeWaits n) bound start unreset).grows
  rw [whole] at grows
  simpa [Function.comp_def] using grows

/-! ### Bounds -/

/-- Between its base and its bound a quiet time shrinks only where a timer comes to its end. -/
structure Bounded (timing : Timing) (least : Duration) (w : Waits) : Prop where
  kept : w.backoff.timing = timing
  current : least ≤ w.backoff.current ∧ w.backoff.current ≤ timing.max
  slept : ∀ wait ∈ w.begun, least ≤ wait.slept ∧ wait.slept ≤ timing.max
  ascending : w.begun.IsChain fun before after => after.reset = true ∨ before.slept ≤ after.slept
  last : ∀ wait ∈ w.begun.getLast?, w.reset = true ∨ wait.slept ≤ w.backoff.current

theorem Bounded.start (timing : Timing) (least : Duration)
    (initial : least ≤ initialQuiet ∧ initialQuiet ≤ timing.max) :
    Bounded timing least { backoff := .start timing } where
  kept := rfl
  current := initial
  slept := fun _ member => absurd member List.not_mem_nil
  ascending := .nil
  last := fun wait member => absurd member.symm (Option.some_ne_none wait)

theorem Bounded.after {timing : Timing} {least : Duration} (bounded : Bounded timing least w)
    (positive : 0 < least.nanoseconds) (base : least ≤ timing.base ∧ timing.base ≤ timing.max)
    (act : Act) : Bounded timing least (w.after act) := by
  have current := bounded.current
  rw [le_iff, le_iff] at current base
  cases act with
  | fallQuiet =>
    cases asleep : w.asleep with
    | true =>
      rw [after_unfit.1 asleep]
      exact bounded
    | false =>
      rw [after_fallQuiet asleep]
      constructor
      · exact bounded.kept
      · exact current
      · intro wait member
        rcases List.mem_append.mp member with old | new
        · exact bounded.slept wait old
        · rw [List.mem_singleton.mp new]
          exact current
      · apply bounded.ascending.append (.singleton _)
        intro before last after first
        rw [← Option.some.inj first]
        exact bounded.last before last
      · intro newest last
        rw [List.getLast?_concat] at last
        rw [← Option.some.inj last]
        exact .inr (le_refl w.backoff.current.nanoseconds)
  | wake =>
    cases asleep : w.asleep with
    | false =>
      rw [after_unfit.2 asleep]
      exact bounded
    | true =>
      have next := escalate_current w.backoff (by omega)
      rw [bounded.kept] at next
      rw [after_wake asleep]
      constructor
      · exact bounded.kept
      · simp only [le_iff]
        omega
      · exact bounded.slept
      · exact bounded.ascending
      · intro wait last
        apply (bounded.last wait last).imp_right
        simp only [le_iff]
        omega
  | startTimer => exact ⟨bounded.kept, current, bounded.slept, bounded.ascending, bounded.last⟩
  | stopTimer => exact ⟨bounded.kept, current, bounded.slept, bounded.ascending, bounded.last⟩
  | expire timer =>
    have next := expire_current w.backoff timer
    rw [bounded.kept] at next
    constructor
    · exact (expire_timing _ _).trans bounded.kept
    · change least ≤ (w.backoff.expire timer).current ∧
        (w.backoff.expire timer).current ≤ timing.max
      rw [next]
      split
      · exact base
      · exact current
    · exact bounded.slept
    · exact bounded.ascending
    · intro wait last
      change (w.reset || w.backoff.resets timer) = true ∨
        wait.slept ≤ (w.backoff.expire timer).current
      rw [next]
      split
      next counts => exact .inl (Bool.or_eq_true_iff.mpr (.inr counts))
      next => exact (bounded.last wait last).imp_left fun reset => by rw [reset, Bool.true_or]

theorem Bounded.run {timing : Timing} {least : Duration} (acts : List Act)
    (bounded : Bounded timing least w) (positive : 0 < least.nanoseconds)
    (base : least ≤ timing.base ∧ timing.base ≤ timing.max) :
    Bounded timing least (run acts w) := by
  induction acts generalizing w with
  | nil => exact bounded
  | cons act rest ih => exact ih (bounded.after positive base act)

end Waits

end Backoff

/-! ### Configurations -/

theorem rangeAtLeast_eq_nil {path message : String} {least n : Nat} :
    rangeAtLeast path least n message = [] ↔ least ≤ n := by
  unfold rangeAtLeast
  split <;> simp_all

theorem BackoffConfig.timing_of_sound {b : BackoffConfig} (sound : b.violations = []) :
    ∃ timing, b.timing = .ok timing ∧ Backoff.initialQuiet ≤ timing.base ∧
      timing.base ≤ timing.max := by
  have fields : b.fieldViolations = [] := by
    by_contra faulty
    rw [violations, if_neg (by simpa using faulty)] at sound
    exact faulty sound
  have bounds : b.boundViolations = [] := by
    rwa [violations, if_pos (by simpa using fields)] at sound
  have least : 1 ≤ b.base.toNat := by
    simp only [fieldViolations, List.append_eq_nil_iff, rangeAtLeast_eq_nil] at fields
    exact fields.1
  have stable : b.base.toNat < b.stable.toNat := by
    by_contra unstable
    rw [boundViolations, if_pos (UInt64.le_iff_toNat_le.mpr (by omega))] at bounds
    cases bounds
  have ordered : b.base.toNat ≤ b.max.toNat := by
    by_contra crossed
    rw [boundViolations, if_neg (by rw [UInt64.le_iff_toNat_le]; omega),
      if_pos (UInt64.lt_iff_toNat_lt.mpr (by omega))] at bounds
    cases bounds
  have below : Duration.ofSeconds b.base < Duration.ofSeconds b.stable := by
    change (Duration.ofSeconds b.base).nanoseconds < (Duration.ofSeconds b.stable).nanoseconds
    simp only [Backoff.ofSeconds_nanoseconds]
    omega
  refine ⟨⟨.ofSeconds b.base, .ofSeconds b.max, .ofSeconds b.stable, below⟩, ?_, ?_, ?_⟩
  · rw [timing, Timing.make, dif_pos below]
  · rw [Backoff.le_iff, Backoff.ofSeconds_nanoseconds]
    change 1000000000 ≤ _
    omega
  · simp only [Backoff.le_iff, Backoff.ofSeconds_nanoseconds]
    omega

theorem TransportConfig.backoff_sound {files : FileLookup} {config : TransportConfig}
    (sound : config.violations files = []) : config.backoff.violations = [] := by
  simp only [TransportConfig.violations, List.append_eq_nil_iff, List.map_eq_nil_iff] at sound
  exact sound.1.2

namespace Backoff

/-- A wait that nothing comes between is one call of `backOff`. Without the end of a timer in
between, `n` waits leave the smaller one of the bound and `2 ^ n` times the quiet time at the start;
the first wait lasts that quiet time, and the others never get shorter. Under a configuration without
complaints, every wait of a new supervisor lasts at least a second and at most the bound, and none is
shorter than the one before unless a timer came to its end in between. -/
theorem waits_double (acts : List Act) :
    (∀ w : Waits, w.asleep = false → Waits.run [.fallQuiet, .wake] w =
      { w with
        backoff := w.backoff.backOff.2
        begun := w.begun ++ [⟨w.backoff.backOff.1, w.reset⟩]
        returned := w.returned + 1
        reset := false }) ∧
    (∀ b : Backoff, 0 < b.timing.max.nanoseconds → 0 < b.current.nanoseconds →
      (∀ n, (b.backOffs n).1.length = n ∧ Waits.Grows b n (b.backOffs n).1 (b.backOffs n).2) ∧
      let w := Waits.run acts { backoff := b }
      w.isUnreset = true →
        w.begun.length = w.returned + w.asleep.toNat ∧
        Waits.Grows b w.returned (w.begun.map (·.slept)) w.backoff) ∧
    ∀ (files : FileLookup) (config : TransportConfig), config.violations files = [] →
      ∃ timing, config.backoff.timing = .ok timing ∧
        let w := Waits.run acts { backoff := .start timing }
        (∀ wait ∈ w.begun, 1000000000 ≤ wait.slept.nanoseconds ∧ wait.slept ≤ timing.max) ∧
        w.begun.IsChain fun before after => after.reset = true ∨ before.slept ≤ after.slept := by
  refine ⟨Waits.run_backOff, fun b bound start => ⟨fun n => ?_, fun unreset => ?_⟩, ?_⟩
  · exact ⟨b.length_backOffs n, Waits.grows_backOffs b n bound start⟩
  · have doubles := (Waits.Doubles.start b).run acts bound start unreset
    exact ⟨doubles.count, doubles.grows⟩
  · intro files config sound
    obtain ⟨timing, made, least, ordered⟩ :=
      BackoffConfig.timing_of_sound (TransportConfig.backoff_sound sound)
    have positive : 0 < initialQuiet.nanoseconds := by decide
    have initial : initialQuiet ≤ initialQuiet ∧ initialQuiet ≤ timing.max :=
      ⟨le_refl initialQuiet.nanoseconds, le_trans (a := initialQuiet.nanoseconds) least ordered⟩
    have bounded := (Waits.Bounded.start timing initialQuiet initial).run acts positive
      ⟨least, ordered⟩
    exact ⟨timing, made, bounded.slept, bounded.ascending⟩

/-- Four waits, the last of them not over. The timer runs while the first one lasts. -/
def lastingActs : List Act :=
  [.fallQuiet, .startTimer, .wake, .fallQuiet, .wake, .stopTimer, .fallQuiet, .wake, .fallQuiet]

/-- After these waits a connection holds until its timer comes to its end, and is lost. -/
def holdingActs : List Act :=
  lastingActs ++
    [.wake, .startTimer, .expire ⟨7, ⟨10000000000, by decide⟩⟩, .fallQuiet, .wake, .fallQuiet]

def briefConfig : TransportConfig := { backoff := { base := 2, max := 5, stable := 10 } }

theorem holdingActs_double :
    let b : Backoff := { timing := .standard, current := ⟨3000000000, by decide⟩ }
    let w := Waits.run lastingActs { backoff := b }
    (b.backOffs 3).1.map Duration.seconds = [3, 6, 12] ∧
      (b.backOffs 3).2.current.nanoseconds = min 32000000000 (2 ^ 3 * 3000000000) ∧
    (w.isUnreset = true ∧ w.returned = 3 ∧
      w.backoff.current.nanoseconds = min 32000000000 (2 ^ 3 * 3000000000)) ∧
    briefConfig.violations (fun _ => none) = [] ∧
      ∃ timing, briefConfig.backoff.timing = .ok timing ∧
        let w := Waits.run holdingActs { backoff := .start timing }
        w.begun.map (fun wait => (wait.slept.seconds, wait.reset)) =
          [(1, false), (2, false), (4, false), (5, false), (2, true), (4, false)] ∧
        w.begun.IsChain fun before after => after.reset = true ∨ before.slept ≤ after.slept := by
  let b : Backoff := { timing := .standard, current := ⟨3000000000, by decide⟩ }
  have unreset : (Waits.run lastingActs { backoff := b }).isUnreset = true := by decide +kernel
  obtain ⟨calls, lasting⟩ := (waits_double lastingActs).2.1 b (by decide) (by decide)
  have called := (calls 3).2.current (by decide)
  have doubled := (lasting unreset).2.current (by decide +kernel)
  have sound : briefConfig.violations (fun _ => none) = [] := by decide +kernel
  obtain ⟨timing, made, -, ascending⟩ := (waits_double holdingActs).2.2 _ briefConfig sound
  have brief : briefConfig.backoff.timing = .ok ⟨⟨2000000000, by decide⟩, ⟨5000000000, by decide⟩,
      ⟨10000000000, by decide⟩, by decide⟩ := by
    decide +kernel
  refine ⟨by decide +kernel, called, ⟨unreset, by decide +kernel, doubled⟩, sound, timing, made, ?_,
    ascending⟩
  rw [← Except.ok.inj (brief.symm.trans made)]
  decide +kernel

end Backoff

end DurableMqtt
