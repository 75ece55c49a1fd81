import Mathlib
import DurableMqtt.Callback

/-!
In which order the jobs of a callback pool are run.

Jobs are taken in the order in which they were submitted, and a job that was taken is run once. A
worker that has taken a job may be slow to run it, and meanwhile another worker may take and run a
later one. So the order of running is that of submission just as long as no worker runs a job while
another one holds an older job, and only a pool of one worker can promise that.
-/

namespace DurableMqtt.CallbackPool

variable {α : Type}

/-! ### What the submitters and the workers do -/

inductive Act (α : Type) where
  | submit (job : α)
  | take (worker : Nat)
  | run (worker : Nat)

namespace Act

def job? : Act α → Option α
  | submit job => some job
  | take _ | run _ => none

end Act

def after (p : CallbackPool α) : Act α → CallbackPool α
  | .submit job => p.submit job
  | .take worker => p.take worker
  | .run worker => p.run worker

def acted (acts : List (Act α)) (p : CallbackPool α) : CallbackPool α := acts.foldl after p

def submitted (acts : List (Act α)) : List α := acts.filterMap Act.job?

theorem submitted_cons (act : Act α) (rest : List (Act α)) :
    submitted (act :: rest) = act.job?.toList ++ submitted rest := by
  cases act <;> rfl

def held (p : CallbackPool α) : List α := p.workers.reduceOption

variable {p : CallbackPool α} {jobs : List α}

theorem take_eq {worker : Nat} {job : α} {rest : List α} (waiting : p.waiting = job :: rest)
    (idle : p.workers[worker]? = some none) :
    p.take worker =
      { p with waiting := rest, workers := p.workers.set worker (some job) } := by
  simp only [take, waiting, idle]

theorem take_unfit {worker : Nat} (unfit : p.waiting = [] ∨ p.workers[worker]? ≠ some none) :
    p.take worker = p := by
  unfold take
  split
  next waiting idle => exact absurd unfit (by simp [waiting, idle])
  next => rfl

theorem run_eq {worker : Nat} {job : α} (busy : p.workers[worker]? = some (some job)) :
    p.run worker = { p with workers := p.workers.set worker none, ran := p.ran ++ [job] } := by
  simp only [run, busy]

theorem run_unfit {worker : Nat} (unfit : ∀ job, p.workers[worker]? ≠ some (some job)) :
    p.run worker = p := by
  unfold run
  split
  next job busy => exact absurd busy (unfit job)
  next => rfl

inductive Moved (p : CallbackPool α) : Act α → CallbackPool α → Prop where
  | submitted (job : α) : Moved p (.submit job) { p with waiting := p.waiting ++ [job] }
  | taken (worker : Nat) (job : α) (rest : List α) (waiting : p.waiting = job :: rest)
      (idle : p.workers[worker]? = some none) :
      Moved p (.take worker)
        { p with waiting := rest, workers := p.workers.set worker (some job) }
  | ran (worker : Nat) (job : α) (busy : p.workers[worker]? = some (some job)) :
      Moved p (.run worker)
        { p with workers := p.workers.set worker none, ran := p.ran ++ [job] }
  | untaken (worker : Nat) : Moved p (.take worker) p
  | unrun (worker : Nat) (unfit : ∀ job, p.workers[worker]? ≠ some (some job)) :
      Moved p (.run worker) p

theorem after_moved (p : CallbackPool α) (act : Act α) : Moved p act (p.after act) := by
  cases act with
  | submit job => exact .submitted job
  | take worker =>
    change Moved p (.take worker) (p.take worker)
    by_cases fit : p.waiting ≠ [] ∧ p.workers[worker]? = some none
    · obtain ⟨job, rest, waiting⟩ := List.exists_cons_of_ne_nil fit.1
      rw [take_eq waiting fit.2]
      exact .taken worker job rest waiting fit.2
    · rw [take_unfit (by tauto)]
      exact .untaken worker
  | run worker =>
    change Moved p (.run worker) (p.run worker)
    by_cases fit : ∃ job, p.workers[worker]? = some (some job)
    · obtain ⟨job, busy⟩ := fit
      rw [run_eq busy]
      exact .ran worker job busy
    · push Not at fit
      rw [run_unfit fit]
      exact .unrun worker fit

theorem workers_length_after (act : Act α) :
    (p.after act).workers.length = p.workers.length := by
  have moved := after_moved p act
  generalize p.after act = t at moved ⊢
  cases moved with
  | taken worker job rest waiting idle => exact List.length_set
  | ran worker job busy => exact List.length_set
  | _ => rfl

theorem workers_length_acted (acts : List (Act α)) :
    (acted acts p).workers.length = p.workers.length := by
  induction acts generalizing p with
  | nil => rfl
  | cons act rest ih => exact ih.trans (workers_length_after act)

theorem workers_length_start (size : Nat) :
    (start size : CallbackPool α).workers.length = max size 1 := List.length_replicate

/-! ### Every job once -/

theorem reduceOption_set {workers : List (Option α)} {worker : Nat} {old : Option α}
    (stands : workers[worker]? = some old) (new : Option α) :
    (old.toList ++ (workers.set worker new).reduceOption).Perm
      (new.toList ++ workers.reduceOption) := by
  have cons (head : Option α) (rest : List (Option α)) :
      (head :: rest).reduceOption = head.toList ++ rest.reduceOption := by
    cases head with
    | none => exact List.reduceOption_cons_of_none rest
    | some job => exact List.reduceOption_cons_of_some job rest
  induction workers generalizing worker with
  | nil => cases stands
  | cons head rest ih =>
    cases worker with
    | zero =>
      cases stands
      rw [List.set_cons_zero, cons, cons]
      exact List.perm_append_comm_assoc _ _ _
    | succ worker =>
      rw [List.getElem?_cons_succ] at stands
      rw [List.set_cons_succ, cons, cons]
      apply (List.perm_append_comm_assoc _ _ _).trans
      apply ((ih stands).append_left _).trans
      exact List.perm_append_comm_assoc _ _ _

/-- Of the jobs that were submitted, the oldest ones were taken, and each of these was run once or is
held by one worker. -/
def Keeps (jobs : List α) (p : CallbackPool α) : Prop :=
  ∃ taken, taken ++ p.waiting = jobs ∧ (p.ran ++ p.held).Perm taken

theorem keeps_start (size : Nat) : Keeps [] (start size : CallbackPool α) :=
  ⟨[], rfl, by simp [start, held, List.reduceOption]⟩

theorem Keeps.after (keeps : Keeps jobs p) (act : Act α) :
    Keeps (jobs ++ act.job?.toList) (p.after act) := by
  obtain ⟨taken, line, once⟩ := keeps
  have moved := after_moved p act
  generalize p.after act = t at moved ⊢
  cases moved with
  | submitted job =>
    refine ⟨taken, ?_, once⟩
    rw [← line, List.append_assoc]
    rfl
  | taken worker job rest waiting idle =>
    refine ⟨taken ++ [job], ?_, ?_⟩
    · rw [← line, waiting, List.append_assoc]
      exact (List.append_nil _).symm
    · have picked : (p.workers.set worker (some job)).reduceOption.Perm (job :: p.held) :=
        reduceOption_set idle (some job)
      apply (picked.append_left p.ran).trans
      apply List.perm_middle.trans
      exact (once.cons job).trans (List.perm_append_singleton job taken).symm
  | ran worker job busy =>
    refine ⟨taken, line.trans (List.append_nil _).symm, ?_⟩
    have laid : (job :: (p.workers.set worker none).reduceOption).Perm p.held :=
      reduceOption_set busy none
    change (p.ran ++ [job] ++ (p.workers.set worker none).reduceOption).Perm taken
    rw [List.append_assoc]
    exact (laid.append_left p.ran).trans once
  | untaken worker => exact ⟨taken, line.trans (List.append_nil _).symm, once⟩
  | unrun worker unfit => exact ⟨taken, line.trans (List.append_nil _).symm, once⟩

theorem Keeps.acted (keeps : Keeps jobs p) (acts : List (Act α)) :
    Keeps (jobs ++ submitted acts) (acted acts p) := by
  induction acts generalizing jobs p with
  | nil =>
    rw [submitted, List.filterMap_nil, List.append_nil]
    exact keeps
  | cons act rest ih =>
    rw [submitted_cons, ← List.append_assoc]
    exact ih (keeps.after act)

theorem Keeps.length (keeps : Keeps jobs p) :
    p.ran.length + p.held.length + p.waiting.length = jobs.length := by
  obtain ⟨taken, line, once⟩ := keeps
  have count := once.length_eq
  rw [List.length_append] at count
  rw [← line, List.length_append, count]

/-! ### Until nothing is left -/

/-- How many steps of the workers are left: two for a job that waits and one for a job that was
taken. -/
def left (p : CallbackPool α) : Nat := 2 * p.waiting.length + p.held.length

/-- How many acts of a run are steps of the workers that get somewhere. -/
def steps : List (Act α) → CallbackPool α → Nat
  | [], _ => 0
  | act :: rest, p => (if (p.after act).left < p.left then 1 else 0) + steps rest (p.after act)

theorem left_take {worker : Nat} {job : α} {rest : List α} (waiting : p.waiting = job :: rest)
    (idle : p.workers[worker]? = some none) : (p.take worker).left + 1 = p.left := by
  have picked := (reduceOption_set idle (some job)).length_eq
  simp only [Option.toList_none, Option.toList_some, List.nil_append, List.singleton_append,
    List.length_cons] at picked
  rw [take_eq waiting idle]
  simp only [left, held, waiting, picked, List.length_cons]
  omega

theorem left_run {worker : Nat} {job : α} (busy : p.workers[worker]? = some (some job)) :
    (p.run worker).left + 1 = p.left := by
  have laid := (reduceOption_set busy none).length_eq
  simp only [Option.toList_none, Option.toList_some, List.nil_append, List.singleton_append,
    List.length_cons] at laid
  rw [run_eq busy]
  simp only [left, held, ← laid]
  omega

theorem left_after (act : Act α) :
    (if (p.after act).left < p.left then 1 else 0) + (p.after act).left =
      p.left + 2 * act.job?.toList.length := by
  have moved := after_moved p act
  cases act with
  | submit job =>
    have more : (p.after (.submit job)).left = p.left + 2 := by
      simp only [after, submit, left, held, List.length_append, List.length_singleton]
      omega
    rw [more, if_neg (by omega)]
    simp [Act.job?]
  | take worker =>
    have fewer : (p.after (.take worker)).left + 1 = p.left ∨
        (p.after (.take worker)).left = p.left := by
      by_cases fit : p.waiting ≠ [] ∧ p.workers[worker]? = some none
      · obtain ⟨job, rest, waiting⟩ := List.exists_cons_of_ne_nil fit.1
        exact .inl (left_take waiting fit.2)
      · exact .inr (congrArg left (take_unfit (by tauto)))
    simp only [Act.job?, Option.toList_none, List.length_nil]
    split <;> omega
  | run worker =>
    have fewer : (p.after (.run worker)).left + 1 = p.left ∨
        (p.after (.run worker)).left = p.left := by
      by_cases fit : ∃ job, p.workers[worker]? = some (some job)
      · obtain ⟨job, busy⟩ := fit
        exact .inl (left_run busy)
      · push Not at fit
        exact .inr (congrArg left (run_unfit fit))
    simp only [Act.job?, Option.toList_none, List.length_nil]
    split <;> omega

theorem steps_acted (acts : List (Act α)) :
    steps acts p + (acted acts p).left = p.left + 2 * (submitted acts).length := by
  induction acts generalizing p with
  | nil => exact Nat.zero_add _
  | cons act rest ih =>
    have first := left_after (p := p) act
    have others : steps rest (p.after act) + (acted (act :: rest) p).left =
        (p.after act).left + 2 * (submitted rest).length := ih
    rw [submitted_cons, List.length_append, steps]
    omega

theorem advances (some_left : 0 < p.left) (staffed : p.workers ≠ []) :
    ∃ worker, (p.take worker).left < p.left ∨ (p.run worker).left < p.left := by
  by_cases busy : p.held = []
  · have waiting : p.waiting ≠ [] := by
      intro none
      simp [left, busy, none] at some_left
    obtain ⟨job, rest, waiting⟩ := List.exists_cons_of_ne_nil waiting
    obtain ⟨first, others, workers⟩ := List.exists_cons_of_ne_nil staffed
    have idle : p.workers[0]? = some none := by
      have none : first = none := by
        cases first with
        | none => rfl
        | some job => simp [held, workers] at busy
      rw [workers, List.getElem?_cons_zero, none]
    have fewer := left_take waiting idle
    exact ⟨0, .inl (by omega)⟩
  · obtain ⟨job, member⟩ := List.exists_mem_of_ne_nil _ busy
    obtain ⟨worker, stands⟩ := List.mem_iff_getElem?.mp (List.reduceOption_mem_iff.mp member)
    have fewer := left_run stands
    exact ⟨worker, .inr (by omega)⟩

theorem left_eq_zero_iff (keeps : Keeps jobs p) : p.left = 0 ↔ p.ran.Perm jobs := by
  have count := keeps.length
  constructor
  · intro none
    have idle : p.held = [] := List.eq_nil_of_length_eq_zero (by unfold left at none; omega)
    have taken : p.waiting = [] := List.eq_nil_of_length_eq_zero (by unfold left at none; omega)
    obtain ⟨jobs', line, once⟩ := keeps
    rw [taken, List.append_nil] at line
    rw [idle, List.append_nil, line] at once
    exact once
  · intro all
    have same := all.length_eq
    unfold left
    omega

/-! ### The order of running -/

def overtakes (p : CallbackPool (α × Nat)) : Act (α × Nat) → Bool
  | .run worker =>
    match p.workers[worker]? with
    | some (some job) => p.held.any (·.2 < job.2)
    | _ => false
  | _ => false

def overtakesAlong : List (Act (α × Nat)) → CallbackPool (α × Nat) → Bool
  | [], _ => false
  | act :: rest, p => p.overtakes act || overtakesAlong rest (p.after act)

def numbered : Nat → List (Act α) → List (Act (α × Nat))
  | _, [] => []
  | n, .submit job :: rest => .submit (job, n) :: numbered (n + 1) rest
  | n, .take worker :: rest => .take worker :: numbered n rest
  | n, .run worker :: rest => .run worker :: numbered n rest

section Numbers

variable {p : CallbackPool (α × Nat)} {jobs : List (α × Nat)}

theorem submitted_numbered (n : Nat) (acts : List (Act α)) :
    submitted (numbered n acts) = (submitted acts).zipIdx n := by
  induction acts generalizing n with
  | nil => rfl
  | cons act rest ih =>
    rw [submitted_cons]
    cases act with
    | submit job =>
      rw [numbered, submitted_cons, ih]
      rfl
    | take worker =>
      rw [numbered, submitted_cons, ih]
      rfl
    | run worker =>
      rw [numbered, submitted_cons, ih]
      rfl

theorem zipIdx_ascending (n : Nat) (jobs : List α) :
    (jobs.zipIdx n).Pairwise (·.2 < ·.2) := by
  rw [← List.pairwise_map, List.zipIdx_map_snd]
  exact List.pairwise_lt_range'

def unnumbered (p : CallbackPool (α × Nat)) : CallbackPool α where
  waiting := p.waiting.map Prod.fst
  workers := p.workers.map (Option.map Prod.fst)
  ran := p.ran.map Prod.fst

theorem unnumbered_take (worker : Nat) : (p.take worker).unnumbered = p.unnumbered.take worker := by
  by_cases fit : p.waiting ≠ [] ∧ p.workers[worker]? = some none
  · obtain ⟨job, rest, waiting⟩ := List.exists_cons_of_ne_nil fit.1
    have waiting' : p.unnumbered.waiting = job.1 :: rest.map Prod.fst := by
      rw [unnumbered, waiting, List.map_cons]
    have idle' : p.unnumbered.workers[worker]? = some none := by
      simp only [unnumbered, List.getElem?_map, fit.2, Option.map_some, Option.map_none]
    rw [take_eq waiting fit.2, take_eq waiting' idle']
    simp only [unnumbered, List.map_set, Option.map_some]
  · have unfit : p.waiting = [] ∨ p.workers[worker]? ≠ some none := by tauto
    have unfit' : p.unnumbered.waiting = [] ∨ p.unnumbered.workers[worker]? ≠ some none := by
      simpa [unnumbered] using unfit
    rw [take_unfit unfit, take_unfit unfit']

theorem unnumbered_run (worker : Nat) : (p.run worker).unnumbered = p.unnumbered.run worker := by
  by_cases fit : ∃ job, p.workers[worker]? = some (some job)
  · obtain ⟨job, busy⟩ := fit
    have busy' : p.unnumbered.workers[worker]? = some (some job.1) := by
      simp only [unnumbered, List.getElem?_map, busy, Option.map_some]
    rw [run_eq busy, run_eq busy']
    simp only [unnumbered, List.map_set, Option.map_none, List.map_append, List.map_cons,
      List.map_nil]
  · push Not at fit
    have unfit : ∀ job, p.unnumbered.workers[worker]? ≠ some (some job) := by
      intro job busy
      simp only [unnumbered, List.getElem?_map, Option.map_eq_some_iff] at busy
      obtain ⟨old, stands, job', rfl, -⟩ := busy
      exact fit job' stands
    rw [run_unfit fit, run_unfit unfit]

theorem unnumbered_acted (n : Nat) (acts : List (Act α)) :
    (acted (numbered n acts) p).unnumbered = acted acts p.unnumbered := by
  induction acts generalizing n p with
  | nil => rfl
  | cons act rest ih =>
    cases act with
    | submit job =>
      have same : (p.submit (job, n)).unnumbered = p.unnumbered.submit job := by
        simp only [submit, unnumbered, List.map_append, List.map_cons, List.map_nil]
      exact (ih (n + 1)).trans (congrArg (acted rest) same)
    | take worker => exact (ih n).trans (congrArg (acted rest) (unnumbered_take worker))
    | run worker => exact (ih n).trans (congrArg (acted rest) (unnumbered_run worker))

/-- The job that is run next is the oldest one that is left just if nobody holds an older one. -/
theorem prefix_concat_iff {taken waiting ran held : List (α × Nat)} {job : α × Nat}
    (ascending : jobs.Pairwise (·.2 < ·.2)) (line : taken ++ waiting = jobs)
    (once : (ran ++ held).Perm taken) (busy : job ∈ held) :
    ran ++ [job] <+: jobs ↔ ran <+: jobs ∧ ∀ other ∈ held, ¬other.2 < job.2 := by
  have distinct : (ran ++ held).Nodup := by
    rw [once.nodup_iff]
    apply List.Nodup.sublist (line ▸ List.sublist_append_left taken waiting)
    exact ascending.imp fun less same => by rw [same] at less; exact lt_irrefl _ less
  have apart {other : α × Nat} (here : other ∈ held) : other ∉ ran :=
    fun there => List.disjoint_of_nodup_append distinct there here
  have member {other : α × Nat} (here : other ∈ held) : other ∈ taken :=
    once.mem_iff.mp (List.mem_append_right ran here)
  constructor
  · intro next
    refine ⟨(List.prefix_append ran [job]).trans next, fun other here older => ?_⟩
    obtain ⟨rest, rfl⟩ := next
    have among : other ∈ ran ++ [job] ++ rest := line ▸ List.mem_append_left waiting (member here)
    rw [List.append_assoc, List.mem_append, List.singleton_append, List.mem_cons] at among
    rcases among with run | rfl | later
    · exact apart here run
    · exact lt_irrefl _ older
    · rw [List.append_assoc, List.pairwise_append] at ascending
      exact lt_asymm older (List.rel_of_pairwise_cons ascending.2.1 later)
  · rintro ⟨⟨rest, rfl⟩, oldest⟩
    have among : job ∈ ran ++ rest := line ▸ List.mem_append_left waiting (member busy)
    cases rest with
    | nil => exact absurd (by simpa using among) (apart busy)
    | cons first rest =>
      suffices same : first = job by
        rw [same]
        exact ⟨rest, by simp⟩
      by_contra other
      have older : first.2 < job.2 := by
        rcases List.mem_append.mp among with run | left
        · exact absurd run (apart busy)
        · have behind := (List.mem_cons.mp left).resolve_left (Ne.symm other)
          exact List.rel_of_pairwise_cons (List.pairwise_append.mp ascending).2.1 behind
      -- Whatever waits is newer than the job, so the first one that is left was taken.
      have there : first ∈ taken ++ waiting := line ▸ by simp
      rcases List.mem_append.mp there with early | late
      · rcases List.mem_append.mp (once.mem_iff.mpr early) with run | here
        · have before := (List.pairwise_append.mp ascending).2.2 first run first
          exact lt_irrefl _ (before List.mem_cons_self)
        · exact oldest first here older
      · rw [← line] at ascending
        exact lt_asymm older ((List.pairwise_append.mp ascending).2.2 job (member busy) first late)

theorem ordered_after (ascending : jobs.Pairwise (·.2 < ·.2)) (keeps : Keeps jobs p)
    (act : Act (α × Nat)) :
    (p.after act).ran <+: jobs ++ act.job?.toList ↔
      p.ran <+: jobs ∧ p.overtakes act = false := by
  have moved := after_moved p act
  generalize p.after act = t at moved ⊢
  cases moved with
  | submitted job =>
    have count := keeps.length
    constructor
    · intro ordered
      exact ⟨List.prefix_of_prefix_length_le ordered (List.prefix_append _ _) (by omega), rfl⟩
    · exact fun ordered => ordered.1.trans (List.prefix_append _ _)
  | ran worker job busy =>
    obtain ⟨taken, line, once⟩ := keeps
    have here : job ∈ p.held :=
      List.reduceOption_mem_iff.mpr (List.mem_of_getElem? busy)
    have rule := prefix_concat_iff ascending line once here
    simpa [overtakes, busy, Act.job?] using rule
  | taken worker job rest waiting idle => simp [overtakes, Act.job?]
  | untaken worker => simp [overtakes, Act.job?]
  | unrun worker unfit => simp [overtakes, Act.job?]

theorem ordered_acted (acts : List (Act (α × Nat))) (keeps : Keeps jobs p)
    (ascending : (jobs ++ submitted acts).Pairwise (·.2 < ·.2)) :
    (acted acts p).ran <+: jobs ++ submitted acts ↔
      p.ran <+: jobs ∧ overtakesAlong acts p = false := by
  induction acts generalizing jobs p with
  | nil => simp [acted, submitted, overtakesAlong]
  | cons act rest ih =>
    rw [submitted_cons, ← List.append_assoc] at ascending ⊢
    have first := ordered_after
      (ascending.sublist ((List.sublist_append_left _ _).trans (List.sublist_append_left _ _)))
      keeps act
    calc
      (acted rest (p.after act)).ran <+: jobs ++ act.job?.toList ++ submitted rest
        ↔ (p.after act).ran <+: jobs ++ act.job?.toList ∧
            overtakesAlong rest (p.after act) = false := ih (keeps.after act) ascending
      _ ↔ (p.ran <+: jobs ∧ p.overtakes act = false) ∧
            overtakesAlong rest (p.after act) = false := by rw [first]
      _ ↔ p.ran <+: jobs ∧ overtakesAlong (act :: rest) p = false := by
          rw [overtakesAlong, Bool.or_eq_false_iff, and_assoc]

theorem overtakes_of_single (single : p.workers.length = 1) (act : Act (α × Nat)) :
    p.overtakes act = false := by
  obtain ⟨only, workers⟩ := List.length_eq_one_iff.mp single
  unfold overtakes
  split
  next worker =>
    split
    next job busy =>
      rw [workers, List.getElem?_singleton] at busy
      split at busy
      · cases busy
        simp [held, workers]
      · cases busy
    next => rfl
  next => rfl

theorem overtakesAlong_of_single (single : p.workers.length = 1) (acts : List (Act (α × Nat))) :
    overtakesAlong acts p = false := by
  induction acts generalizing p with
  | nil => rfl
  | cons act rest ih =>
    rw [overtakesAlong, overtakes_of_single single, Bool.false_or]
    exact ih ((workers_length_after act).trans single)

end Numbers

/-! ### From the start -/

def ledger (size : Nat) (acts : List (Act α)) : CallbackPool (α × Nat) :=
  acted (numbered 0 acts) (start size)

/-- What becomes of the jobs that are submitted to a pool. -/
structure Runs (size : Nat) (acts : List (Act α)) : Prop where
  /-- The numbers only tell the jobs apart. -/
  same : acted acts (start size) = (ledger size acts).unnumbered
  kept : Keeps (submitted acts).zipIdx (ledger size acts)
  /-- The jobs that were run are the oldest ones, in the order of submission, just if no worker has
  run one while another one held an older one. -/
  ordered_iff : (ledger size acts).ran <+: (submitted acts).zipIdx ↔
    overtakesAlong (numbered 0 acts) (start size) = false
  /-- Every job takes two steps of a worker. -/
  balance : steps (numbered 0 acts) (start size) + (ledger size acts).left =
    2 * (submitted acts).length
  onward : (ledger size acts).left = 0 ∨ ∃ worker,
    ((ledger size acts).take worker).left < (ledger size acts).left ∨
      ((ledger size acts).run worker).left < (ledger size acts).left
  finished_iff : (ledger size acts).left = 0 ↔ (ledger size acts).ran.Perm (submitted acts).zipIdx

theorem keeps_ledger (size : Nat) (acts : List (Act α)) :
    Keeps (submitted acts).zipIdx (ledger size acts) := by
  rw [← submitted_numbered]
  exact (keeps_start size).acted (numbered 0 acts)

theorem runs (size : Nat) (acts : List (Act α)) : Runs size acts where
  same := by
    rw [ledger, unnumbered_acted]
    simp [start, unnumbered]
  kept := keeps_ledger size acts
  ordered_iff := by
    have ascending := zipIdx_ascending 0 (submitted acts)
    rw [← submitted_numbered] at ascending ⊢
    have rule := ordered_acted (numbered 0 acts) (keeps_start size) ascending
    exact rule.trans (and_iff_right (List.prefix_refl _))
  balance := by
    have balance := steps_acted (p := start size) (numbered 0 acts)
    have none : (start size : CallbackPool (α × Nat)).left = 0 := by
      simp [start, left, held, List.reduceOption]
    rw [submitted_numbered, List.length_zipIdx, none, Nat.zero_add] at balance
    exact balance
  onward := by
    apply (Nat.eq_zero_or_pos _).imp_right
    intro some_left
    apply advances some_left
    apply List.ne_nil_of_length_pos
    rw [ledger, workers_length_acted, workers_length_start]
    omega
  finished_iff := left_eq_zero_iff (keeps_ledger size acts)

def race (first second : α) : List (Act α) :=
  [.submit first, .submit second, .take 0, .take 1, .run 1, .run 0]

theorem race_overtakes (first second : α) {size : Nat} (several : 2 ≤ size) :
    overtakesAlong (numbered 0 (race first second)) (start size) = true := by
  obtain ⟨others, rfl⟩ := Nat.exists_eq_add_of_le' several
  simp [race, numbered, overtakesAlong, overtakes, after, submit, take, run, start, held,
    List.replicate_succ]

/-- A pool keeps the order of submission under every schedule just if it has a single worker. -/
theorem ordered_iff_single [Inhabited α] (size : Nat) :
    (∀ acts : List (Act α), (ledger size acts).ran <+: (submitted acts).zipIdx) ↔ size ≤ 1 := by
  constructor
  · intro ordered
    by_contra several
    have overtaken := race_overtakes (default : α) default (Nat.lt_of_not_le several)
    have calm := (runs size (race default default)).ordered_iff.mp (ordered _)
    exact absurd (overtaken.symm.trans calm) (by decide)
  · intro single acts
    apply (runs size acts).ordered_iff.mpr
    apply overtakesAlong_of_single
    rw [workers_length_start]
    omega

end DurableMqtt.CallbackPool
