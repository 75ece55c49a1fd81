import DurableMqtt.Proofs.Run.Interleaving
import DurableMqtt.Proofs.Run.Passage

/-!
Decisions about a connection are respected, in whatever order the sides act.

The application decides when a session is connected and closed, and the broker may refuse an
attempt. A reconnect carries the epoch that the consumer read when a connection had ended, and each
decision begins a new one. So a reconnect that a decision has overtaken never comes to an attempt,
wherever it is at that time: read by the consumer and not yet asked for, scheduled, or taken up by
a supervisor that sleeps.
-/

namespace DurableMqtt

def Chore.isNotice : Chore → Bool
  | readEpoch _ | leave .. | requestReconnect _ => true
  | _ => false

inductive Deed where
  /-- The application connects or disconnects, or an attempt is refused. -/
  | decides
  /-- The consumer reads the epoch. -/
  | reads
  /-- The consumer schedules a reconnect. -/
  | requests
  /-- The supervisor takes up what is scheduled. -/
  | collects
  /-- The supervisor asks the engine for a connection. -/
  | attempts
  | plain
deriving DecidableEq

/-- The decisions that a run has seen, and how many of them the reconnects know of. -/
structure Chronicle where
  decisions : Nat := 0
  /-- Those at the consumer's last reading of the epoch. -/
  reading : Nat := 0
  /-- Those at the readings that the scheduled reconnects carry, oldest first. -/
  signals : List Nat := []
  /-- Those at the reading that the newest of the collected reconnects carries, or at the
  supervisor's own last attempt. -/
  cycle : Nat := 0

def Chronicle.after (c : Chronicle) : Deed → Chronicle
  | .decides => { c with decisions := c.decisions + 1 }
  | .reads => { c with reading := c.decisions }
  | .requests => { c with signals := c.signals ++ [c.reading] }
  | .collects => { c with cycle := c.signals.getLast?.getD c.cycle, signals := [] }
  | .attempts => { c with cycle := c.decisions }
  | .plain => c

namespace Session

def deed (a : Act) (s : Session) : Deed :=
  match a with
  | .move m _ =>
    match m.step with
    | .connect _ => if s.phase.acceptsConnect then .decides else .plain
    | .disconnect _ => .decides
    | .supervise _ =>
      if asks m s then .attempts
      else if (s.after m).signals = s.signals then .plain else .collects
    | _ => .plain
  | .turn _ => .plain
  | .work .. =>
    match s.consumer.chores with
    | .readEpoch _ :: _ => .reads
    | .requestReconnect _ :: _ => .requests
    | .refuse :: _ => if s.phase = .connecting then .decides else .plain
    | _ => .plain

def chronicle : List Act → Session → Chronicle → Chronicle
  | [], _, c => c
  | a :: rest, s, c => chronicle rest (s.act a) (c.after (deed a s))

def Dated (s : Session) (c : Chronicle) (epoch decisions : Nat) : Prop :=
  epoch < s.epoch ∨ epoch = s.epoch ∧ decisions = c.decisions

/-- A reconnect was asked for under an epoch that was read when so many decisions had been made. A
session only becomes idle in a new epoch, so one of the current epoch is not idle. -/
def Due (s : Session) (c : Chronicle) (epoch decisions : Nat) : Prop :=
  epoch < s.epoch ∨ epoch = s.epoch ∧ decisions = c.decisions ∧ s.phase ≠ .idle

/-- How far the notice of an end has come among the chores. There is one at most. -/
inductive Notice (s : Session) (c : Chronicle) : List Chore → Prop where
  | none : Notice s c []
  | ended (code : UInt8) : Notice s c [.readEpoch code]
  | read (code : UInt8) (epoch : Nat) (dated : Dated s c epoch c.reading)
      (newest : ∀ signal ∈ s.signals, signal ≤ epoch) : Notice s c [.leave code epoch]
  | requested (epoch : Nat) (due : Due s c epoch c.reading)
      (newest : ∀ signal ∈ s.signals, signal ≤ epoch) : Notice s c [.requestReconnect epoch]

structure Chronicled (s : Session) (c : Chronicle) : Prop where
  halted : s.consumer.halted = true → s.consumer.chores = []
  notice : Notice s c (s.consumer.chores.filter Chore.isNotice)
  signals : List.Forall₂ (Due s c) s.signals c.signals
  ascending : s.signals.Pairwise (· ≤ ·)
  expected : ∀ epoch, s.supervisor.expected? = some epoch → Due s c epoch c.cycle

theorem Chronicled.start (settings : Settings) : Chronicled (start settings) {} where
  halted := fun _ => rfl
  notice := .none
  signals := .nil
  ascending := .nil
  expected := fun epoch engaged => absurd engaged.symm (Option.some_ne_none epoch)

variable {s t : Session} {c d : Chronicle} {engine : Engine} {now : Instant}

theorem Due.le {epoch decisions : Nat} (due : Due s c epoch decisions) : epoch ≤ s.epoch :=
  due.elim Nat.le_of_lt fun current => current.1.le

/-! ### Epochs -/

theorem epoch_act_le (a : Act) (s : Session) : (s.act a).epoch ≤ s.epoch + 1 := by
  cases a with
  | move m others => exact epoch_after_le m s
  | turn now => exact (turn_confined s).epoch.le.trans (Nat.le_succ _)
  | work engine now =>
    change (s.work engine now).epoch ≤ s.epoch + 1
    cases chores : s.consumer.chores with
    | nil =>
      rw [work_idle chores]
      exact Nat.le_succ _
    | cons chore rest =>
      have performed : (s.work engine now).epoch =
          (perform engine now chore (s.withChores rest)).2.epoch := by
        simp only [work, chores]
        split <;> rfl
      rw [performed]
      cases chore with
      | refuse =>
        simp only [perform, refuse]
        split
        · exact Nat.le_refl _
        · exact Nat.le_succ _
      | requestReconnect epoch => exact Nat.le_succ _
      | _ =>
        refine (perform_secluded _ _ Chore.noConfusion fun _ => Chore.noConfusion).epoch.le.trans ?_
        exact Nat.le_succ _

/-- No run of fewer than 2^64 acts has the epoch overflow. -/
theorem epoch_acted_le (acts : List Act) (s : Session) :
    (acted acts s).epoch ≤ s.epoch + acts.length := by
  induction acts generalizing s with
  | nil => exact Nat.le_refl _
  | cons a rest ih =>
    have later := ih (s.act a)
    have first := epoch_act_le a s
    rw [acted, List.length_cons]
    omega

/-! ### What was read stays read -/

structure Keeps (s t : Session) (c d : Chronicle) : Prop where
  dated : ∀ epoch decisions, Dated s c epoch decisions → Dated t d epoch decisions
  due : ∀ epoch decisions, Due s c epoch decisions → Due t d epoch decisions

theorem Keeps.of_epoch (epoch : t.epoch = s.epoch + 1) : Keeps s t c d where
  dated := by
    rintro old decisions (older | current)
    · exact .inl (by omega)
    · exact .inl (by omega)
  due := by
    intro old decisions due
    have bound := due.le
    exact .inl (by omega)

theorem Keeps.of_idle (epoch : t.epoch = s.epoch) (decisions : d.decisions = c.decisions)
    (idle : t.phase = .idle → s.phase = .idle) : Keeps s t c d where
  dated := by
    intro old count dated
    unfold Dated
    rw [epoch, decisions]
    exact dated
  due := by
    intro old count due
    unfold Due
    rw [epoch, decisions]
    exact due.imp_right fun current => ⟨current.1, current.2.1, current.2.2 ∘ idle⟩

theorem Secluded.keeps (secluded : Secluded s t) : Keeps s t c c :=
  .of_idle secluded.epoch rfl secluded.idle

theorem Notice.keep {chores : List Chore} (notice : Notice s c chores) (keeps : Keeps s t c d)
    (reading : d.reading = c.reading) (signals : ∀ signal ∈ t.signals, signal ∈ s.signals) :
    Notice t d chores := by
  cases notice with
  | none => exact .none
  | ended code => exact .ended code
  | read code epoch dated newest =>
    refine .read code epoch ?_ fun signal member => newest signal (signals signal member)
    rw [reading]
    exact keeps.dated _ _ dated
  | requested epoch due newest =>
    refine .requested epoch ?_ fun signal member => newest signal (signals signal member)
    rw [reading]
    exact keeps.due _ _ due

theorem Chronicled.follow (chronicled : Chronicled s c) (keeps : Keeps s t c d)
    (cycle : d.cycle = c.cycle)
    (same : ∀ epoch, t.supervisor.expected? = some epoch → s.supervisor.expected? = some epoch)
    (epoch : Nat) (engaged : t.supervisor.expected? = some epoch) : Due t d epoch d.cycle := by
  rw [cycle]
  exact keeps.due _ _ (chronicled.expected epoch (same epoch engaged))

theorem Chronicled.keep (chronicled : Chronicled s c) (keeps : Keeps s t c d)
    (halted : t.consumer.halted = true → t.consumer.chores = [])
    (notice : Notice t d (t.consumer.chores.filter Chore.isNotice))
    (signals : t.signals = s.signals) (recorded : d.signals = c.signals)
    (expected : ∀ epoch, t.supervisor.expected? = some epoch → Due t d epoch d.cycle) :
    Chronicled t d where
  halted := halted
  notice := notice
  signals := by
    rw [signals, recorded]
    exact chronicled.signals.imp keeps.due
  ascending := by
    rw [signals]
    exact chronicled.ascending
  expected := expected

theorem Chronicled.aside (chronicled : Chronicled s c) (keeps : Keeps s t c d)
    (consumer : t.consumer = s.consumer) (reading : d.reading = c.reading)
    (signals : t.signals = s.signals) (recorded : d.signals = c.signals)
    (expected : ∀ epoch, t.supervisor.expected? = some epoch → Due t d epoch d.cycle) :
    Chronicled t d := by
  refine chronicled.keep keeps ?_ ?_ signals recorded expected
  · rw [consumer]
    exact chronicled.halted
  · rw [consumer]
    refine chronicled.notice.keep keeps reading fun signal member => ?_
    rwa [signals] at member

theorem Chronicled.plain (chronicled : Chronicled s c) (secluded : Secluded s t)
    (consumer : t.consumer = s.consumer) : Chronicled t c := by
  have keeps := secluded.keeps (c := c)
  refine chronicled.aside keeps consumer rfl secluded.signals rfl (chronicled.follow keeps rfl ?_)
  rw [secluded.supervisor]
  exact fun _ engaged => engaged

theorem Chronicled.decided (chronicled : Chronicled s c) (epoch : t.epoch = s.epoch + 1)
    (signals : t.signals = s.signals) (supervisor : t.supervisor = s.supervisor)
    (consumer : t.consumer = s.consumer) : Chronicled t (c.after .decides) := by
  have keeps : Keeps s t c (c.after .decides) := .of_epoch epoch
  refine chronicled.aside keeps consumer rfl signals rfl (chronicled.follow keeps rfl ?_)
  rw [supervisor]
  exact fun _ engaged => engaged

/-! ### The supervisor -/

theorem newest_last {R : Nat → Nat → Prop} {first : Nat} {rest recorded : List Nat}
    (ascending : (first :: rest).Pairwise (· ≤ ·)) (related : List.Forall₂ R (first :: rest) recorded)
    (old : Nat) : R (rest.foldl max first) (recorded.getLast?.getD old) := by
  induction rest generalizing first recorded with
  | nil =>
    obtain ⟨count, others, here, nothing, rfl⟩ := List.forall₂_cons_left_iff.mp related
    rw [List.forall₂_nil_left_iff.mp nothing]
    exact here
  | cons second rest ih =>
    obtain ⟨count, others, -, later, rfl⟩ := List.forall₂_cons_left_iff.mp related
    obtain ⟨next, last, -, -, rfl⟩ := List.forall₂_cons_left_iff.mp later
    obtain ⟨below, after⟩ := List.pairwise_cons.mp ascending
    have higher : max first second = second := max_eq_right (below second List.mem_cons_self)
    rw [List.foldl_cons, higher, List.getLast?_cons_cons]
    exact ih after later

theorem Chronicled.supervise (chronicled : Chronicled s c)
    (others : (⟨.supervise now, engine⟩ : Move).isConsumers = false) :
    Chronicled (s.supervise engine now)
      (c.after (deed (.move ⟨.supervise now, engine⟩ others) s)) := by
  have after : s.after ⟨.supervise now, engine⟩ = s.supervise engine now := rfl
  have doing : deed (.move ⟨.supervise now, engine⟩ others) s =
      if asks ⟨.supervise now, engine⟩ s then .attempts
      else if (s.supervise engine now).signals = s.signals then .plain else .collects := rfl
  have supervised : Supervised engine s (s.supervise engine now) := supervise_supervised s
  generalize s.supervise engine now = t at after doing supervised ⊢
  have resting (effects : t.effects = s.effects) (signals : t.signals = s.signals) :
      deed (.move ⟨.supervise now, engine⟩ others) s = .plain := by
    rw [doing, asks_of_same after effects, if_pos signals]
    rfl
  -- An attempt begins a new epoch, and what the supervisor expects next is that epoch.
  have attempting (asked : asks ⟨.supervise now, engine⟩ s = true)
      (phase : t.phase = .connecting) (epoch : t.epoch = s.epoch + 1)
      (consumer : t.consumer = s.consumer) (signals : t.signals = s.signals)
      (expected : ∀ epoch, t.supervisor.expected? = some epoch → epoch = s.epoch + 1) :
      Chronicled t (c.after (deed (.move ⟨.supervise now, engine⟩ others) s)) := by
    rw [doing, if_pos asked]
    refine chronicled.aside (.of_epoch epoch) consumer rfl signals rfl fun next engaged => ?_
    refine .inr ⟨(expected next engaged).trans epoch.symm, rfl, ?_⟩
    simp [phase]
  cases supervised with
  | rested =>
    rw [resting rfl rfl]
    exact chronicled.plain (.refl s) rfl
  | moved expected supervisor backoff engaged same =>
    rw [resting rfl rfl]
    have keeps : Keeps s { s with supervisor, backoff } c c := .of_idle rfl rfl id
    refine chronicled.aside keeps rfl rfl rfl rfl (chronicled.follow keeps rfl fun epoch here => ?_)
    exact (engaged.trans same.symm).trans here
  | stopped interrupted =>
    rw [resting rfl rfl]
    refine chronicled.aside (.of_idle rfl rfl id) rfl rfl rfl rfl fun epoch none => ?_
    exact absurd none.symm (Option.some_ne_none epoch)
  | released expected engaged stale =>
    rw [resting rfl rfl]
    refine chronicled.aside (.of_idle rfl rfl id) rfl rfl rfl rfl fun epoch none => ?_
    exact absurd none.symm (Option.some_ne_none epoch)
  | collected first rest idle scheduled =>
    have taken : ¬([] : List Nat) = s.signals := by simp [scheduled]
    rw [doing, asks_of_same after rfl, if_neg Bool.false_ne_true, if_neg taken]
    have keeps : Keeps s { s with supervisor := .engaged (rest.foldl max first), signals := [] } c
        (c.after .collects) := .of_idle rfl rfl id
    have signals := chronicled.signals
    have ascending := chronicled.ascending
    rw [scheduled] at signals ascending
    refine ⟨chronicled.halted, ?_, .nil, .nil, ?_⟩
    · exact chronicled.notice.keep keeps rfl fun _ none => absurd none List.not_mem_nil
    · intro epoch engaged
      rw [← Option.some.inj engaged]
      exact keeps.due _ _ (newest_last ascending signals c.cycle)
  | connected slept number current opened taken =>
    refine attempting (asks_of_append (congrArg effects after)) rfl rfl rfl rfl fun epoch none => ?_
    exact absurd none.symm (Option.some_ne_none epoch)
  | refused slept cause current opened answer =>
    refine attempting (asks_of_append (congrArg effects after)) rfl rfl rfl rfl fun epoch here => ?_
    exact (Option.some.inj here).symm

theorem Chronicled.move (chronicled : Chronicled s c) (m : Move) (others : m.isConsumers = false) :
    Chronicled (s.after m) (c.after (deed (.move m others) s)) := by
  obtain ⟨step, engine⟩ := m
  cases step with
  | connect caller =>
    have doing : deed (.move ⟨.connect caller, engine⟩ others) s =
        if s.phase.acceptsConnect then .decides else .plain := rfl
    change Chronicled (s.connect engine caller).2 _
    rw [doing, connect_eq]
    by_cases free : s.phase.acceptsConnect = true
    · simp only [free, ↓reduceIte]
      split <;> exact chronicled.decided rfl rfl rfl rfl
    · simp only [free, Bool.false_eq_true, ↓reduceIte]
      exact chronicled
  | disconnect caller =>
    change Chronicled (s.disconnect engine caller).2 (c.after .decides)
    rw [disconnect_eq]
    simp only
    split
    · split <;> exact chronicled.decided rfl rfl rfl rfl
    · exact chronicled.decided rfl rfl rfl rfl
  | request request caller =>
    have routed : Routed engine _ _ s (s.route engine request caller) := route_routed request caller s
    change Chronicled (s.route engine request caller).2 c
    generalize s.route engine request caller = result at routed ⊢
    cases routed <;> exact chronicled.plain (.of_phase rfl rfl rfl rfl) rfl
  | adjust adjustment =>
    obtain ⟨settings, hooks, backoff, adjusted⟩ := adjust_eq adjustment s
    change Chronicled (s.adjust adjustment) c
    rw [adjusted]
    exact chronicled.plain (.of_phase rfl rfl rfl rfl) rfl
  | configureQueue capacity policy => exact chronicled.plain (.of_phase rfl rfl rfl rfl) rfl
  | report report => exact chronicled.plain (.of_phase rfl rfl rfl rfl) rfl
  | expire timer => exact chronicled.plain (.of_phase rfl rfl rfl rfl) rfl
  | supervise now => exact chronicled.supervise others
  | dispatch now => exact absurd others.symm Bool.false_ne_true
  | tick now => exact absurd others.symm Bool.false_ne_true

/-! ### The consumer -/

theorem perform_notices (chore : Chore) (plain : chore.isNotice = false) (s : Session) :
    (perform engine now chore s).1.filter Chore.isNotice = [] := by
  cases chore with
  | readEpoch code => exact absurd plain.symm Bool.false_ne_true
  | leave code epoch => exact absurd plain.symm Bool.false_ne_true
  | requestReconnect epoch => exact absurd plain.symm Bool.false_ne_true
  | refuse =>
    simp only [perform, refuse]
    split <;> rfl
  | checkDue =>
    simp only [perform]
    split <;> rfl
  | pace =>
    simp only [perform, pace]
    split
    · split <;> rfl
    · rfl
  | _ => rfl

theorem leave_notices (code : UInt8) (epoch : Nat) (s : Session) :
    (s.leave code epoch).1.filter Chore.isNotice = [] ∨
      (s.leave code epoch).1.filter Chore.isNotice = [.requestReconnect epoch] ∧ s.phase ≠ .idle := by
  have same : (s.goOffline.withRecovery none).phase = s.phase := by
    rw [goOffline_eq]
    rfl
  simp only [leave, same]
  cases s.phase with
  | userDisconnect | idle => exact .inl rfl
  | _ => exact .inr ⟨rfl, Phase.noConfusion⟩

theorem event_notices (e : Event) (s : Session) (c : Chronicle) :
    Notice s c ((e.chores ++ [Chore.checkDue]).filter Chore.isNotice) := by
  unfold Event.chores
  cases e.kind with
  | disconnect code => exact .ended code
  | connack code =>
    simp only
    split <;> exact .none
  | _ => exact .none

theorem Chronicled.turn (chronicled : Chronicled s c) : Chronicled (s.turn now) c := by
  unfold Session.turn
  split
  · exact chronicled
  next free =>
    have running : s.consumer.halted = false := by
      refine Bool.eq_false_of_not_eq_true fun halted => free ?_
      rw [halted, Bool.true_or]
    -- A turn only gives the consumer chores.
    have given (events : EventQueue) (chores : List Chore)
        (notice : Notice s c (chores.filter Chore.isNotice)) :
        Chronicled { s with events, consumer := { s.consumer with chores } } c := by
      have keeps : Keeps s { s with events, consumer := { s.consumer with chores } } c c :=
        .of_idle rfl rfl id
      refine chronicled.keep keeps (fun halted => ?_) (notice.keep keeps rfl fun _ => id) rfl rfl
        (chronicled.follow keeps rfl fun _ => id)
      exact absurd (running.symm.trans halted) Bool.false_ne_true
    split
    next e events next => exact given events _ (event_notices e s c)
    · split
      · exact given s.events _ .none
      · exact chronicled
    · exact chronicled

theorem Chronicled.running {chore : Chore} {rest : List Chore} (chronicled : Chronicled s c)
    (chores : s.consumer.chores = chore :: rest) : s.consumer.halted = false := by
  refine Bool.eq_false_of_not_eq_true fun halted => ?_
  exact List.cons_ne_nil chore rest (chores.symm.trans (chronicled.halted halted))

theorem Notice.alone {chore : Chore} {others : List Chore} (notice : Notice s c (chore :: others)) :
    others = [] := by
  cases notice <;> rfl

theorem Chronicled.older (chronicled : Chronicled s c) : ∀ signal ∈ s.signals, signal ≤ s.epoch := by
  have bounded := chronicled.signals.imp fun signal count due => And.intro due.le due
  exact ((List.forall₂_and_left _ _).mp bounded).1

theorem Chronicled.left {more rest : List Chore}
    (notice : Notice s c ((more ++ rest).filter Chore.isNotice))
    (signals : List.Forall₂ (Due s c) s.signals c.signals) (ascending : s.signals.Pairwise (· ≤ ·))
    (expected : ∀ epoch, s.supervisor.expected? = some epoch → Due s c epoch c.cycle) :
    Chronicled (s.withChores (if s.consumer.halted then [] else more ++ rest)) c := by
  refine ⟨fun halted => if_pos halted, ?_, signals, ascending, expected⟩
  change Notice _ c ((if s.consumer.halted then [] else more ++ rest).filter Chore.isNotice)
  split
  · exact .none
  · exact notice.keep (.of_idle rfl rfl id) rfl fun _ => id

theorem Chronicled.performed {more rest : List Chore} (chronicled : Chronicled s c)
    (secluded : Secluded s t) (notice : Notice t c ((more ++ rest).filter Chore.isNotice)) :
    Chronicled (t.withChores (if t.consumer.halted then [] else more ++ rest)) c := by
  have keeps := secluded.keeps (c := c)
  refine .left notice ?_ ?_ (chronicled.follow keeps rfl ?_)
  · rw [secluded.signals]
    exact chronicled.signals.imp keeps.due
  · rw [secluded.signals]
    exact chronicled.ascending
  · rw [secluded.supervisor]
    exact fun _ => id

section

variable {rest : List Chore}

theorem Chronicled.read {code : UInt8} (chronicled : Chronicled s c)
    (chores : s.consumer.chores = .readEpoch code :: rest) :
    Chronicled (s.withChores (if s.consumer.halted then [] else [.leave code s.epoch] ++ rest))
      (c.after .reads) := by
  have notice := chronicled.notice
  rw [chores] at notice
  have none : rest.filter Chore.isNotice = [] := notice.alone
  refine .left ?_ chronicled.signals chronicled.ascending chronicled.expected
  change Notice s (c.after .reads) (.leave code s.epoch :: rest.filter Chore.isNotice)
  rw [none]
  exact .read code s.epoch (.inr ⟨rfl, rfl⟩) chronicled.older

theorem Chronicled.requested {epoch : Nat} (chronicled : Chronicled s c)
    (chores : s.consumer.chores = .requestReconnect epoch :: rest) :
    Chronicled
      ({ s with signals := s.signals ++ [epoch] }.withChores
        (if s.consumer.halted then [] else [] ++ rest)) (c.after .requests) := by
  have notice := chronicled.notice
  rw [chores] at notice
  change Notice s c (.requestReconnect epoch :: rest.filter Chore.isNotice) at notice
  have none : rest.filter Chore.isNotice = [] := notice.alone
  rw [none] at notice
  cases notice with
  | requested epoch due newest =>
    refine .left (s := { s with signals := s.signals ++ [epoch] }) ?_
      (List.rel_append chronicled.signals (.cons due .nil)) ?_ chronicled.expected
    · change Notice _ _ (rest.filter Chore.isNotice)
      rw [none]
      exact .none
    · refine List.pairwise_append.mpr ⟨chronicled.ascending, List.pairwise_singleton _ _, ?_⟩
      intro signal member other last
      rw [List.mem_singleton.mp last]
      exact newest signal member

/-- The consumer looks at the phase after it has read the epoch, and whatever has come in between
shows in one of them. -/
theorem Chronicled.leaves {code : UInt8} {epoch : Nat} (chronicled : Chronicled s c)
    (chores : s.consumer.chores = .leave code epoch :: rest) :
    Chronicled
      ((s.leave code epoch).2.withChores
        (if (s.leave code epoch).2.consumer.halted then [] else (s.leave code epoch).1 ++ rest)) c := by
  have secluded : Secluded s (s.leave code epoch).2 := (Confined.leave code epoch s).toSecluded
  have notice := chronicled.notice
  rw [chores] at notice
  change Notice s c (.leave code epoch :: rest.filter Chore.isNotice) at notice
  have none : rest.filter Chore.isNotice = [] := notice.alone
  rw [none] at notice
  refine chronicled.performed secluded ?_
  rw [List.filter_append, none, List.append_nil]
  rcases leave_notices code epoch s with dropped | ⟨requested, wanted⟩
  · rw [dropped]
    exact .none
  · rw [requested]
    cases notice with
    | read code epoch dated newest =>
      refine .requested epoch ?_ ?_
      · unfold Due
        rw [secluded.epoch]
        exact dated.imp_right fun current => ⟨current.1, current.2, wanted ∘ secluded.idle⟩
      · rw [secluded.signals]
        exact newest

theorem Chronicled.refuses (chronicled : Chronicled s c)
    (chores : s.consumer.chores = .refuse :: rest) :
    Chronicled
      (s.refuse.2.withChores (if s.refuse.2.consumer.halted then [] else s.refuse.1 ++ rest))
      (c.after (if s.phase = .connecting then .decides else .plain)) := by
  have notice : Notice s c (rest.filter Chore.isNotice) := by
    have here := chronicled.notice
    rwa [chores] at here
  by_cases connecting : s.phase = .connecting
  · have refused : s.refuse = ([.stopTimer, .stopIo],
        { (s.withRecovery none).writePhase .idle with epoch := s.epoch + 1 }) := by
      simp only [refuse, withRecovery, connecting, ↓reduceIte]
    rw [refused, if_pos connecting]
    have keeps : Keeps s { (s.withRecovery none).writePhase .idle with epoch := s.epoch + 1 } c
        (c.after .decides) := .of_epoch rfl
    exact .left (notice.keep keeps rfl fun _ => id) (chronicled.signals.imp keeps.due)
      chronicled.ascending (chronicled.follow keeps rfl fun _ => id)
  · have gone : s.refuse = ([], s.withRecovery none) := by
      simp only [refuse, withRecovery, connecting, ↓reduceIte]
    rw [gone, if_neg connecting]
    have secluded : Secluded s (s.withRecovery none) := .of_phase rfl rfl rfl rfl
    exact chronicled.performed secluded (notice.keep secluded.keeps rfl fun _ => id)

theorem Chronicled.does {chore : Chore} (chronicled : Chronicled s c)
    (chores : s.consumer.chores = chore :: rest) (quiet : chore.isNotice = false)
    (unrefused : chore ≠ .refuse) :
    Chronicled
      ((perform engine now chore s).2.withChores
        (if (perform engine now chore s).2.consumer.halted then []
        else (perform engine now chore s).1 ++ rest)) c := by
  have secluded : Secluded s (perform engine now chore s).2 := by
    refine perform_secluded chore s unrefused ?_
    rintro epoch rfl
    exact absurd quiet.symm Bool.false_ne_true
  have notice := chronicled.notice
  rw [chores, List.filter_cons_of_neg (ne_true_of_eq_false quiet)] at notice
  refine chronicled.performed secluded ?_
  rw [List.filter_append, perform_notices chore quiet s, List.nil_append]
  refine notice.keep secluded.keeps rfl ?_
  rw [secluded.signals]
  exact fun _ => id

theorem Chronicled.work (chronicled : Chronicled s c) :
    Chronicled (s.work engine now) (c.after (deed (.work engine now) s)) := by
  cases chores : s.consumer.chores with
  | nil =>
    have doing : deed (.work engine now) s = .plain := by simp only [deed, chores]
    rw [work_idle chores, doing]
    exact chronicled
  | cons chore rest =>
    rw [work_eq chores (chronicled.running chores)]
    simp only [deed, chores]
    cases chore with
    | readEpoch code => exact chronicled.read chores
    | requestReconnect epoch => exact chronicled.requested chores
    | leave code epoch => exact chronicled.leaves chores
    | refuse => exact chronicled.refuses chores
    | _ => exact chronicled.does chores rfl Chore.noConfusion

end

/-! ### Runs -/

theorem Chronicled.act (chronicled : Chronicled s c) (a : Act) :
    Chronicled (s.act a) (c.after (deed a s)) := by
  cases a with
  | move m others => exact chronicled.move m others
  | turn now => exact chronicled.turn
  | work engine now => exact chronicled.work

theorem Chronicled.run (chronicled : Chronicled s c) (acts : List Act) :
    Chronicled (acted acts s) (chronicle acts s c) := by
  induction acts generalizing s c with
  | nil => exact chronicled
  | cons a rest ih => exact ih (chronicled.act a)

/-! ### Closed sessions -/

theorem perform_closed (closed : s.phase = .userDisconnect) (chore : Chore) :
    (perform engine now chore s).2.phase = .userDisconnect := by
  have away : s.phase ≠ .connecting := by simp [closed]
  cases chore with
  | refuse =>
    simp only [perform, refuse, withRecovery, away, ↓reduceIte]
    exact closed
  | requestReconnect epoch => exact closed
  | _ => exact (perform_secluded _ s Chore.noConfusion fun _ => Chore.noConfusion).closed closed

theorem Chronicled.work_closed (chronicled : Chronicled s c) (closed : s.phase = .userDisconnect) :
    (s.work engine now).phase = .userDisconnect := by
  cases chores : s.consumer.chores with
  | nil =>
    rwa [work_idle chores]
  | cons chore rest =>
    rw [work_eq chores (chronicled.running chores)]
    exact perform_closed closed chore

/-- What an act owes to the decisions that have been made. -/
structure Respects (a : Act) (s : Session) (c : Chronicle) : Prop where
  /-- The supervisor connects only if nothing was decided since the reading that the newest of the
  reconnects it took up carries, or since its own last attempt. -/
  current : deed a s = .attempts → c.cycle = c.decisions
  wanted : deed a s = .attempts → s.phase ≠ .idle ∧ s.phase ≠ .userDisconnect
  /-- A session that the application has closed is opened again only by the application. -/
  closed : s.phase = .userDisconnect → (s.act a).phase = .userDisconnect ∨
    ∃ caller engine others, a = .move ⟨.connect caller, engine⟩ others

theorem asks_of_attempts {a : Act} (attempts : deed a s = .attempts) :
    ∃ now engine, asks ⟨.supervise now, engine⟩ s = true := by
  cases a with
  | turn now => exact absurd attempts Deed.noConfusion
  | work engine now =>
    simp only [deed] at attempts
    split at attempts
    · exact absurd attempts Deed.noConfusion
    · exact absurd attempts Deed.noConfusion
    · split at attempts <;> exact absurd attempts Deed.noConfusion
    · exact absurd attempts Deed.noConfusion
  | move m others =>
    obtain ⟨step, engine⟩ := m
    cases step with
    | supervise now =>
      refine ⟨now, engine, ?_⟩
      by_contra unasked
      simp only [deed, if_neg unasked] at attempts
      split at attempts <;> exact absurd attempts Deed.noConfusion
    | connect caller =>
      simp only [deed] at attempts
      split at attempts <;> exact absurd attempts Deed.noConfusion
    | _ => exact absurd attempts Deed.noConfusion

theorem Chronicled.due {a : Act} (chronicled : Chronicled s c) (attempts : deed a s = .attempts) :
    c.cycle = c.decisions ∧ s.phase ≠ .idle ∧ s.phase ≠ .userDisconnect := by
  obtain ⟨now, engine, asked⟩ := asks_of_attempts attempts
  obtain ⟨current, opened⟩ := current_of_asks asked
  rcases chronicled.expected s.epoch current with older | ⟨-, known, wanted⟩
  · exact absurd older (Nat.lt_irrefl _)
  · exact ⟨known, wanted, opened⟩

/-- In whatever order the sides act, the supervisor connects only as long as no decision has
overtaken its reconnect, and no session is connected that is not wanted. -/
theorem decisions_respected (settings : Settings) (acts : List Act) (a : Act) :
    Respects a (acted acts (start settings)) (chronicle acts (start settings) {}) := by
  have chronicled := (Chronicled.start settings).run acts
  refine ⟨fun attempts => (chronicled.due attempts).1,
    fun attempts => (chronicled.due attempts).2, fun closed => ?_⟩
  cases a with
  | turn now => exact .inl ((turn_confined _).closed closed)
  | work engine now => exact .inl (chronicled.work_closed closed)
  | move m others =>
    obtain ⟨step, engine⟩ := m
    cases rephased ⟨step, engine⟩ others _ with
    | same phase => exact .inl (phase.trans closed)
    | attempts now step opened phase => exact absurd closed opened
    | closes caller step phase => exact .inl phase
    | connects caller connects phase =>
      obtain rfl : step = .connect caller := connects
      exact .inr ⟨caller, engine, others, rfl⟩

/-- A connection ends before it is accepted, and the consumer has looked at the phase. -/
def endNoticed : List Act :=
  [.move ⟨.connect (.notified none), numbering 1⟩ rfl,
   .move ⟨.report (.disconnect 1), numbering 1⟩ rfl,
   .turn 0, .work (numbering 1) 0, .work (numbering 1) 0]

/-- The consumer asks for a reconnect, which the supervisor takes up and sleeps over. -/
def reconnectFollowed : List Act :=
  [.work (numbering 1) 0, .work (numbering 1) 0, .move ⟨.supervise 0, numbering 1⟩ rfl,
   .move ⟨.supervise 0, numbering 1⟩ rfl, .move ⟨.supervise 0, numbering 1⟩ rfl,
   .move ⟨.supervise 1000000000, numbering 1⟩ rfl]

def deedAfter (meanwhile : List Act) : Deed :=
  deed (.move ⟨.supervise 1000000000, numbering 1⟩ rfl)
    (acted (endNoticed ++ meanwhile ++ reconnectFollowed) (start .standard))

/-- The supervisor connects, unless the application has opened another session meanwhile. -/
example :
    deedAfter [] = .attempts ∧
      deedAfter [.move ⟨.disconnect (.notified none), numbering 1⟩ rfl,
        .move ⟨.connect (.notified none), numbering 1⟩ rfl] = .plain := by
  decide +kernel

end Session

end DurableMqtt
