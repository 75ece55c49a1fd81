import DurableMqtt.Proofs.Run.ConnectAnswer
import DurableMqtt.Proofs.Run.Interleaving
import DurableMqtt.Proofs.Run.Routine

/-!
What the teardown of one connection does to the next.

The consumer answers the caller of a disconnect before it stops the engine and clears the table, and
it leaves the phase of a refused attempt before it stops the engine. An application that connects in
between has its connection taken down by the chores that are left, unless nothing of the kind is left
when its connect returns.
-/

namespace DurableMqtt

def Effect.isStop (e : Effect) : Bool := e matches .stoppedIo

namespace Chore

def isStop (chore : Chore) : Bool := chore matches .stopIo

/-- Whether a chore ends the network session, or is about to. -/
def endsSession : Chore → Bool
  | stopIo | refuse => true
  | _ => false

def takesConnect : Chore → Bool
  | clearPending | answer .connect _ | acknowledge .connect _ => true
  | _ => false

/-- Whether a chore goes by the phase, or leads to one that does. -/
def isDecision : Chore → Bool
  | refuse | readEpoch _ | leave .. => true
  | _ => false

def concerns (chore : Chore) : Bool :=
  chore.endsSession || chore.takesConnect || chore.isDecision

def isPlain : Chore → Bool
  | answer .. | stopTimer | stopIo | clearPending => true
  | _ => false

theorem apart_of_isDecision {chore : Chore} (decision : chore.isDecision = true) :
    chore.isPlain = false ∧ chore.takesConnect = false ∧ chore ≠ .stopIo := by
  cases chore with
  | refuse => exact ⟨rfl, rfl, Chore.noConfusion⟩
  | readEpoch code => exact ⟨rfl, rfl, Chore.noConfusion⟩
  | leave code epoch => exact ⟨rfl, rfl, Chore.noConfusion⟩
  | _ => exact absurd decision Bool.false_ne_true

theorem endsSession_of_settled {chore : Chore} (settled : chore.isDecision = false) :
    chore.endsSession = chore.isStop := by
  cases chore with
  | refuse => exact absurd settled.symm Bool.false_ne_true
  | _ => rfl

end Chore

namespace Session

def Unconcerned (chores : List Chore) : Prop := ∀ chore ∈ chores, chore.concerns = false

/-- Only chores that lead to no other come before one that is about a connection. -/
def Orderly : List Chore → Prop
  | [] => True
  | chore :: rest => (chore.isPlain = false → Unconcerned rest) ∧ Orderly rest

def Current (s : Session) : Prop :=
  s.phase = .connecting ∨ ∀ chore ∈ s.consumer.chores, chore.isDecision = false

/-- Whether an act connects or disconnects, or takes up another event. -/
def disturbs (a : Act) (s : Session) : Bool :=
  match a with
  | .move m _ => isConnection m || asks m s
  | .turn _ => true
  | .work .. => false

def undisturbed : List Act → Session → Bool
  | [], _ => true
  | a :: rest, s => !disturbs a s && undisturbed rest (s.act a)

variable {s t u : Session} {engine : Engine} {now : Instant} {chore : Chore} {rest : List Chore}

/-! ### What leaves a connection alone -/

theorem any_isStop_of_routine {effects : List Effect} (routine : ∀ e ∈ effects, e.isRoutine = true) :
    effects.any Effect.isStop = false := by
  apply List.any_eq_false.mpr
  intro e member stop
  have plain := routine e member
  cases e with
  | stoppedIo => exact absurd plain Bool.false_ne_true
  | _ => exact absurd stop Bool.false_ne_true

theorem any_isStop_of_hooks {effects : List Effect} (hooks : ∀ e ∈ effects, e.isHook) :
    effects.any Effect.isStop = false := by
  apply List.any_eq_false.mpr
  intro e member stop
  have hook := hooks e member
  cases e with
  | stoppedIo => exact absurd hook Bool.false_ne_true
  | _ => exact absurd stop Bool.false_ne_true

structure Gentle (s t : Session) : Prop where
  effects : ∃ effects, t.effects = s.effects ++ effects ∧ effects.any Effect.isStop = false
  entry : t.pending.find? .connect = s.pending.find? .connect

namespace Gentle

theorem of_append (effects : List Effect) (appended : t.effects = s.effects ++ effects)
    (plain : effects.any Effect.isStop = false)
    (entry : t.pending.find? .connect = s.pending.find? .connect) : Gentle s t :=
  ⟨⟨effects, appended, plain⟩, entry⟩

theorem of_same (effects : t.effects = s.effects)
    (entry : t.pending.find? .connect = s.pending.find? .connect) : Gentle s t :=
  of_append [] (effects.trans (List.append_nil _).symm) rfl entry

theorem refl (s : Session) : Gentle s s := of_same rfl rfl

theorem trans (first : Gentle s t) (second : Gentle t u) : Gentle s u := by
  obtain ⟨early, there, plain⟩ := first.effects
  obtain ⟨late, here, plain'⟩ := second.effects
  refine of_append (early ++ late) ?_ ?_ (second.entry.trans first.entry)
  · rw [here, there, List.append_assoc]
  · rw [List.any_append, plain, plain', Bool.or_false]

theorem of_routine (routine : Routine s t) : Gentle s t := by
  obtain ⟨effects, appended, plain⟩ := routine.effects
  exact of_append effects appended (any_isStop_of_routine plain) (routine.entry _ fun _ => rfl)

theorem erase {id : RequestId} (other : id ≠ .connect) (s : Session) :
    Gentle s { s with pending := s.pending.erase id } :=
  of_same rfl (PendingTable.find?_erase_of_ne other.symm)

theorem welcome (s : Session) : Gentle s (s.welcome now) := by
  rw [welcome_eq]
  split
  · exact of_append _ rfl (any_isStop_of_hooks (hooked_isHook _ _ fun _ => rfl)) rfl
  · exact of_same rfl rfl

theorem leave (code : UInt8) (epoch : Nat) (s : Session) : Gentle s (s.leave code epoch).2 := by
  have leaving := any_isStop_of_hooks s.farewell_isHook
  simp only [Session.leave, goOffline_eq, withRecovery]
  split <;> exact of_append _ rfl leaving rfl

end Gentle

theorem perform_gentle (chore : Chore) (spares : chore.takesConnect = false)
    (other : chore ≠ .stopIo) (s : Session) : Gentle s (perform engine now chore s).2 := by
  cases chore with
  | answer id ack =>
    have apart : id ≠ .connect := by
      rintro rfl
      exact absurd spares.symm Bool.false_ne_true
    exact (Gentle.erase apart s).trans (.of_routine (.answer id ack s))
  | acknowledge id ack =>
    have apart : id ≠ .connect := by
      rintro rfl
      exact absurd spares.symm Bool.false_ne_true
    exact (Gentle.erase apart s).trans (.of_routine (.acknowledge id ack s))
  | welcome => exact .welcome s
  | refuse =>
    simp only [perform, refuse]
    split <;> exact .of_same rfl rfl
  | readEpoch code => exact .refl s
  | leave code epoch => exact .leave code epoch s
  | loseSession => exact .of_routine (.loseSession s)
  | stopTimer => exact .of_same rfl rfl
  | stopIo => exact absurd rfl other
  | clearPending => exact absurd spares.symm Bool.false_ne_true
  | requestReconnect epoch => exact .of_same rfl rfl
  | deliver m => exact .of_routine (.deliver m s)
  | checkDue => exact .refl s
  | pace => exact .of_routine (.pace s)
  | resubscribeOne interval => exact .of_routine (.resubscribeOne interval s)
  | drainOne interval => exact .of_routine (.drainOne interval s)

theorem taken_of_routine (routine : Routine { s with pending := s.pending.erase .connect } t) :
    (∃ effects, t.effects = s.effects ++ effects ∧ effects.any Effect.isStop = false) ∧
      t.pending.find? .connect = none := by
  have gentle : Gentle { s with pending := s.pending.erase .connect } t := .of_routine routine
  have erased : (s.pending.erase .connect).find? .connect = none := PendingTable.find?_erase_self
  exact ⟨gentle.effects, gentle.entry.trans erased⟩

theorem perform_connection (engine : Engine) (now : Instant) (chore : Chore) (s : Session) :
    (∃ effects, (perform engine now chore s).2.effects = s.effects ++ effects ∧
      effects.any Effect.isStop = chore.isStop) ∧
    (perform engine now chore s).2.pending.find? .connect =
      if chore.takesConnect then none else s.pending.find? .connect := by
  cases takes : chore.takesConnect with
  | false =>
    by_cases stops : chore = .stopIo
    · subst stops
      exact ⟨⟨[.stoppedIo], rfl, rfl⟩, rfl⟩
    · have spared : Gentle s (perform engine now chore s).2 := perform_gentle chore takes stops s
      obtain ⟨⟨effects, appended, none⟩, entry⟩ := spared
      have unstopping : chore.isStop = false := by
        cases chore with
        | stopIo => exact absurd rfl stops
        | _ => rfl
      exact ⟨⟨effects, appended, none.trans unstopping.symm⟩, entry⟩
  | true =>
    unfold Chore.takesConnect at takes
    split at takes
    next => exact ⟨⟨[], (List.append_nil _).symm, rfl⟩, rfl⟩
    next ack => exact taken_of_routine (.answer .connect ack s)
    next ack => exact taken_of_routine (.acknowledge .connect ack s)
    next => exact absurd takes Bool.false_ne_true

theorem after_gentle {m : Move} (others : m.isConsumers = false) (alone : isConnection m = false)
    (unasked : asks m s = false) : Gentle s (s.after m) := by
  obtain ⟨step, engine⟩ := m
  cases step with
  | connect caller => exact absurd alone.symm Bool.false_ne_true
  | disconnect caller => exact absurd alone.symm Bool.false_ne_true
  | dispatch now => exact absurd others.symm Bool.false_ne_true
  | tick now => exact absurd others.symm Bool.false_ne_true
  | request request caller => exact .of_routine (.route request caller s)
  | adjust adjustment =>
    obtain ⟨settings, hooks, backoff, adjusted⟩ := adjust_eq adjustment s
    show Gentle s (s.adjust adjustment)
    rw [adjusted]
    exact .of_same rfl rfl
  | supervise now =>
    have after : s.after ⟨.supervise now, engine⟩ = s.supervise engine now := rfl
    have supervised : Supervised engine s (s.supervise engine now) := supervise_supervised s
    show Gentle s (s.supervise engine now)
    generalize s.supervise engine now = t at after supervised ⊢
    cases supervised with
    | connected slept number attempting opened taken =>
      rw [asks_of_append (congrArg Session.effects after)] at unasked
      exact absurd unasked.symm Bool.false_ne_true
    | refused slept cause attempting opened answer => exact .of_append _ rfl rfl rfl
    | _ => exact .of_same rfl rfl
  | configureQueue capacity policy => exact .of_same rfl rfl
  | report report => exact .of_same rfl rfl
  | expire timer => exact .of_same rfl rfl

/-! ### What is left of a handling -/

theorem Unconcerned.nil : Unconcerned [] := fun _ member => absurd member List.not_mem_nil

theorem Unconcerned.cons (free : chore.concerns = false) (others : Unconcerned rest) :
    Unconcerned (chore :: rest) := by
  intro other member
  rcases List.mem_cons.mp member with rfl | later
  · exact free
  · exact others other later

theorem Unconcerned.orderly {chores : List Chore} (free : Unconcerned chores) : Orderly chores := by
  induction chores with
  | nil => trivial
  | cons chore rest ih =>
    have others : Unconcerned rest := fun other member => free other (List.mem_cons_of_mem chore member)
    exact ⟨fun _ => others, ih others⟩

theorem Orderly.plain (plain : chore.isPlain = true) (others : Orderly rest) :
    Orderly (chore :: rest) :=
  ⟨fun other => absurd (plain.symm.trans other) Bool.noConfusion, others⟩

theorem Unconcerned.append {first second : List Chore} (early : Unconcerned first)
    (late : Unconcerned second) : Unconcerned (first ++ second) :=
  fun chore member => (List.mem_append.mp member).elim (early chore) (late chore)

theorem Unconcerned.parts {chores : List Chore} (free : Unconcerned chores) :
    chores.any Chore.endsSession = false ∧ chores.any Chore.takesConnect = false ∧
      ∀ chore ∈ chores, chore.isDecision = false := by
  have part (chore : Chore) (member : chore ∈ chores) :
      (chore.endsSession = false ∧ chore.takesConnect = false) ∧ chore.isDecision = false := by
    have none := free chore member
    simpa only [Chore.concerns, Bool.or_eq_false_iff] using none
  refine ⟨?_, ?_, fun chore member => (part chore member).2⟩
  · exact List.any_eq_false.mpr fun chore member => ne_true_of_eq_false (part chore member).1.1
  · exact List.any_eq_false.mpr fun chore member => ne_true_of_eq_false (part chore member).1.2

/-- Only a decision leads to anything about a connection that has ended. -/
theorem perform_unconcerned (chore : Chore) (settled : chore.isDecision = false) (s : Session) :
    Unconcerned (perform engine now chore s).1 := by
  cases chore with
  | refuse => exact absurd settled.symm Bool.false_ne_true
  | readEpoch code => exact absurd settled.symm Bool.false_ne_true
  | leave code epoch => exact absurd settled.symm Bool.false_ne_true
  | checkDue =>
    simp only [perform]
    split
    · exact .cons rfl .nil
    · exact .nil
  | pace =>
    simp only [perform, pace]
    split
    · split
      · exact .cons rfl .nil
      · exact .cons rfl .nil
      · exact .nil
    · exact .nil
  | _ => exact .nil

theorem perform_decision (chore : Chore) (decision : chore.isDecision = true) (s : Session)
    (free : Unconcerned rest) :
    Orderly ((perform engine now chore s).1 ++ rest) ∧
      (perform engine now chore s).2.consumer.halted = s.consumer.halted := by
  cases chore with
  | refuse =>
    simp only [perform, refuse]
    split
    · exact ⟨.plain rfl (.plain rfl free.orderly), rfl⟩
    · exact ⟨free.orderly, rfl⟩
  | readEpoch code => exact ⟨⟨fun _ => free, free.orderly⟩, rfl⟩
  | leave code epoch =>
    simp only [perform, leave, goOffline_eq, withRecovery]
    split
    · exact ⟨.plain rfl (.plain rfl (.plain rfl free.orderly)), rfl⟩
    · exact ⟨free.orderly, rfl⟩
    · exact ⟨.plain rfl ⟨fun _ => free, free.orderly⟩, rfl⟩
    · exact ⟨⟨fun _ => .cons rfl (.cons rfl free), .plain rfl ⟨fun _ => free, free.orderly⟩⟩, rfl⟩
  | _ => exact absurd decision Bool.false_ne_true

theorem perform_plain (engine : Engine) (now : Instant) (chore : Chore)
    (plain : chore.isPlain = true) (s : Session) :
    (perform engine now chore s).1 = [] ∧ (perform engine now chore s).2.phase = s.phase ∧
      (perform engine now chore s).2.consumer = s.consumer := by
  cases chore with
  | answer id ack =>
    exact ⟨rfl, by simp only [perform, answer_eq], by simp only [perform, answer_eq]⟩
  | stopTimer => exact ⟨rfl, rfl, rfl⟩
  | stopIo => exact ⟨rfl, rfl, rfl⟩
  | clearPending => exact ⟨rfl, rfl, rfl⟩
  | _ => exact absurd plain Bool.false_ne_true

/-- While a connection is on its way, a decision ends it or leaves it alone. -/
theorem perform_connecting (engine : Engine) (now : Instant) (chore : Chore)
    (decision : chore.isDecision = true) (connecting : s.phase = .connecting) :
    (perform engine now chore s).1.any Chore.endsSession = chore.endsSession ∧
      (perform engine now chore s).1.any Chore.takesConnect = false ∧
      ((perform engine now chore s).2.phase = .connecting ∨
        ∀ other ∈ (perform engine now chore s).1, other.isDecision = false) := by
  cases chore with
  | refuse =>
    simp only [perform, refuse, withRecovery, connecting, ↓reduceIte]
    exact ⟨rfl, rfl, .inr (by decide)⟩
  | readEpoch code => exact ⟨rfl, rfl, .inl connecting⟩
  | leave code epoch =>
    simp only [perform, leave, goOffline_eq, withRecovery, connecting]
    exact ⟨rfl, rfl, .inl trivial⟩
  | _ => exact absurd decision Bool.false_ne_true

/-- What the consumer has left to do at any time. -/
structure Handling (s : Session) : Prop where
  halted : s.consumer.halted = true → s.consumer.chores = []
  orderly : Orderly s.consumer.chores

theorem Handling.start (settings : Settings) : Handling (start settings) := ⟨fun _ => rfl, trivial⟩

theorem Handling.running (handling : Handling s) (chores : s.consumer.chores = chore :: rest) :
    s.consumer.halted = false := by
  by_contra ended
  have none := handling.halted (eq_true_of_ne_false ended)
  rw [chores] at none
  exact absurd none (List.cons_ne_nil _ _)

theorem Event.chores_orderly (e : Event) : Orderly (e.chores ++ [.checkDue]) := by
  have last : Unconcerned [.checkDue] := .cons rfl .nil
  have only (chore : Chore) : Orderly [chore, .checkDue] := ⟨fun _ => last, last.orderly⟩
  unfold Event.chores
  cases e.kind with
  | connack code => exact .plain rfl (only _)
  | _ => exact only _

theorem Handling.turn (handling : Handling s) : Handling (s.turn now) := by
  unfold Session.turn
  by_cases busy : (s.consumer.halted || !s.consumer.chores.isEmpty) = true
  · rwa [if_pos busy]
  · have running : s.consumer.halted = false := by
      rw [Bool.or_eq_true, not_or] at busy
      exact Bool.eq_false_of_not_eq_true busy.1
    have taking (chores : List Chore) (events : EventQueue) (orderly : Orderly chores) :
        Handling { s with events, consumer := { s.consumer with chores } } :=
      ⟨fun ended => absurd (running.symm.trans ended) Bool.noConfusion, orderly⟩
    rw [if_neg busy]
    split
    next e events next => exact taking _ _ (Event.chores_orderly e)
    next =>
      split
      · exact taking _ _ (Unconcerned.cons rfl .nil).orderly
      · exact handling
    next => exact handling

theorem Handling.work (handling : Handling s) : Handling (s.work engine now) := by
  cases chores : s.consumer.chores with
  | nil =>
    rwa [work_idle chores]
  | cons chore rest =>
    obtain ⟨free, others⟩ : Orderly (chore :: rest) := by
      rw [← chores]
      exact handling.orderly
    rw [work_eq chores (handling.running chores)]
    refine ⟨fun ended => if_pos ended, ?_⟩
    change Orderly (if _ then [] else _)
    split
    · trivial
    · cases plain : chore.isPlain with
      | true =>
        rw [(perform_plain engine now chore plain s).1]
        exact others
      | false =>
        cases decision : chore.isDecision with
        | true => exact (perform_decision chore decision s (free plain)).1
        | false => exact ((perform_unconcerned chore decision s).append (free plain)).orderly

theorem Handling.act (handling : Handling s) (a : Act) : Handling (s.act a) := by
  cases a with
  | move m others =>
    have same : (s.after m).consumer = s.consumer := after_consumer m others
    constructor
    · show (s.after m).consumer.halted = true → (s.after m).consumer.chores = []
      rw [same]
      exact handling.halted
    · show Orderly (s.after m).consumer.chores
      rw [same]
      exact handling.orderly
  | turn now => exact handling.turn
  | work engine now => exact handling.work

theorem Handling.run (handling : Handling s) (acts : List Act) : Handling (acted acts s) := by
  induction acts generalizing s with
  | nil => exact handling
  | cons a rest ih => exact ih (handling.act a)

structure Sheds (rest : List Chore) (s t : Session) : Prop where
  ends : t.consumer.chores.any Chore.endsSession = rest.any Chore.endsSession
  takes : t.consumer.chores.any Chore.takesConnect = rest.any Chore.takesConnect
  current : Current s → Current t

theorem work_sheds (handling : Handling s) (chores : s.consumer.chores = chore :: rest)
    (settled : chore.isDecision = false) : Sheds rest s (s.work engine now) := by
  have running := handling.running chores
  have orderly := handling.orderly
  rw [chores] at orderly
  rw [work_eq chores running]
  cases plain : chore.isPlain with
  | true =>
    obtain ⟨last, phase, consumer⟩ := perform_plain engine now chore plain s
    rw [last, consumer, running]
    constructor
    case ends => rfl
    case takes => rfl
    case current =>
      rintro (connecting | none)
      · exact .inl (phase.trans connecting)
      · rw [chores] at none
        exact .inr fun other member => none other (List.mem_cons_of_mem chore member)
  | false =>
    have free := orderly.1 plain
    have left : Unconcerned (if (perform engine now chore s).2.consumer.halted then []
        else (perform engine now chore s).1 ++ rest) := by
      split
      · exact .nil
      · exact (perform_unconcerned chore settled s).append free
    obtain ⟨unended, untaken, undecided⟩ := left.parts
    exact ⟨unended.trans free.parts.1.symm, untaken.trans free.parts.2.1.symm,
      fun _ => .inr undecided⟩

/-! ### A connection that is opened meanwhile -/

theorem connect_entry (caller : Caller) (taken : (s.connect engine caller).1.isOk) :
    (s.connect engine caller).2.pending.find? .connect = some { responder := caller.responder } := by
  rw [connect_eq] at taken ⊢
  split at taken
  next free =>
    rw [if_pos free]
    split at taken
    · exact PendingTable.find?_insert_self _
    · exact absurd taken Bool.false_ne_true
  next => exact absurd taken Bool.false_ne_true

/-- How the connection that was opened in the first session fares until the second. -/
structure Fares (own : PendingEntry) (ends takes : Bool) (s t : Session) : Prop where
  handling : Handling t
  current : Current t
  /-- It was ended, or will be. -/
  ends : ∃ effects, t.effects = s.effects ++ effects ∧
    (effects.any Effect.isStop || t.consumer.chores.any Chore.endsSession) = ends
  entry : t.pending.find? .connect = some own ∨ t.pending.find? .connect = none
  /-- Its entry was taken, or will be. -/
  takes : ((t.pending.find? .connect).isNone || t.consumer.chores.any Chore.takesConnect) = takes

namespace Fares

variable {own : PendingEntry} {ends takes : Bool}

theorem gentle (fares : Fares own ends takes s t) (gentle : Gentle t u) (handling : Handling u)
    (current : Current u)
    (sessions : u.consumer.chores.any Chore.endsSession = t.consumer.chores.any Chore.endsSession)
    (connects : u.consumer.chores.any Chore.takesConnect = t.consumer.chores.any Chore.takesConnect) :
    Fares own ends takes s u where
  handling := handling
  current := current
  ends := by
    obtain ⟨early, there, so⟩ := fares.ends
    obtain ⟨late, here, plain⟩ := gentle.effects
    refine ⟨early ++ late, by rw [here, there, List.append_assoc], ?_⟩
    rw [List.any_append, plain, Bool.or_false, sessions, so]
  entry := by
    rw [gentle.entry]
    exact fares.entry
  takes := by rw [gentle.entry, connects, fares.takes]

theorem move (fares : Fares own ends takes s t) {m : Move} (others : m.isConsumers = false)
    (alone : isConnection m = false) (unasked : asks m t = false) :
    Fares own ends takes s (t.after m) := by
  have same : (t.after m).consumer = t.consumer := after_consumer m others
  apply fares.gentle (after_gentle others alone unasked) (fares.handling.act (.move m others)) _
    (by rw [same]) (by rw [same])
  unfold Current
  rw [same]
  apply fares.current.imp_left
  intro connecting
  cases rephased m others t with
  | same phase => exact phase.trans connecting
  | attempts now step opened phase => exact phase
  | connects caller step phase =>
    rw [isConnection, step] at alone
    exact absurd alone.symm Bool.false_ne_true
  | closes caller step phase =>
    rw [isConnection, step] at alone
    exact absurd alone.symm Bool.false_ne_true

theorem decides (fares : Fares own ends takes s t) (chores : t.consumer.chores = chore :: rest)
    (decision : chore.isDecision = true) : Fares own ends takes s (t.work engine now) := by
  obtain ⟨leading, untaking, unstopping⟩ := Chore.apart_of_isDecision decision
  have running := fares.handling.running chores
  have handling : Handling (t.work engine now) := fares.handling.work
  have connecting : t.phase = .connecting := by
    apply fares.current.resolve_right
    intro none
    have settled := none chore (by rw [chores]; exact List.mem_cons_self)
    exact absurd (decision.symm.trans settled) Bool.noConfusion
  have free : Unconcerned rest := by
    have orderly := fares.handling.orderly
    rw [chores] at orderly
    exact orderly.1 leading
  have spared : Gentle t (perform engine now chore t).2 := perform_gentle chore untaking unstopping t
  -- With a connection on its way, a decision passes on all that it is about to end, and only that.
  obtain ⟨ends, takes, current⟩ := perform_connecting engine now chore decision connecting
  rw [work_eq chores running, (perform_decision chore decision t free).2, running] at handling ⊢
  have left : Gentle t ((perform engine now chore t).2.withChores
      (if false = true then [] else (perform engine now chore t).1 ++ rest)) :=
    spared.trans (.of_same rfl rfl)
  apply fares.gentle left handling
  case current =>
    apply current.imp_right
    intro none other member
    exact (List.mem_append.mp member).elim (none other) (free.parts.2.2 other)
  case sessions =>
    show ((perform engine now chore t).1 ++ rest).any Chore.endsSession = _
    rw [List.any_append, ends, chores, List.any_cons]
  case connects =>
    show ((perform engine now chore t).1 ++ rest).any Chore.takesConnect = _
    rw [List.any_append, takes, chores, List.any_cons, untaking]

theorem does (fares : Fares own ends takes s t) (chores : t.consumer.chores = chore :: rest)
    (settled : chore.isDecision = false) : Fares own ends takes s (t.work engine now) := by
  have left : Sheds rest t (t.work engine now) := work_sheds fares.handling chores settled
  have current := left.current fares.current
  obtain ⟨sessions, connects, -⟩ := left
  obtain ⟨⟨late, here, stops⟩, entry⟩ := perform_connection engine now chore t
  have effects' : (t.work engine now).effects = t.effects ++ late := by
    rw [work_eq chores (fares.handling.running chores)]
    exact here
  have entry' : (t.work engine now).pending.find? .connect =
      if chore.takesConnect then none else t.pending.find? .connect := by
    rw [work_eq chores (fares.handling.running chores)]
    exact entry
  have stopping := Chore.endsSession_of_settled settled
  constructor
  case handling => exact fares.handling.work
  case current => exact current
  case ends =>
    obtain ⟨early, there, so⟩ := fares.ends
    refine ⟨early ++ late, by rw [effects', there, List.append_assoc], ?_⟩
    rw [List.any_append, stops, sessions, Bool.or_assoc, ← stopping, ← List.any_cons, ← chores, so]
  case entry =>
    rw [entry']
    split
    · exact .inr rfl
    · exact fares.entry
  case takes =>
    have before := fares.takes
    rw [chores, List.any_cons] at before
    rw [entry', connects, ← before]
    cases chore.takesConnect <;> simp

theorem act (fares : Fares own ends takes s t) {a : Act} (alone : disturbs a t = false) :
    Fares own ends takes s (t.act a) := by
  cases a with
  | move m others =>
    obtain ⟨connection, unasked⟩ := (Bool.or_eq_false_iff).mp alone
    exact fares.move others connection unasked
  | turn now => exact absurd alone.symm Bool.false_ne_true
  | work engine now =>
    show Fares own ends takes s (t.work engine now)
    cases chores : t.consumer.chores with
    | nil =>
      rwa [work_idle chores]
    | cons chore rest =>
      cases decision : chore.isDecision with
      | true => exact fares.decides chores decision
      | false => exact fares.does chores decision

theorem run (fares : Fares own ends takes s t) (acts : List Act)
    (alone : undisturbed acts t = true) : Fares own ends takes s (acted acts t) := by
  induction acts generalizing t with
  | nil => exact fares
  | cons a rest ih =>
    obtain ⟨first, later⟩ := (Bool.and_eq_true _ _).mp alone
    exact ih (fares.act (Bool.not_eq_true' _ |>.mp first)) later

end Fares

/-- What the consumer has left to do when a connect returns decides how the new connection fares.
Its network session is ended by what is left just if that includes the stop of the engine or the
refusal of an attempt, and its entry is taken away just if that includes clearing the table or the
answer to a CONNECT. -/
theorem opened_spared_iff (settings : Settings) (before rest : List Act) (engine : Engine)
    (caller : Caller) :
    let s := acted before (start settings)
    let t := (s.connect engine caller).2
    let u := acted rest t
    (s.connect engine caller).1.isOk → undisturbed rest t →
    ((since t u).any Effect.isStop || u.consumer.chores.any Chore.endsSession) =
      s.consumer.chores.any Chore.endsSession ∧
    (u.pending.find? .connect = some { responder := caller.responder } ∨
      u.pending.find? .connect = none) ∧
    ((u.pending.find? .connect).isNone || u.consumer.chores.any Chore.takesConnect) =
      s.consumer.chores.any Chore.takesConnect := by
  intro s t u taken alone
  have handling : Handling t :=
    ((Handling.start settings).run before).act (.move ⟨.connect caller, engine⟩ rfl)
  have same : t.consumer = s.consumer := after_consumer ⟨.connect caller, engine⟩ rfl
  have waiting : t.pending.find? .connect = some { responder := caller.responder } := connect_entry caller taken
  have opened : Fares { responder := caller.responder } (s.consumer.chores.any Chore.endsSession)
      (s.consumer.chores.any Chore.takesConnect) t t :=
    { handling
      current := .inl (connect_taken caller taken).1
      ends := ⟨[], (List.append_nil _).symm, by rw [same]; rfl⟩
      entry := .inl waiting
      takes := by rw [waiting, same]; rfl }
  have fares : Fares _ _ _ t u := opened.run rest alone
  obtain ⟨effects, appended, ends⟩ := fares.ends
  rw [since_of_append appended]
  exact ⟨ends, fares.entry, fares.takes⟩

/-- The consumer handles the end of a session that the application has closed, and has just released
the caller of the disconnect. -/
def callerReleased : List Act :=
  [.move ⟨.disconnect (.waiting ⟨0⟩), numbering 1⟩ rfl, .turn 0, .work (numbering 1) 0,
   .work (numbering 1) 0, .work (numbering 1) 0]

/-- The consumer handles the refusal of an attempt, and has just left its phase. -/
def attemptRefused : List Act :=
  [.move ⟨.connect listening, numbering 1⟩ rfl,
   .move ⟨.report (.connack 5), numbering 1⟩ rfl, .turn 0, .work (numbering 1) 0,
   .work (numbering 1) 0]

def handlingDone : List Act := List.replicate 3 (.work (numbering 1) 0)

/-- A connect that comes before the phase is read is spared. -/
theorem earlyConnect_spared :
    let before := callerReleased.take 3
    let s := acted before (start .standard)
    let t := (s.connect (numbering 1) listening).2
    let u := acted handlingDone t
    (s.connect (numbering 1) listening).1.isOk ∧ undisturbed handlingDone t ∧
    (since t u).any Effect.isStop = false ∧
    u.pending.find? .connect = some { responder := listening.responder } := by
  intro before s t u
  have taken : (s.connect (numbering 1) listening).1.isOk := by decide +kernel
  have alone : undisturbed handlingDone t := by decide +kernel
  obtain ⟨ends, entry, takes⟩ := opened_spared_iff .standard before handlingDone (numbering 1)
    listening taken alone
  have unended : s.consumer.chores.any Chore.endsSession = false := by decide +kernel
  have untaken : s.consumer.chores.any Chore.takesConnect = false := by decide +kernel
  refine ⟨taken, alone, (Bool.or_eq_false_iff.mp (ends.trans unended)).1, entry.resolve_right ?_⟩
  intro none
  have there := (Bool.or_eq_false_iff.mp (takes.trans untaken)).1
  have present : (u.pending.find? .connect).isNone = false := there
  rw [none] at present
  exact absurd present Bool.noConfusion

/-- The rest of either handling ends the network session of a connect that was taken meanwhile, which
goes on waiting for its CONNACK. The end of a closed session takes its entry too. -/
theorem laterConnect_hit :
    let opened (before : List Act) : Except SessionError RequestId × Session :=
      (acted before (start .standard)).connect (numbering 1) listening
    let hit (before : List Act) : Prop :=
      (opened before).1.isOk ∧ undisturbed handlingDone (opened before).2 ∧
      (acted handlingDone (opened before).2).phase = .connecting ∧
      (since (opened before).2 (acted handlingDone (opened before).2)).any Effect.isStop
    hit callerReleased ∧ hit attemptRefused ∧
      (acted handlingDone (opened callerReleased).2).pending.find? .connect = none := by
  decide +kernel

end Session

end DurableMqtt
