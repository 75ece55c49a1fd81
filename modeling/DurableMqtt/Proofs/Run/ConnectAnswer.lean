import DurableMqtt.Proofs.Pending
import DurableMqtt.Proofs.Run.Passage

/-!
Who hears the answer to a CONNECT.

The answer goes to the entry that waits under the identifier of connections. There is only one,
and a CONNECT of the supervisor replaces it with an entry that nobody listens to. So the caller
of an operation hears the answer unless the supervisor has connected again in the meantime.
-/

namespace DurableMqtt

def Effect.answersConnect (e : Effect) : Bool := e.ack? matches some (.connected _)

namespace Session

def heard (effects : List Effect) : List Effect := effects.filter Effect.answersConnect

def isConnection (m : Move) : Bool := m.step matches .connect _ | .disconnect _

def connack? (m : Move) (s : Session) : Option UInt8 :=
  (dispatched? m s).bind fun e =>
    match e.kind with
    | .connack code => some code
    | _ => none

def connacks : List Move → Session → List UInt8
  | [], _ => []
  | m :: rest, s => (connack? m s).toList ++ connacks rest (s.after m)

def reconnects (m : Move) (s : Session) : Bool := isSupervision m && asks m s && !asksInVain m s

def reconnectsAlong : List Move → Session → Bool
  | [], _ => false
  | m :: rest, s => reconnects m s || reconnectsAlong rest (s.after m)

/-- Who waits for the answer to a CONNECT. -/
def awaiting (s : Session) : Option Responder :=
  (s.pending.find? .connect).bind PendingEntry.responder

/-- No acknowledgment of a request is for a connection. -/
def SoundEvents (s : Session) : Prop := ∀ e ∈ s.events.events, e.ack?.isSome → e.id ≠ .connect

variable {s t : Session} {m : Move} {engine : Engine} {now : Instant}

/-! ### Events -/

theorem ack?_report (report : Report) (ack : report.event.ack?.isSome) :
    report.event.id ≠ .connect := by
  cases report with
  | connack code => exact absurd ack Bool.false_ne_true
  | _ => exact RequestId.noConfusion

theorem SoundEvents.after (sound : SoundEvents s) (m : Move) : SoundEvents (s.after m) := by
  intro e member ack
  rcases (framed m s).events e member with old | ⟨report, rfl⟩
  · exact sound e old ack
  · exact ack?_report report ack

theorem mem_of_nextEvent? {e : Event} (next : s.nextEvent? = some e) : e ∈ s.events.events := by
  unfold nextEvent? EventQueue.next at next
  split at next
  · exact absurd next (Option.some_ne_none e).symm
  · split at next
    next first _ taken =>
      split at taken
      · exact absurd (congrArg Prod.fst taken) Next.noConfusion
      · split at taken
        · exact absurd (congrArg Prod.fst taken) Next.noConfusion
        next oldest rest events =>
          have same := Next.event.inj (congrArg Prod.fst taken)
          rw [events, ← Option.some.inj next, ← same]
          exact List.mem_cons_self
    · exact absurd next (Option.some_ne_none e).symm

/-! ### One step -/

def Unheard (effects : List Effect) : Prop := ∀ e ∈ effects, e.answersConnect = false

theorem Unheard.nil : Unheard [] := fun _ member => absurd member List.not_mem_nil

theorem Unheard.append {first second : List Effect} (early : Unheard first) (late : Unheard second) :
    Unheard (first ++ second) := fun e member => (List.mem_append.mp member).elim (early e) (late e)

theorem Unheard.single {e : Effect} (quiet : e.answersConnect = false) : Unheard [e] := by
  intro other member
  rw [List.mem_singleton.mp member]
  exact quiet

theorem Unheard.hooks {effects : List Effect} (hooks : ∀ e ∈ effects, e.isHook) :
    Unheard effects := by
  intro e member
  have hook := hooks e member
  cases e with
  | submitted job => cases job <;> first | rfl | exact absurd hook Bool.false_ne_true
  | released waiter ack => exact absurd hook Bool.false_ne_true
  | _ => rfl

theorem Unheard.told (id : RequestId) (responder : Option Responder) {ack : Ack}
    (other : ∀ code, ack ≠ .connected code) : Unheard (told id responder ack) := by
  have plain : ∀ e : Effect, e.ack? = some ack → e.answersConnect = false := by
    intro e of
    unfold Effect.answersConnect
    rw [of]
    cases ack with
    | connected code => exact absurd rfl (other code)
    | _ => rfl
  unfold Session.told
  split
  · exact .single (plain _ rfl)
  · exact .single (plain _ rfl)
  · exact .nil

theorem Unheard.discarded (entries : List (UInt32 × PendingEntry)) :
    Unheard (discarded entries) := by
  intro e member
  obtain ⟨entry, _, telling⟩ := List.mem_flatMap.mp member
  exact Unheard.told _ _ (fun _ => Ack.noConfusion) e telling

theorem heard_append (first second : List Effect) :
    heard (first ++ second) = heard first ++ heard second := List.filter_append _ _

theorem heard_of_unheard {effects : List Effect} (unheard : Unheard effects) : heard effects = [] :=
  List.filter_eq_nil_iff.mpr fun e member => ne_true_of_eq_false (unheard e member)

theorem heard_told (id : RequestId) (responder : Option Responder) (code : UInt8) :
    heard (told id responder (.connected code)) = told id responder (.connected code) := by
  unfold told
  split <;> rfl

theorem answered_connect (code : UInt8) :
    answered s.pending .connect (.connected code) = told .connect s.awaiting (.connected code) := by
  unfold answered awaiting
  cases s.pending.find? .connect <;> rfl

/-- What a step does for the one who waits for a connection. -/
structure Answers (m : Move) (s t : Session) : Prop where
  heard : heard (since s t) =
    match connack? m s with
    | some code => told .connect s.awaiting (.connected code)
    | none => []
  awaiting : t.awaiting = if (connack? m s).isSome || reconnects m s then none else s.awaiting

theorem Answers.none (silent : connack? m s = .none) (unsent : reconnects m s = false)
    (effects : List Effect) (appended : t.effects = s.effects ++ effects) (unheard : Unheard effects)
    (same : t.pending.find? .connect = s.pending.find? .connect) : Answers m s t where
  heard := by
    rw [since_of_append appended, heard_of_unheard unheard, silent]
  awaiting := by
    rw [silent, unsent, Session.awaiting, same]
    rfl

theorem Answers.of_connack (code : UInt8) (dispatched : connack? m s = some code)
    (effects : List Effect)
    (appended : t.effects =
      s.effects ++ (answered s.pending .connect (.connected code) ++ effects))
    (unheard : Unheard effects) (taken : t.pending = s.pending.erase .connect) :
    Answers m s t where
  heard := by
    rw [since_of_append appended, heard_append, heard_of_unheard unheard, answered_connect, heard_told,
      dispatched, List.append_nil]
  awaiting := by
    rw [dispatched, Session.awaiting, taken, PendingTable.find?_erase_self]
    rfl

theorem connack?_of_kind {e : Event} (next : s.nextEvent? = some e)
    (other : ∀ code, e.kind ≠ .connack code) : connack? ⟨.dispatch now, engine⟩ s = none := by
  have seen : dispatched? ⟨.dispatch now, engine⟩ s = some e := next
  rw [connack?, seen, Option.bind_some]
  cases kind : e.kind with
  | connack code => exact absurd kind (other code)
  | _ => rfl

theorem answers_dispatch (sound : SoundEvents s) (opened : s.phase ≠ .userDisconnect) :
    Answers ⟨.dispatch now, engine⟩ s (s.dispatch engine now) := by
  have dispatched : Dispatched now s (s.dispatch engine now) := dispatch_dispatched s
  have leaving : Unheard s.farewell := .hooks s.farewell_isHook
  generalize s.dispatch engine now = t at dispatched ⊢
  cases dispatched with
  | idle none =>
    have seen : dispatched? ⟨.dispatch now, engine⟩ s = .none := none
    exact .none (by rw [connack?, seen]; rfl) rfl [] (List.append_nil _).symm .nil rfl
  | handled e next t handled =>
    have seen : dispatched? ⟨.dispatch now, engine⟩ s = some e := next
    have connack {code : UInt8} (kind : e.kind = .connack code) :
        connack? ⟨.dispatch now, engine⟩ s = some code := by
      rw [connack?, seen, Option.bind_some, kind]
    cases handled with
    | welcomed kind connecting =>
      exact .of_connack 0 (connack kind) _ rfl (.hooks (hooked_isHook _ _ fun _ => rfl)) rfl
    | turnedAway code kind refused connecting =>
      exact .of_connack code (connack kind) _ rfl (.single rfl) rfl
    | unheeded code kind elsewhere =>
      exact .of_connack code (connack kind) [] (by rw [List.append_nil]) .nil rfl
    | hungUp code kind t hungUp =>
      have other : connack? ⟨.dispatch now, engine⟩ s = none :=
        connack?_of_kind next fun _ => by rw [kind]; exact EventKind.noConfusion
      cases hungUp with
      | closed phase => exact absurd phase opened
      | idle phase => exact .none other rfl _ rfl leaving rfl
      | connecting phase => exact .none other rfl _ rfl leaving rfl
      | lost established =>
        exact .none other rfl _ rfl (leaving.append (.discarded _))
          (PendingTable.find?_withoutPackets fun _ => rfl)
    | unknown ack of unknown =>
      have other : connack? ⟨.dispatch now, engine⟩ s = none :=
        connack?_of_kind next fun code kind => by simp [Event.ack?, kind] at of
      exact .none other rfl [] (List.append_nil _).symm .nil rfl
    | acknowledged ack of entry found consumer kept =>
      have other : connack? ⟨.dispatch now, engine⟩ s = none :=
        connack?_of_kind next fun code kind => by simp [Event.ack?, kind] at of
      have apart : e.id ≠ .connect := sound e (mem_of_nextEvent? next) (by rw [of]; rfl)
      have plain : ∀ code, ack ≠ .connected code := by
        rintro code rfl
        unfold Event.ack? at of
        split at of <;> simp at of
      exact .none other rfl _ rfl (.told _ _ plain)
        (PendingTable.find?_erase_of_ne apart.symm)
    | delivered m kind consumer effects same hooks =>
      have other : connack? ⟨.dispatch now, engine⟩ s = none :=
        connack?_of_kind next fun _ => by rw [kind]; exact EventKind.noConfusion
      exact .none other rfl effects rfl (.hooks hooks) rfl

theorem answers_request (request : Request) (caller : Caller) :
    Answers ⟨.request request caller, engine⟩ s (s.route engine request caller).2 := by
  have routed : Routed engine _ _ s (s.route engine request caller) := route_routed request caller s
  generalize s.route engine request caller = result at routed ⊢
  cases routed with
  | sent number taken ready =>
    exact .none rfl rfl _ rfl (.single rfl) (PendingTable.find?_insert_of_ne RequestId.noConfusion _)
  | refused error cause refused ready => exact .none rfl rfl _ rfl (.single rfl) rfl
  | _ => exact .none rfl rfl [] (List.append_nil _).symm .nil rfl

theorem answers_tick : Answers ⟨.tick now, engine⟩ s (s.tick engine now) := by
  have paced : Paced engine s (s.tick engine now) := tick_paced s
  generalize s.tick engine now = t at paced ⊢
  cases paced with
  | rested phase consumer backoff onward =>
    exact .none rfl rfl [] (List.append_nil _).symm .nil rfl
  | restored record number phase consumer onward taken =>
    exact .none rfl rfl _ rfl (.single rfl) (PendingTable.find?_insert_of_ne RequestId.noConfusion _)
  | notRestored record cause phase consumer onward => exact .none rfl rfl _ rfl (.single rfl) rfl
  | replayed a rest number consumer onward head taken =>
    exact .none rfl rfl _ rfl (.single rfl) (PendingTable.find?_insert_of_ne RequestId.noConfusion _)
  | putBack a rest cause consumer onward head refused transient =>
    exact .none rfl rfl _ rfl (.single rfl) rfl
  | discarded a rest cause consumer onward head refused permanent =>
    exact .none rfl rfl _ (List.append_assoc _ _ _)
      (.append (.single rfl) (.told _ _ fun _ => Ack.noConfusion)) rfl

theorem answers_supervise : Answers ⟨.supervise now, engine⟩ s (s.supervise engine now) := by
  have after : s.after ⟨.supervise now, engine⟩ = s.supervise engine now := rfl
  have supervised : Supervised engine s (s.supervise engine now) := supervise_supervised s
  have unsent (same : (s.supervise engine now).effects = s.effects) :
      reconnects ⟨.supervise now, engine⟩ s = false := by
    rw [reconnects, asks_of_same after same]
    rfl
  generalize s.supervise engine now = t at after supervised unsent ⊢
  cases supervised with
  | connected slept number attempting opened taken =>
    have sent : reconnects ⟨.supervise now, engine⟩ s = true := by
      rw [reconnects, asks_of_append (congrArg effects after),
        asksInVain_of_append (congrArg effects after)]
      rfl
    constructor
    · rw [since_of_append rfl]
      rfl
    · rw [sent, Session.awaiting, PendingTable.find?_insert_self, Bool.or_true]
      rfl
  | refused slept cause attempting opened answer =>
    have refused : reconnects ⟨.supervise now, engine⟩ s = false := by
      rw [reconnects, asksInVain_of_append (congrArg effects after)]
      exact Bool.and_false _
    exact .none rfl refused _ rfl (.single rfl) rfl
  | _ => exact .none rfl (unsent rfl) [] (List.append_nil _).symm .nil rfl

theorem answers_step (sound : SoundEvents s) (opened : s.phase ≠ .userDisconnect)
    (alone : isConnection m = false) : Answers m s (s.after m) := by
  obtain ⟨step, engine⟩ := m
  cases step with
  | connect caller => exact absurd alone.symm Bool.false_ne_true
  | disconnect caller => exact absurd alone.symm Bool.false_ne_true
  | request request caller => exact answers_request request caller
  | dispatch now => exact answers_dispatch sound opened
  | tick now => exact answers_tick
  | supervise now => exact answers_supervise
  | adjust adjustment =>
    obtain ⟨settings, hooks, backoff, adjusted⟩ := adjust_eq adjustment s
    have after : s.after ⟨.adjust adjustment, engine⟩ = { s with settings, hooks, backoff } := adjusted
    rw [after]
    exact .none rfl rfl [] (List.append_nil _).symm .nil rfl
  | configureQueue capacity policy => exact .none rfl rfl [] (List.append_nil _).symm .nil rfl
  | report report => exact .none rfl rfl [] (List.append_nil _).symm .nil rfl
  | expire timer => exact .none rfl rfl [] (List.append_nil _).symm .nil rfl

/-! ### Runs -/

structure Attended (s : Session) : Prop where
  awake : s.Awake
  sound : SoundEvents s
  opened : s.phase ≠ .userDisconnect

theorem opened_after (awake : s.Awake) (opened : s.phase ≠ .userDisconnect)
    (alone : isConnection m = false) : (s.after m).phase ≠ .userDisconnect := by
  have elsewhere {phase : Phase} (here : (s.after m).phase = phase)
      (apart : phase ≠ .userDisconnect) : (s.after m).phase ≠ .userDisconnect := by rwa [here]
  have up (connected : (s.after m).phase.isConnected) : (s.after m).phase ≠ .userDisconnect := by
    intro closed
    rw [closed] at connected
    exact absurd connected Bool.false_ne_true
  cases passage awake m with
  | still quiet unmoved phase recovery =>
    exact phase.elim (fun same => elsewhere same opened) fun both => up both.2
  | collected first rest idle scheduled quiet phase recovery epoch signals expected =>
    exact elsewhere phase opened
  | released expected engaged stale quiet phase recovery epoch signals idle =>
    exact elsewhere phase opened
  | connects caller step asked phase epoch signals expected =>
    rw [isConnection, step] at alone
    exact absurd alone.symm Bool.false_ne_true
  | attempts now step current opened asked phase epoch signals expected =>
    exact elsewhere phase Phase.noConfusion
  | closes caller step quiet phase epoch signals expected =>
    rw [isConnection, step] at alone
    exact absurd alone.symm Bool.false_ne_true
  | welcomed connecting unasked accepting phase unmoved => exact up phase
  | ignored away unasked accepting phase recovery unmoved => exact elsewhere phase opened
  | turnedAway connecting quiet phase recovery epoch signals expected =>
    exact elsewhere phase Phase.noConfusion
  | missed code closed connecting quiet phase recovery epoch signals expected =>
    exact elsewhere phase Phase.noConfusion
  | lost established quiet phase recovery epoch signals expected =>
    exact elsewhere phase Phase.noConfusion
  | settled last away opened quiet phase recovery unmoved => exact elsewhere phase Phase.noConfusion

theorem Attended.after (attended : Attended s) (alone : isConnection m = false) :
    Attended (s.after m) where
  awake := attended.awake.after m
  sound := attended.sound.after m
  opened := opened_after attended.awake attended.opened alone

theorem Attended.run (attended : Attended s) (moves : List Move)
    (alone : ∀ m ∈ moves, isConnection m = false) : Attended (run moves s) := by
  induction moves generalizing s with
  | nil => exact attended
  | cons m rest ih =>
    exact ih (attended.after (alone m List.mem_cons_self)) fun other member =>
      alone other (List.mem_cons_of_mem m member)

/-- Until a CONNACK is dispatched nobody hears one, and whoever waits goes on waiting unless the
supervisor connects again. -/
theorem run_unanswered (attended : Attended s) (moves : List Move)
    (alone : ∀ m ∈ moves, isConnection m = false) (unanswered : connacks moves s = []) :
    heard (since s (run moves s)) = [] ∧
      (run moves s).awaiting = if reconnectsAlong moves s then none else s.awaiting := by
  induction moves generalizing s with
  | nil =>
    refine ⟨?_, rfl⟩
    rw [run, since, List.drop_length]
    rfl
  | cons m rest ih =>
    have first := alone m List.mem_cons_self
    obtain ⟨none, later⟩ := List.append_eq_nil_iff.mp unanswered
    have silent : connack? m s = .none := by
      cases code : connack? m s with
      | none => rfl
      | some code' =>
        rw [code] at none
        exact absurd none (List.cons_ne_nil _ _)
    have step := answers_step attended.sound attended.opened first
    obtain ⟨quiet, waiting⟩ := ih (attended.after first)
      (fun other member => alone other (List.mem_cons_of_mem m member)) later
    constructor
    · rw [since_run_cons, heard_append, quiet, step.heard, silent]
      rfl
    · rw [run, waiting, step.awaiting, silent, reconnectsAlong]
      cases reconnects m s <;> cases reconnectsAlong rest (s.after m) <;> rfl

theorem run_unheard (attended : Attended s) (moves : List Move)
    (alone : ∀ m ∈ moves, isConnection m = false) (nobody : s.awaiting = none) :
    heard (since s (run moves s)) = [] := by
  induction moves generalizing s with
  | nil =>
    rw [run, since, List.drop_length]
    rfl
  | cons m rest ih =>
    have first := alone m List.mem_cons_self
    have step := answers_step attended.sound attended.opened first
    have still : (s.after m).awaiting = none := by
      rw [step.awaiting, nobody]
      exact ite_self _
    rw [since_run_cons, heard_append, step.heard, nobody,
      ih (attended.after first) (fun other member => alone other (List.mem_cons_of_mem m member)) still]
    cases connack? m s <;> rfl

theorem connect_taken (caller : Caller) (taken : (s.connect engine caller).1.isOk) :
    (s.connect engine caller).2.phase = .connecting ∧
      (s.connect engine caller).2.awaiting = caller.responder ∧
      heard (since s (s.connect engine caller).2) = [] := by
  rw [connect_eq] at taken ⊢
  by_cases free : s.phase.acceptsConnect = true
  · simp only [free, ↓reduceIte] at taken ⊢
    cases answer : engine (.connect s.settings.keepAlive) with
    | error cause =>
      rw [answer] at taken
      exact absurd taken Bool.false_ne_true
    | ok number =>
      refine ⟨rfl, ?_, ?_⟩
      · rw [awaiting, PendingTable.find?_insert_self]
        rfl
      · rw [since_of_append rfl]
        rfl
  · simp only [free, Bool.false_eq_true, ↓reduceIte] at taken
    exact absurd taken Bool.false_ne_true

theorem SoundEvents.run (sound : SoundEvents s) (moves : List Move) : SoundEvents (run moves s) := by
  induction moves generalizing s with
  | nil => exact sound
  | cons m rest ih => exact ih (sound.after m)

theorem Awake.run (awake : s.Awake) (moves : List Move) : (run moves s).Awake := by
  induction moves generalizing s with
  | nil => exact awake
  | cons m rest ih => exact ih (awake.after m)

/-- The caller of an operation that connects hears the first CONNACK that is dispatched, and no
other, just if the supervisor has not connected again before. -/
theorem connect_answered (settings : Settings) (earlier before rest : List Move) (m : Move)
    (engine : Engine) (caller : Caller) (code : UInt8) :
    let s := run earlier (start settings)
    let t := (s.connect engine caller).2
    (s.connect engine caller).1.isOk → (∀ x ∈ before ++ m :: rest, isConnection x = false) →
    connacks before t = [] → connack? m (run before t) = some code →
    heard (since s (run (before ++ m :: rest) t)) =
      if reconnectsAlong before t then [] else told .connect caller.responder (.connected code) := by
  intro s t taken alone unanswered answer
  obtain ⟨connecting, waiting, calling⟩ := connect_taken caller taken
  have start : SoundEvents (start settings) := fun _ none => absurd none List.not_mem_nil
  have attended : Attended t :=
    { awake := ((Awake.start settings).run earlier).after ⟨.connect caller, engine⟩
      sound := (start.run earlier).after ⟨.connect caller, engine⟩
      opened := fun closed => absurd (connecting.symm.trans closed) Phase.noConfusion }
  have aloneBefore : ∀ x ∈ before, isConnection x = false :=
    fun x member => alone x (List.mem_append_left _ member)
  have aloneLater : ∀ x ∈ m :: rest, isConnection x = false :=
    fun x member => alone x (List.mem_append_right _ member)
  have aloneNow := aloneLater m List.mem_cons_self
  obtain ⟨quiet, still⟩ := run_unanswered attended before aloneBefore unanswered
  have reached := attended.run before aloneBefore
  have step := answers_step reached.sound reached.opened aloneNow
  have nobody : ((run before t).after m).awaiting = none := by
    rw [step.awaiting, answer]
    rfl
  have silence := run_unheard (reached.after aloneNow) rest
    (fun x member => aloneLater x (List.mem_cons_of_mem m member)) nobody
  have whole : since s (run (before ++ m :: rest) t) =
      since s t ++ since t (run (before ++ m :: rest) t) :=
    since_run_cons ⟨.connect caller, engine⟩ (before ++ m :: rest) s
  calc heard (since s (run (before ++ m :: rest) t))
      = heard (since t (run (before ++ m :: rest) t)) := by
        rw [whole, heard_append, calling, List.nil_append]
    _ = heard (since (run before t) (run (m :: rest) (run before t))) := by
        rw [since_run_append, heard_append, quiet, List.nil_append]
    _ = heard (since (run before t) ((run before t).after m)) := by
        rw [since_run_cons, heard_append, silence, List.append_nil]
    _ = told .connect (run before t).awaiting (.connected code) := by
        rw [step.heard, answer]
    _ = if reconnectsAlong before t then [] else told .connect caller.responder (.connected code) := by
        rw [still, waiting]
        split <;> rfl

def listening : Caller := .notified (some ⟨"done"⟩)

/-- The first attempt ends, and the broker answers before the supervisor has connected again. -/
def quickRun : List Move :=
  [⟨.report (.disconnect 1), numbering 1⟩, ⟨.dispatch 0, numbering 1⟩,
   ⟨.report (.connack 5), numbering 1⟩]

theorem quickRun_heard :
    let t := ((start .standard).connect (numbering 1) listening).2
    connack? ⟨.dispatch 0, numbering 1⟩ (run quickRun t) = some 5 ∧
    heard (since (start .standard) (run (quickRun ++ [⟨.dispatch 0, numbering 1⟩]) t)) =
      told .connect listening.responder (.connected 5) := by
  intro t
  have taken : ((start .standard).connect (numbering 1) listening).1.isOk := by decide +kernel
  have alone : ∀ x ∈ quickRun ++ [⟨.dispatch 0, numbering 1⟩], isConnection x = false := by decide
  have unanswered : connacks quickRun t = [] := by decide +kernel
  have answer : connack? ⟨.dispatch 0, numbering 1⟩ (run quickRun t) = some 5 := by decide +kernel
  have spared : reconnectsAlong quickRun t = false := by decide +kernel
  have heard := connect_answered .standard [] quickRun [] ⟨.dispatch 0, numbering 1⟩ (numbering 1)
    listening 5 taken alone unanswered answer
  refine ⟨answer, heard.trans ?_⟩
  exact if_neg (ne_true_of_eq_false spared)

/-- The supervisor connects again after the first attempt, and the broker answers that. -/
def reconnectingRun : List Move :=
  [⟨.report (.disconnect 1), numbering 1⟩, ⟨.dispatch 0, numbering 1⟩,
   ⟨.supervise 0, numbering 1⟩, ⟨.supervise 0, numbering 1⟩, ⟨.supervise 0, numbering 1⟩,
   ⟨.supervise 1000000000, numbering 1⟩, ⟨.supervise 1000000000, numbering 1⟩,
   ⟨.report (.connack 0), numbering 1⟩]

theorem reconnectingRun_unheard :
    let t := ((start .standard).connect (numbering 1) listening).2
    ((start .standard).connect (numbering 1) listening).1.isOk ∧
    (∀ m ∈ reconnectingRun, isConnection m = false) ∧ connacks reconnectingRun t = [] ∧
    connack? ⟨.dispatch 0, numbering 1⟩ (run reconnectingRun t) = some 0 ∧
    heard (since (start .standard)
      (run (reconnectingRun ++ [⟨.dispatch 0, numbering 1⟩]) t)) = [] := by
  decide +kernel

end Session

end DurableMqtt
