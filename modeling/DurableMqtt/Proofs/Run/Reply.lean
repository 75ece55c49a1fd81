import DurableMqtt.Proofs.Run.Conservation

/-!
Who is told what becomes of a request.

The answers that a step gives are told apart by what they are for: the ticket of a request, or
none for a CONNECT, a DISCONNECT and a subscription that is restored. Together they are all that
the step tells anybody.
-/

namespace DurableMqtt

structure Reply where
  /-- The ticket of the request, unless it is a CONNECT, a DISCONNECT or a subscription that is
  restored. -/
  ticket? : Option Nat
  id : RequestId
  responder : Option Responder
  ack : Ack

def Reply.effects (r : Reply) : List Effect := Session.told r.id r.responder r.ack

def PendingEntry.reply (e : PendingEntry) (id : RequestId) (ack : Ack) : Reply :=
  ⟨e.ticket?, id, e.responder, ack⟩

def Effect.refusal? : Effect → Option Nat
  | called _ (.error cause) ticket => if cause.isTransient then none else ticket
  | _ => none

namespace Session

/-! ### Answers -/

def replyTo (id : RequestId) (ack : Ack) (s : Session) : List Reply :=
  (s.pending.find? id).toList.map (·.reply id ack)

/-- The answers to the requests of a lost session that cannot be parked. -/
def discards (s : Session) : List Reply :=
  (s.unanswered.filter fun entry => !s.isKept entry).map fun entry =>
    entry.2.reply (.packet entry.1) .discarded

def hangUpReplies (code : UInt8) (s : Session) : List Reply :=
  match s.phase with
  | .userDisconnect => s.replyTo .disconnect (.disconnected code)
  | .idle | .connecting => []
  | _ => s.discards

def eventReplies (e : Event) (s : Session) : List Reply :=
  match e.kind with
  | .connack code => s.replyTo .connect (.connected code)
  | .disconnect code => s.hangUpReplies code
  | .puback => s.replyTo e.id .published
  | .suback answer => s.replyTo e.id (.subscribed answer)
  | .unsuback => s.replyTo e.id .unsubscribed
  | .message _ => []

/-- The answer to the oldest parked request, if the engine has just refused it for good. -/
def headReplies (effects : List Effect) (s : Session) : List Reply :=
  match s.queue.items with
  | [] => []
  | a :: _ =>
    if effects.any (·.refusal? == some a.ticket) then
      [⟨some a.ticket, .queued, a.request.onAck.map .pooled, .discarded⟩]
    else []

/-- All answers that a step gives. -/
def replies (m : Move) (s : Session) : List Reply :=
  match m.step with
  | .dispatch _ => s.nextEvent?.toList.flatMap (s.eventReplies ·)
  | .tick _ => s.headReplies (since s (s.after m))
  | _ => []

def repliesAlong : List Move → Session → List Reply
  | [], _ => []
  | m :: rest, s => replies m s ++ repliesAlong rest (s.after m)

variable {s t : Session} {m : Move} {engine : Engine} {now : Instant} {effects : List Effect}

theorem eventReplies_of_ack {e : Event} {ack : Ack} (of : e.ack? = some ack) :
    s.eventReplies e = s.replyTo e.id ack := by
  unfold Event.ack? at of
  unfold eventReplies
  split at of
  next kind => rw [kind, ← Option.some.inj of]
  next answer kind => rw [kind, ← Option.some.inj of]
  next kind => rw [kind, ← Option.some.inj of]
  next => exact absurd of.symm (Option.some_ne_none ack)

theorem replies_dispatch {e : Event} (next : s.nextEvent? = some e) :
    replies ⟨.dispatch now, engine⟩ s = s.eventReplies e := by
  simp only [replies, next, Option.toList_some, List.flatMap_cons, List.flatMap_nil,
    List.append_nil]

theorem repliesAlong_append (first second : List Move) (s : Session) :
    repliesAlong (first ++ second) s =
      repliesAlong first s ++ repliesAlong second (run first s) := by
  induction first generalizing s with
  | nil => rfl
  | cons m rest ih =>
    simp only [List.cons_append, repliesAlong, run]
    rw [ih, List.append_assoc]

/-! ### Everything that is told -/

def tellings (effects : List Effect) : List Effect := effects.filter (·.ack?.isSome)

theorem tellings_append (first second : List Effect) :
    tellings (first ++ second) = tellings first ++ tellings second := List.filter_append _ _

theorem tellings_told (id : RequestId) (responder : Option Responder) (ack : Ack) :
    tellings (told id responder ack) = told id responder ack := by
  cases responder with
  | none => rfl
  | some responder => cases responder <;> rfl

theorem tellings_of_silent (silent : ∀ e ∈ effects, e.ack? = none) : tellings effects = [] := by
  refine List.filter_eq_nil_iff.mpr fun e member tells => ?_
  rw [silent e member] at tells
  exact Bool.false_ne_true tells

theorem tellings_hooks (hooks : ∀ e ∈ effects, e.isHook) : tellings effects = [] := by
  apply tellings_of_silent
  intro e member
  have hook := hooks e member
  cases e with
  | submitted job =>
    cases job with
    | acknowledge listener id ack => exact absurd hook Bool.false_ne_true
    | _ => rfl
  | _ => exact absurd hook Bool.false_ne_true

theorem tellings_hooked (hook : Option Callback) (job : Callback → Job)
    (plain : ∀ callback, (Effect.submitted (job callback)).isHook) :
    tellings (hooked hook job) = [] := tellings_hooks (hooked_isHook hook job plain)

theorem tellings_answered (id : RequestId) (ack : Ack) :
    tellings (answered s.pending id ack) = (s.replyTo id ack).flatMap Reply.effects := by
  unfold answered replyTo
  cases s.pending.find? id with
  | none => rfl
  | some entry =>
    simp only [Option.toList_some, List.map_cons, List.map_nil, List.flatMap_cons, List.flatMap_nil,
      List.append_nil]
    exact tellings_told id entry.responder ack

theorem tellings_discarded (entries : List (UInt32 × PendingEntry)) :
    tellings (discarded entries) =
      (entries.map fun entry => entry.2.reply (.packet entry.1) .discarded).flatMap
        Reply.effects := by
  induction entries with
  | nil => rfl
  | cons entry rest ih =>
    unfold discarded at ih ⊢
    rw [List.flatMap_cons, tellings_append, ih, List.map_cons, List.flatMap_cons]
    congr 1
    exact tellings_told _ _ _

theorem tellings_hungUp {code : UInt8} (hungUp : HungUp code s t) :
    tellings (since s t) = (s.hangUpReplies code).flatMap Reply.effects := by
  have leaving : tellings s.farewell = [] := tellings_hooks s.farewell_isHook
  unfold hangUpReplies
  cases hungUp with
  | closed phase =>
    rw [since_of_append rfl, phase, tellings_append, tellings_append, leaving, tellings_answered]
    exact List.append_nil _
  | idle phase => rw [since_of_append rfl, phase, leaving]; rfl
  | connecting phase => rw [since_of_append rfl, phase, leaving]; rfl
  | lost established =>
    rw [since_of_append rfl, tellings_append, leaving, List.nil_append, tellings_discarded]
    cases phase : s.phase with
    | userDisconnect | idle | connecting =>
      simp [phase, Phase.isConnected] at established
    | _ => rfl

theorem tellings_dispatch :
    tellings (since s (s.dispatch engine now)) =
      (replies ⟨.dispatch now, engine⟩ s).flatMap Reply.effects := by
  have dispatched : Dispatched now s (s.dispatch engine now) := dispatch_dispatched s
  generalize s.dispatch engine now = t at dispatched ⊢
  cases dispatched with
  | idle none =>
    rw [since_of_same rfl]
    simp only [replies, none, Option.toList_none, List.flatMap_nil]
    rfl
  | handled e next t handled =>
    rw [replies_dispatch next]
    change tellings (since { s with events := s.events.next.2 } t) = _
    cases handled with
    | welcomed kind connecting =>
      rw [since_of_append rfl, tellings_append, tellings_hooked _ _ fun _ => rfl,
        List.append_nil, tellings_answered]
      simp only [eventReplies, kind]
      rfl
    | turnedAway code kind refused connecting =>
      rw [since_of_append rfl, tellings_append, tellings_answered]
      simp only [eventReplies, kind]
      exact List.append_nil _
    | unheeded code kind elsewhere =>
      rw [since_of_append rfl, tellings_answered]
      simp only [eventReplies, kind]
      rfl
    | hungUp code kind t hungUp =>
      rw [tellings_hungUp hungUp]
      simp only [eventReplies, kind]
      rfl
    | unknown ack of unknown =>
      have unknown : s.pending.find? e.id = none := unknown
      rw [since_of_same rfl, eventReplies_of_ack of, replyTo, unknown]
      rfl
    | acknowledged ack of entry found consumer recovery =>
      have found : s.pending.find? e.id = some entry := found
      rw [since_of_append rfl, eventReplies_of_ack of, replyTo, found, tellings_told]
      exact (List.append_nil _).symm
    | delivered message kind consumer effects same hooks =>
      rw [since_of_append rfl, tellings_hooks hooks]
      simp only [eventReplies, kind]
      rfl

theorem headReplies_of_unrefused (unrefused : ∀ e ∈ effects, e.refusal? = none) :
    s.headReplies effects = [] := by
  have none (ticket : Nat) : effects.any (·.refusal? == some ticket) = false := by
    refine List.any_eq_false.mpr fun e member => ?_
    rw [unrefused e member]
    exact Bool.false_ne_true
  unfold headReplies
  split
  · rfl
  · rw [none]
    rfl

theorem headReplies_of_call {call : EngineCall} {answer : Except EngineError UInt32}
    {ticket : Option Nat} (unrefused : (Effect.called call answer ticket).refusal? = none) :
    s.headReplies [.called call answer ticket] = [] := by
  apply headReplies_of_unrefused
  intro e member
  rw [List.mem_singleton.mp member]
  exact unrefused

theorem headReplies_of_refused {a : Accepted} {rest : List Accepted} {cause : EngineError}
    (head : s.queue.items = a :: rest) (permanent : cause.isTransient = false)
    (call : EngineCall) (others : List Effect) :
    s.headReplies (.called call (.error cause) (some a.ticket) :: others) =
      [⟨some a.ticket, .queued, a.request.onAck.map .pooled, .discarded⟩] := by
  have refused : (Effect.called call (.error cause) (some a.ticket)).refusal? = some a.ticket := by
    simp only [Effect.refusal?, permanent, Bool.false_eq_true, ↓reduceIte]
  simp only [headReplies, head, List.any_cons, refused, beq_self_eq_true, Bool.true_or, ↓reduceIte]

inductive TickReplies (s t : Session) : List Reply → Prop where
  | none (untold : tellings (since s t) = []) : TickReplies s t []
  | discarded (a : Accepted) (rest : List Accepted) (head : s.queue.items = a :: rest)
      (left : t.queue.items = rest) (pending : t.pending = s.pending)
      (told : tellings (since s t) = told .queued (a.request.onAck.map .pooled) .discarded) :
      TickReplies s t [⟨some a.ticket, .queued, a.request.onAck.map .pooled, .discarded⟩]

theorem tickReplies :
    TickReplies s (s.tick engine now) (replies ⟨.tick now, engine⟩ s) := by
  change TickReplies s (s.tick engine now) (s.headReplies (since s (s.tick engine now)))
  have paced : Paced engine s (s.tick engine now) := tick_paced s
  generalize s.tick engine now = t at paced ⊢
  cases paced with
  | rested phase consumer backoff onward =>
    have silent : since s { s with phase, consumer, backoff } = [] := since_of_same rfl
    rw [silent, headReplies_of_unrefused fun e member => absurd member List.not_mem_nil]
    exact .none (by rw [silent]; rfl)
  | restored record number phase consumer onward taken =>
    rw [since_of_append rfl, headReplies_of_call rfl]
    exact .none (by rw [since_of_append rfl]; rfl)
  | notRestored record cause phase consumer onward =>
    rw [since_of_append rfl, headReplies_of_call (by simp only [Effect.refusal?, ite_self])]
    exact .none (by rw [since_of_append rfl]; rfl)
  | replayed a rest number consumer onward head taken =>
    rw [since_of_append rfl, headReplies_of_call rfl]
    exact .none (by rw [since_of_append rfl]; rfl)
  | putBack a rest cause consumer onward head refused transient =>
    rw [since_of_append rfl,
      headReplies_of_call (by simp only [Effect.refusal?, transient, ↓reduceIte])]
    exact .none (by rw [since_of_append rfl]; rfl)
  | discarded a rest cause consumer onward head refused permanent =>
    rw [since_of_append (List.append_assoc _ _ _), List.singleton_append,
      headReplies_of_refused head permanent]
    refine .discarded a rest head rfl rfl ?_
    rw [since_of_append (List.append_assoc _ _ _), List.singleton_append]
    exact tellings_told _ _ _

theorem tellings_tick :
    tellings (since s (s.tick engine now)) =
      (replies ⟨.tick now, engine⟩ s).flatMap Reply.effects := by
  have answers : TickReplies s (s.tick engine now) (replies ⟨.tick now, engine⟩ s) := tickReplies
  generalize replies ⟨.tick now, engine⟩ s = given at answers ⊢
  cases answers with
  | none untold => exact untold
  | discarded a rest head left pending told => exact told.trans (List.append_nil _).symm

theorem tellings_replies (m : Move) (s : Session) :
    tellings (since s (s.after m)) = (replies m s).flatMap Reply.effects := by
  obtain ⟨step, engine⟩ := m
  have unsaid {t : Session} (effects : t.effects = s.effects) : tellings (since s t) = [] := by
    rw [since_of_same effects]
    rfl
  cases step with
  | connect caller =>
    change tellings (since s (s.connect engine caller).2) = []
    rw [connect_eq]
    split
    · split
      · rw [since_of_append rfl]; rfl
      · rw [since_of_append rfl]; rfl
    · exact unsaid rfl
  | disconnect caller =>
    change tellings (since s (s.disconnect engine caller).2) = []
    rw [disconnect_eq]
    simp only
    split
    · split
      · rw [since_of_append rfl]; rfl
      · rw [since_of_append rfl]; rfl
    · exact unsaid rfl
  | request request caller =>
    have routed : Routed engine _ _ s (s.route engine request caller) :=
      route_routed request caller s
    change tellings (since s (s.route engine request caller).2) = []
    generalize s.route engine request caller = result at routed ⊢
    cases routed with
    | sent number taken ready => rw [since_of_append rfl]; rfl
    | refused error cause refused ready => rw [since_of_append rfl]; rfl
    | _ => exact unsaid rfl
  | configureQueue capacity policy => exact unsaid rfl
  | adjust adjustment =>
    obtain ⟨settings, hooks, backoff, adjusted⟩ := adjust_eq adjustment s
    change tellings (since s (s.adjust adjustment)) = []
    rw [adjusted]
    exact unsaid rfl
  | report report => exact unsaid rfl
  | dispatch now => exact tellings_dispatch
  | tick now => exact tellings_tick
  | supervise now =>
    have supervised : Supervised engine s (s.supervise engine now) := supervise_supervised s
    change tellings (since s (s.supervise engine now)) = []
    generalize s.supervise engine now = t at supervised ⊢
    cases supervised with
    | connected slept number attempting opened taken => rw [since_of_append rfl]; rfl
    | refused slept cause attempting opened answer => rw [since_of_append rfl]; rfl
    | _ => exact unsaid rfl
  | expire timer => exact unsaid rfl

theorem tellings_repliesAlong (moves : List Move) (s : Session) :
    tellings (since s (run moves s)) = (repliesAlong moves s).flatMap Reply.effects := by
  induction moves generalizing s with
  | nil =>
    rw [run, since_self]
    rfl
  | cons m rest ih =>
    rw [since_run_cons, tellings_append, tellings_replies, ih, repliesAlong, List.flatMap_append]

end Session

end DurableMqtt
