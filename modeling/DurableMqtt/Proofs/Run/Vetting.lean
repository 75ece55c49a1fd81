import DurableMqtt.Proofs.Run.Carrying
import DurableMqtt.Proofs.Topic

/-!
Requests are vetted where they come in.

The session turns away a topic that does not follow the grammar, before anything is parked or sent.
The engine checks the topic again, by the same grammar, so it rejects nothing that was taken on, and
what it refuses can be sent later. Neither of them looks at how long a topic is, or whether all of
its characters can be written.
-/

namespace DurableMqtt

open Network

namespace Network.Client

/-- The client as the engine of a session. -/
def engine (c : Client) : Engine := fun call => (c.call call).1

variable {call : EngineCall} {cause : EngineError}

theorem send_answer (c : Client) (x y : EngineCall) (first second : PacketKind) :
    (c.send x first).1 = (c.send y second).1 := by
  unfold send
  cases c.connection with
  | none => rfl
  | some connection =>
    simp only
    split <;> rfl

theorem isTransient_of_send {kind : PacketKind} (c : Client)
    (refused : (c.send call kind).1 = .error cause) : cause.isTransient = true := by
  unfold send at refused
  split at refused
  · cases refused
    rfl
  · simp only at refused
    split at refused
    · cases refused
    · cases refused
      rfl

theorem call_request (c : Client) (r : Request) (writable : hasWritableTopic r.call = true) :
    ∃ kind, c.call r.call = c.send r.call kind := by
  unfold Client.call
  rw [if_pos writable]
  unfold Request.call
  cases r.action with
  | publish payload qos retain => exact ⟨.publish, rfl⟩
  | subscribe qos handler => exact ⟨.subscribe, rfl⟩
  | unsubscribe => exact ⟨.unsubscribe, rfl⟩

theorem rejected_iff (c : Client) (call : EngineCall) :
    (∃ reason, c.engine call = .error (.rejected reason)) ↔ hasWritableTopic call = false := by
  constructor
  · rintro ⟨reason, rejected⟩
    by_contra writable
    rw [Bool.not_eq_false] at writable
    unfold engine Client.call at rejected
    rw [if_pos writable] at rejected
    cases call with
    | connect keepAlive =>
      simp only [connect, connectFault?] at rejected
      split at rejected
      next fault found =>
        cases rejected
        split at found
        · cases found
        · split at found <;> cases found
      next => cases rejected
    | disconnect =>
      simp only [disconnect] at rejected
      split at rejected
      · cases rejected
      · split at rejected <;> cases rejected
    | publish | subscribe | unsubscribe => cases isTransient_of_send c rejected
  · intro unwritable
    unfold engine Client.call
    rw [unwritable, if_neg Bool.false_ne_true]
    exact ⟨_, rfl⟩

theorem isTransient_of_writable (c : Client) {r : Request}
    (writable : hasWritableTopic r.call = true) (refused : c.engine r.call = .error cause) :
    cause.isTransient = true := by
  obtain ⟨kind, same⟩ := c.call_request r writable
  unfold engine at refused
  rw [same] at refused
  exact c.isTransient_of_send refused

end Network.Client

namespace Session

variable {s : Session} {engine : Engine} {caller : Caller} {request : Request}

/-- A run over clients: each step meets some client, in whatever state. -/
def overClients (steps : List (Step × Client)) : List Move :=
  steps.map fun (step, client) => ⟨step, client.engine⟩

/-! ### Answers -/

theorem route_answer_recovering (valid : request.hasValidTopic = true)
    (recovering : s.phase.isRecovering = true) :
    (s.route engine request caller).1 =
      (s.queue.append (s.taken request caller)).1.answer request.kind := by
  have same : (request.withListener caller.listener).hasValidTopic = true := valid
  unfold route
  simp only [same, recovering, Bool.not_true, Bool.false_eq_true, ↓reduceIte, accept]
  unfold taken
  generalize s.queue.append ⟨s.nextTicket, request.withListener caller.listener⟩ = result
  obtain ⟨appended, queue⟩ := result
  cases appended <;> rfl

theorem route_answer_ready (valid : request.hasValidTopic = true)
    (ready : s.phase.isRecovering = false) :
    (s.route engine request caller).1 =
      match engine request.call with
      | .ok number => .ok (.packet number)
      | .error cause => .error (.refused request.kind cause) := by
  rw [route_sent request caller s valid ready]
  cases engine request.call <;> rfl

theorem invalidArgument_iff :
    (∃ text, (s.route engine request caller).1 = .error (.invalidArgument text)) ↔
      ¬request.IsWellFormed := by
  rw [← Request.hasValidTopic_iff, Bool.not_eq_true]
  constructor
  · rintro ⟨text, answer⟩
    by_contra valid
    rw [Bool.not_eq_false] at valid
    cases recovering : s.phase.isRecovering with
    | true =>
      rw [route_answer_recovering valid recovering] at answer
      cases appended : (s.queue.append (s.taken request caller)).1 <;>
        rw [appended] at answer <;> cases answer
    | false =>
      rw [route_answer_ready valid recovering] at answer
      split at answer <;> cases answer
  · intro invalid
    rw [route_rejected request caller s invalid]
    exact ⟨_, rfl⟩

theorem refused_of_answer {kind : RequestKind} {cause : EngineError}
    (answer : (s.route engine request caller).1 = .error (.refused kind cause)) :
    request.hasValidTopic = true ∧ engine request.call = .error cause := by
  cases valid : request.hasValidTopic with
  | false =>
    rw [route_rejected request caller s valid] at answer
    cases answer
  | true =>
    refine ⟨rfl, ?_⟩
    cases recovering : s.phase.isRecovering with
    | true =>
      rw [route_answer_recovering valid recovering] at answer
      cases appended : (s.queue.append (s.taken request caller)).1 <;>
        rw [appended] at answer <;> cases answer
    | false =>
      rw [route_answer_ready valid recovering] at answer
      split at answer
      next number taken => cases answer
      next other refused =>
        cases answer
        exact refused

/-- Over a client, valid requests of one kind are answered alike. -/
theorem route_alike (c : Client) {x y : Request} (kind : x.kind = y.kind)
    (first : x.hasValidTopic = true) (second : y.hasValidTopic = true) :
    (s.route c.engine x caller).1 = (s.route c.engine y caller).1 := by
  cases recovering : s.phase.isRecovering with
  | true =>
    rw [route_answer_recovering first recovering, route_answer_recovering second recovering,
      OfflineQueue.append_fst s.queue (s.taken x caller) (s.taken y caller), kind]
  | false =>
    have same : c.engine x.call = c.engine y.call := by
      obtain ⟨firstKind, sendsFirst⟩ := c.call_request x
        ((Client.hasWritableTopic_call x).trans first)
      obtain ⟨secondKind, sendsSecond⟩ := c.call_request y
        ((Client.hasWritableTopic_call y).trans second)
      unfold Client.engine
      rw [sendsFirst, sendsSecond]
      exact c.send_answer _ _ _ _
    rw [route_answer_ready first recovering, route_answer_ready second recovering, same, kind]

/-! ### Runs over clients -/

theorem writable_of_taken (moves : List Move) (s : Session) :
    ∀ request ∈ takenOn moves s, Client.hasWritableTopic request.call = true := by
  induction moves generalizing s with
  | nil => exact fun request member => absurd member List.not_mem_nil
  | cons m rest ih =>
    intro request member
    rcases List.mem_append.mp member with here | later
    · obtain ⟨caller, step, valid, ready⟩ := takesOn?_eq_some.mp (Option.mem_toList.mp here)
      rw [Client.hasWritableTopic_call, valid]
    · exact ih (s.after m) request later

/-- Whatever a session carries, the engine can write. -/
theorem writable_run (settings : Settings) (moves : List Move) :
    Carries (Client.hasWritableTopic · = true) (run moves (start settings)) := by
  have plain : ∀ call : EngineCall, call.topic? = none → Client.hasWritableTopic call = true := by
    intro call untopical
    cases call <;> first | rfl | cases untopical
  exact (carries_run_iff plain moves (.start _ settings)).mpr
    (writable_of_taken moves (start settings)) moves (List.prefix_refl moves)

/-- A paced step over a client discards nothing: each parked request keeps its place or is on its
way. -/
theorem tick_keeps (carries : Carries (Client.hasWritableTopic · = true) s) (c : Client)
    (now : Instant) :
    (∀ e ∈ since s (s.tick c.engine now), e.ack? ≠ some .discarded) ∧
      ∀ a ∈ s.queue.items, a ∈ (s.tick c.engine now).queue.items ∨ ∃ number,
        (s.tick c.engine now).pending.find? (.packet number) =
            some (entryOf a (a.request.onAck.map .pooled)) ∧
          since s (s.tick c.engine now) =
            [.called a.request.call (.ok number) (some a.ticket)] := by
  have paced : Paced c.engine s (s.tick c.engine now) := tick_paced s
  generalize s.tick c.engine now = t at paced ⊢
  have quiet {call : EngineCall} {answer : Except EngineError UInt32} {ticket : Option Nat}
      (appended : t.effects = s.effects ++ [.called call answer ticket]) :
      ∀ e ∈ since s t, e.ack? ≠ some .discarded := by
    intro e member
    rw [since_of_append appended, List.mem_singleton] at member
    rw [member]
    exact fun told => Option.some_ne_none _ told.symm
  cases paced with
  | rested phase consumer backoff onward =>
    have nothing : since s { s with phase, consumer, backoff } = [] := since_of_same rfl
    refine ⟨fun e member => ?_, fun a member => .inl member⟩
    rw [nothing] at member
    exact absurd member List.not_mem_nil
  | restored | notRestored | putBack => exact ⟨quiet rfl, fun a member => .inl member⟩
  | replayed a rest number consumer onward head taken =>
    refine ⟨quiet rfl, fun other member => ?_⟩
    rw [head] at member
    rcases List.mem_cons.mp member with rfl | later
    · exact .inr ⟨number, PendingTable.find?_insert_self _, since_of_append rfl⟩
    · exact .inl later
  | discarded a rest cause consumer onward head refused permanent =>
    have writable : Client.hasWritableTopic a.request.call = true :=
      carries.parked a (by rw [head]; exact List.mem_cons_self)
    rw [c.isTransient_of_writable writable refused] at permanent
    cases permanent

/-! ### The grammar of both checks -/

/-- How topics fare in a run over clients. -/
structure TopicsVetted (settings : Settings) (steps : List (Step × Client)) : Prop where
  /-- The session checks a topic by the grammar, for each kind of request by its own. -/
  grammar : ∀ r : Request, r.hasValidTopic = true ↔ r.IsWellFormed
  /-- Filters can as well be checked by the number of bytes of their levels. -/
  scanned : ∀ filter, Topic.passesScan filter = Topic.isFilter filter
  /-- The engine accepts the same topics for the same kinds of requests. -/
  engine : ∀ r : Request, Client.hasWritableTopic r.call = r.hasValidTopic
  turnedAway : ∀ (s : Session) (engine : Engine) (request : Request) (caller : Caller),
    ((∃ text, (s.route engine request caller).1 = .error (.invalidArgument text)) ↔
        ¬request.IsWellFormed) ∧
      (¬request.IsWellFormed → (s.route engine request caller).2 = s)
  rejected : ∀ (c : Client) (r : Request),
    (∃ reason, (c.call r.call).1 = .error (.rejected reason)) ↔ ¬r.IsWellFormed
  /-- No caller is told that the engine rejected its request. -/
  live : ∀ (s : Session) (c : Client) request caller kind reason,
    (s.route c.engine request caller).1 ≠ .error (.refused kind (.rejected reason))
  /-- In the whole run nothing is rejected, be it sent at once, replayed or restored. -/
  replayed : ∀ call reason ticket, .called call (.error (.rejected reason)) ticket ∉
    (run (overClients steps) (start settings)).effects
  /-- A paced step discards no parked request. -/
  drained : ∀ (c : Client) now,
    let s := run (overClients steps) (start settings)
    let t := s.tick c.engine now
    (∀ e ∈ since s t, e.ack? ≠ some .discarded) ∧
      ∀ a ∈ s.queue.items, a ∈ t.queue.items ∨ ∃ number,
        t.pending.find? (.packet number) = some (entryOf a (a.request.onAck.map .pooled)) ∧
          since s t = [.called a.request.call (.ok number) (some a.ticket)]

/-- Both checks follow the grammar of topics, so a client rejects nothing that a session takes on,
in any number of its sessions. -/
theorem topics_vetted (settings : Settings) (steps : List (Step × Client)) :
    TopicsVetted settings steps := by
  have writable := writable_run settings (overClients steps)
  have unwritable (r : Request) : Client.hasWritableTopic r.call = false ↔ ¬r.IsWellFormed := by
    rw [Client.hasWritableTopic_call, ← Request.hasValidTopic_iff, Bool.not_eq_true]
  constructor
  case grammar => exact Request.hasValidTopic_iff
  case scanned => exact Topic.passesScan_eq
  case engine => exact Client.hasWritableTopic_call
  case turnedAway =>
    refine fun s engine request caller => ⟨invalidArgument_iff, fun illFormed => ?_⟩
    rw [← Request.hasValidTopic_iff, Bool.not_eq_true] at illFormed
    rw [route_rejected request caller s illFormed]
  case rejected => exact fun c r => (c.rejected_iff r.call).trans (unwritable r)
  case live =>
    intro s c request caller kind reason answer
    obtain ⟨valid, refused⟩ := refused_of_answer answer
    have invalid := (c.rejected_iff request.call).mp ⟨reason, refused⟩
    rw [Client.hasWritableTopic_call, valid] at invalid
    cases invalid
  case replayed =>
    intro call reason ticket called
    have origin := answered_run (overClients steps) (start settings) called
    rcases origin with before | ⟨m, member, answered⟩
    · exact absurd before List.not_mem_nil
    · obtain ⟨⟨step, c⟩, -, rfl⟩ := List.mem_map.mp member
      have invalid := (c.rejected_iff call).mp ⟨reason, answered⟩
      rw [writable.asked call _ ticket called] at invalid
      cases invalid
  case drained => exact fun c now => tick_keeps writable c now

/-! ### What no check looks at -/

def HasEncodableTopic (call : EngineCall) : Prop :=
  ∀ topic, call.topic? = some topic → Topic.isEncodable topic = true

theorem hasEncodableTopic_call (r : Request) :
    HasEncodableTopic r.call ↔ Topic.isEncodable r.topic = true := by
  have topic : r.call.topic? = some r.topic := by
    unfold Request.call
    cases r.action <;> rfl
  constructor
  · exact fun encodable => encodable r.topic topic
  · intro encodable other named
    cases topic.symm.trans named
    exact encodable

/-- What a session makes of topics that cannot be written. -/
structure EncodingUnchecked (settings : Settings) (moves : List Move) : Prop where
  /-- A topic that does not follow the grammar is turned away, and leaves the session as it is. -/
  illFormed : ∀ (s : Session) (engine : Engine) (request : Request) (caller : Caller),
    ¬request.IsWellFormed → s.route engine request caller =
      (.error (.invalidArgument
        ("Cannot " ++ request.kind.text ++ " invalid topic " ++ Text.quoted request.topic)), s)
  /-- No other topic is turned away, and over a client all of them are answered alike. -/
  wellFormed : ∀ (s : Session) (c : Client) (x y : Request) (caller : Caller),
    x.IsWellFormed → y.IsWellFormed → x.kind = y.kind →
    (s.route c.engine x caller).1 = (s.route c.engine y caller).1 ∧
      ∀ text, (s.route c.engine x caller).1 ≠ .error (.invalidArgument text)
  /-- All that a run holds or sends can be written just if all that it takes on can be. -/
  carried : (∀ before, before <+: moves →
      Carries HasEncodableTopic (run before (start settings))) ↔
    ∀ request ∈ takenOn moves (start settings), Topic.isEncodable request.topic = true

/-- Length and null characters decide nothing, so what a session carries can be written as far as
its callers see to it. -/
theorem encoding_unchecked (settings : Settings) (moves : List Move) :
    EncodingUnchecked settings moves := by
  constructor
  case illFormed =>
    intro s engine request caller illFormed
    rw [← Request.hasValidTopic_iff, Bool.not_eq_true] at illFormed
    exact route_rejected request caller s illFormed
  case wellFormed =>
    intro s c x y caller first second kind
    refine ⟨route_alike c kind (x.hasValidTopic_iff.mpr first) (y.hasValidTopic_iff.mpr second), ?_⟩
    exact fun text answer => invalidArgument_iff.mp ⟨text, answer⟩ first
  case carried =>
    have plain : ∀ call : EngineCall, call.topic? = none → HasEncodableTopic call := by
      intro call untopical topic named
      cases untopical.symm.trans named
    rw [carries_run_iff plain moves (.start _ settings)]
    exact forall₂_congr fun request _ => hasEncodableTopic_call request

def nullBearing : Request := ⟨"a\x00b", .publish .empty .atLeastOnce false, none⟩

def nullBearingRun : List Move :=
  [⟨.connect (.notified none), numbering 1⟩, ⟨.request nullBearing (.notified none), numbering 1⟩,
   ⟨.report (.connack 0), numbering 1⟩, ⟨.dispatch 0, numbering 1⟩, ⟨.tick 0, numbering 1⟩]

/-- The message cannot be written. It is parked all the same, and sent once the session is up. -/
theorem nullBearing_sent :
    Topic.isEncodable nullBearing.topic = false ∧
    ((run (nullBearingRun.take 1) (start .standard)).route (numbering 1) nullBearing
      (.notified none)).1 = .ok .queued ∧
    (run (nullBearingRun.take 2) (start .standard)).queue.items = [⟨0, nullBearing⟩] ∧
    (run nullBearingRun (start .standard)).effects.filterMap Effect.takes? = [0] := by
  refine ⟨by decide +kernel, rfl, by decide +kernel, by decide +kernel⟩

end Session

end DurableMqtt
