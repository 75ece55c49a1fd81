import DurableMqtt.Daemon.Service
import DurableMqtt.Proofs.Run.Ticketed

/-!
What becomes of the subscriptions that the daemon was configured for.

The daemon asks for each of them once, as soon as it is connected. A session that is stable hands
them all to the engine. One that is still recovering parks those that its queue has room for, and
only what is parked is sent later.
-/

namespace DurableMqtt

def Effect.call? : Effect → Option EngineCall
  | called call _ _ => some call
  | _ => none

def Effect.sent? : Effect → Option EngineCall
  | called call (.ok _) _ => some call
  | _ => none

def Engine.accepts (engine : Engine) : Prop := ∀ call, ∃ number, engine call = .ok number

/-- The request for a configured subscription, as it is parked. -/
def SubscriptionConfig.request (subscription : SubscriptionConfig) : Request where
  topic := subscription.topic
  action := .subscribe subscription.qos Daemon.messageHandler
  onAck := some (.callback Daemon.subscriptionAnswer)

def SubscriptionConfig.call (subscription : SubscriptionConfig) : EngineCall :=
  .subscribe subscription.topic subscription.qos

namespace Session

variable {s t u : Session} {engine : Engine} {now due : Instant}

/-- What the engine was asked for since `s`, and then what was parked since. -/
def asked (s t : Session) : List EngineCall :=
  (since s t).filterMap Effect.call? ++
    (t.queue.items.filter fun a => decide (s.nextTicket ≤ a.ticket)).map (·.request.call)

theorem asked_eq {effects : List Effect} {older new : List Accepted}
    (appended : t.effects = s.effects ++ effects) (items : t.queue.items = older ++ new)
    (before : ∀ a ∈ older, a.ticket < s.nextTicket) (since' : ∀ a ∈ new, s.nextTicket ≤ a.ticket) :
    asked s t = effects.filterMap Effect.call? ++ new.map (·.request.call) := by
  have none : older.filter (fun a => decide (s.nextTicket ≤ a.ticket)) = [] :=
    List.filter_eq_nil_iff.mpr fun a member => by simpa using before a member
  have all : new.filter (fun a => decide (s.nextTicket ≤ a.ticket)) = new :=
    List.filter_eq_self.mpr fun a member => decide_eq_true (since' a member)
  rw [asked, since_of_append appended, items, List.filter_append, none, all, List.nil_append]

def issuedFrom : Nat → List Request → List Accepted
  | _, [] => []
  | ticket, request :: rest => ⟨ticket, request⟩ :: issuedFrom (ticket + 1) rest

theorem issuedFrom_calls (ticket : Nat) (requests : List Request) :
    (issuedFrom ticket requests).map (·.request.call) = requests.map Request.call := by
  induction requests generalizing ticket with
  | nil => rfl
  | cons request rest ih => exact congrArg (request.call :: ·) (ih (ticket + 1))

theorem issuedFrom_fresh (ticket : Nat) (requests : List Request) :
    ∀ a ∈ issuedFrom ticket requests, ticket ≤ a.ticket := by
  induction requests generalizing ticket with
  | nil => exact fun _ member => absurd member List.not_mem_nil
  | cons request rest ih =>
    intro a member
    rcases List.mem_cons.mp member with rfl | later
    · exact le_rfl
    · exact (Nat.le_succ ticket).trans (ih (ticket + 1) a later)

/-! ### One request -/

theorem route_appended (engine : Engine) (request : Request) (caller : Caller) (s : Session)
    (valid : request.hasValidTopic = true) (recovering : s.phase.isRecovering = true) :
    ∃ ticket, (s.route engine request caller).2 =
        { s with queue := (s.queue.append (s.taken request caller)).2, nextTicket := ticket } ∧
      (ticket = s.nextTicket + 1 ∨ ticket = s.nextTicket ∧ ∀ a, (s.queue.append a).2 = s.queue) := by
  have same : (request.withListener caller.listener).hasValidTopic = true := valid
  have appends := s.queue.append_appends (s.taken request caller)
  unfold route
  simp only [same, recovering, Bool.not_true, Bool.false_eq_true, ↓reduceIte, accept]
  unfold taken at appends ⊢
  generalize s.queue.append ⟨s.nextTicket, request.withListener caller.listener⟩ = result
    at appends ⊢
  cases appends with
  | stored => exact ⟨s.nextTicket + 1, rfl, .inl rfl⟩
  | disabled disabled =>
    refine ⟨s.nextTicket, rfl, .inr ⟨rfl, fun a => ?_⟩⟩
    simp only [OfflineQueue.append, disabled]
  | turnedAway limit capacity full policy =>
    refine ⟨s.nextTicket, ?_, .inr ⟨rfl, fun a => ?_⟩⟩
    · simp only [policy, reduceCtorEq, ↓reduceIte]
    · simp only [OfflineQueue.append, capacity, if_pos full, policy]
  | evicting limit capacity full policy =>
    refine ⟨s.nextTicket + 1, ?_, .inl rfl⟩
    simp only [policy, ↓reduceIte]

end Session

namespace Daemon

variable {s t : Session}

/-- The session after the subscriptions were asked for, of which the first is at place `i`. -/
def subscribedFrom (engine : Nat → Engine) : Nat → List SubscriptionConfig → Session → Session
  | _, [], s => s
  | i, subscription :: rest, s =>
    subscribedFrom engine (i + 1) rest (subscribe (engine i) subscription s).2

theorem foldl_snd {α : Type} (engine : Nat → Engine)
    (step : α × Session → SubscriptionConfig × Nat → α × Session)
    (asks : ∀ x p, (step x p).2 = (subscribe (engine p.2) p.1 x.2).2)
    (subscriptions : List SubscriptionConfig) (i : Nat) (x : α × Session) :
    ((subscriptions.zipIdx i).foldl step x).2 = subscribedFrom engine i subscriptions x.2 := by
  induction subscriptions generalizing i x with
  | nil => rfl
  | cons subscription rest ih =>
    rw [List.zipIdx_cons, List.foldl_cons, ih, asks, subscribedFrom]

theorem subscribeAll_snd (engine : Nat → Engine) (subscriptions : List SubscriptionConfig)
    (s : Session) :
    (subscribeAll engine subscriptions s).2 = subscribedFrom engine 0 subscriptions s := by
  apply foldl_snd engine
  exact fun _ _ => rfl

/-! ### All subscriptions -/

variable {engine : Nat → Engine} {subscriptions : List SubscriptionConfig}

theorem subscribedFrom_parked (engine : Nat → Engine) (i : Nat)
    (valid : ∀ subscription ∈ subscriptions, Topic.isFilter subscription.topic = true)
    (recovering : s.phase.isRecovering = true) :
    ∃ ticket, subscribedFrom engine i subscriptions s =
      { s with
        queue := (s.queue.appendAll
          (Session.issuedFrom s.nextTicket (subscriptions.map SubscriptionConfig.request))).2
        nextTicket := ticket } := by
  induction subscriptions generalizing i s with
  | nil => exact ⟨s.nextTicket, rfl⟩
  | cons subscription rest ih =>
    obtain ⟨next, appended, issued⟩ := Session.route_appended (engine i)
      { subscription.request with onAck := none } (.notified (some subscriptionAnswer)) s
      (valid subscription List.mem_cons_self) recovering
    have first : (subscribe (engine i) subscription s).2 =
        { s with
          queue := (s.queue.append ⟨s.nextTicket, subscription.request⟩).2
          nextTicket := next } := appended
    rw [subscribedFrom, first]
    obtain ⟨last, others⟩ := ih (i + 1)
      (fun other member => valid other (List.mem_cons_of_mem _ member))
      (s := { s with
        queue := (s.queue.append ⟨s.nextTicket, subscription.request⟩).2
        nextTicket := next }) recovering
    rw [others]
    refine ⟨last, ?_⟩
    -- A queue that takes nothing issues no ticket, so the tickets of the others do not move on.
    rcases issued with rfl | ⟨rfl, refuses⟩
    · rfl
    · simp only [refuses, OfflineQueue.appendAll_refusing refuses]

structure HandsOver (engine : Engine) (subscription : SubscriptionConfig) (s t : Session) : Prop where
  called : ∃ answer ticket, t.effects = s.effects ++ [.called subscription.call answer ticket] ∧
    (engine.accepts → ∃ number, answer = .ok number)
  phase : t.phase = s.phase
  queue : t.queue = s.queue

theorem subscribe_handsOver (engine : Engine) {subscription : SubscriptionConfig}
    (valid : Topic.isFilter subscription.topic = true) (ready : s.phase.isRecovering = false) :
    HandsOver engine subscription s (subscribe engine subscription s).2 := by
  have routed : subscribe engine subscription s = _ :=
    Session.route_sent { subscription.request with onAck := none }
      (.notified (some subscriptionAnswer)) s valid ready
  rw [routed]
  have call : ({ subscription.request with onAck := none } : Request).call = subscription.call := rfl
  rw [call]
  cases answer : engine subscription.call with
  | ok number => exact ⟨⟨.ok number, some s.nextTicket, rfl, fun _ => ⟨number, rfl⟩⟩, rfl, rfl⟩
  | error cause =>
    refine ⟨⟨.error cause, some s.nextTicket, rfl, fun accepts => ?_⟩, rfl, rfl⟩
    obtain ⟨number, taken⟩ := accepts subscription.call
    cases answer.symm.trans taken

theorem subscribedFrom_sent (engine : Nat → Engine) (i : Nat)
    (valid : ∀ subscription ∈ subscriptions, Topic.isFilter subscription.topic = true)
    (ready : s.phase.isRecovering = false) :
    ∃ effects, (subscribedFrom engine i subscriptions s).effects = s.effects ++ effects ∧
      effects.filterMap Effect.call? = subscriptions.map SubscriptionConfig.call ∧
      ((∀ place, (engine place).accepts) →
        effects.filterMap Effect.sent? = subscriptions.map SubscriptionConfig.call) ∧
      (subscribedFrom engine i subscriptions s).queue = s.queue := by
  induction subscriptions generalizing i s with
  | nil => exact ⟨[], (List.append_nil _).symm, rfl, fun _ => rfl, rfl⟩
  | cons subscription rest ih =>
    obtain ⟨⟨answer, ticket, called, taken⟩, phase, queue⟩ :=
      subscribe_handsOver (engine i) (valid subscription List.mem_cons_self) ready
    obtain ⟨effects, appended, calls, sent, kept⟩ := ih (i + 1)
      (fun other member => valid other (List.mem_cons_of_mem _ member))
      (s := (subscribe (engine i) subscription s).2) (by rw [phase]; exact ready)
    rw [subscribedFrom, appended, called, kept, queue]
    refine ⟨.called subscription.call answer ticket :: effects, ?_, ?_, fun accepts => ?_, rfl⟩
    · rw [List.append_assoc, List.singleton_append]
    · exact congrArg (subscription.call :: ·) calls
    · obtain ⟨number, rfl⟩ := taken (accepts i)
      exact congrArg (subscription.call :: ·) (sent accepts)

/-! ### What is asked for -/

theorem parked_eq (engine : Nat → Engine) (i : Nat) (ticketed : Session.Ticketed s)
    (valid : ∀ subscription ∈ subscriptions, Topic.isFilter subscription.topic = true)
    (recovering : s.phase.isRecovering = true) :
    ∃ left new, (subscribedFrom engine i subscriptions s).effects = s.effects ∧
      (subscribedFrom engine i subscriptions s).queue.items = left ++ new ∧
      left <:+ s.queue.items ∧ (∀ a ∈ new, s.nextTicket ≤ a.ticket) ∧
      new.map (·.request.call) = (s.queue.admitted subscriptions).map SubscriptionConfig.call := by
  obtain ⟨n, capacity⟩ := ticketed.bound
  obtain ⟨ticket, parked⟩ := subscribedFrom_parked engine i valid recovering
  generalize requests : subscriptions.map SubscriptionConfig.request = asking at parked
  obtain ⟨left, older, queue⟩ :=
    OfflineQueue.appendAll_admitted capacity (Session.issuedFrom s.nextTicket asking)
  rw [parked, queue]
  refine ⟨left, s.queue.admitted (Session.issuedFrom s.nextTicket asking), rfl, rfl, older, ?_, ?_⟩
  · intro a member
    exact Session.issuedFrom_fresh _ _ a ((s.queue.admitted_sublist _).subset member)
  · rw [← OfflineQueue.admitted_map s.queue (fun a : Accepted => a.request.call),
      Session.issuedFrom_calls, ← requests, List.map_map, ← OfflineQueue.admitted_map]
    rfl

theorem asked_of_parked (engine : Nat → Engine) (i : Nat) (ticketed : Session.Ticketed s)
    (valid : ∀ subscription ∈ subscriptions, Topic.isFilter subscription.topic = true)
    (recovering : s.phase.isRecovering = true) :
    Session.asked s (subscribedFrom engine i subscriptions s) =
      (s.queue.admitted subscriptions).map SubscriptionConfig.call := by
  obtain ⟨left, new, effects, items, older, fresh, calls⟩ :=
    parked_eq engine i ticketed valid recovering
  rw [Session.asked_eq (effects.trans (List.append_nil _).symm) items
    (fun a member => ticketed.queued a (older.subset member)) fresh, calls]
  rfl

theorem asked_of_sent (engine : Nat → Engine) (i : Nat) (ticketed : Session.Ticketed s)
    (valid : ∀ subscription ∈ subscriptions, Topic.isFilter subscription.topic = true)
    (ready : s.phase.isRecovering = false) :
    Session.asked s (subscribedFrom engine i subscriptions s) =
      subscriptions.map SubscriptionConfig.call := by
  obtain ⟨effects, appended, calls, -, queue⟩ := subscribedFrom_sent engine i valid ready
  have items := (congrArg OfflineQueue.items queue).trans (List.append_nil _).symm
  rw [Session.asked_eq appended items ticketed.queued fun _ none => absurd none List.not_mem_nil,
    calls, List.map_nil, List.append_nil]

/-! ### What is parked is sent -/

end Daemon

namespace Session

theorem Attempted.taken {a : Accepted} {rest : List Accepted} {consumer : Consumer}
    (attempted : Attempted engine a rest consumer s t) (accepts : engine.accepts) :
    t.queue.items = rest ∧ (since s t).filterMap Effect.sent? = [a.request.call] := by
  obtain ⟨number, taken⟩ := accepts a.request.call
  cases attempted with
  | accepted number taken =>
    rw [since_of_append rfl]
    exact ⟨rfl, rfl⟩
  | putOff cause refused transient => cases taken.symm.trans refused
  | discarded cause refused permanent => cases taken.symm.trans refused

theorem queue_sent {ticks : List Tick} (draining : IsDraining s due)
    (timely : Timely s.settings.drainingInterval due ticks)
    (accepts : ∀ tick ∈ ticks, tick.engine.accepts)
    (enough : s.queue.items.length ≤ ticks.length) :
    (since s (run (ticks.map Tick.move) s)).filterMap Effect.sent? =
      s.queue.items.map (·.request.call) := by
  induction ticks generalizing s due with
  | nil =>
    have empty : s.queue.items = [] := List.length_eq_zero_iff.mp (Nat.le_zero.mp enough)
    rw [List.map_nil, run, since_self, empty]
    rfl
  | cons tick rest ih =>
    obtain ⟨onTime, -, later⟩ := timely
    rw [List.map_cons, since_run_cons, List.filterMap_append]
    change (since s (s.tick tick.engine tick.now)).filterMap Effect.sent? ++
      (since (s.tick tick.engine tick.now) (run (rest.map Tick.move)
        (s.tick tick.engine tick.now))).filterMap Effect.sent? = _
    cases items : s.queue.items with
    | nil =>
      -- The step finds nothing and ends the recovery, after which no step does anything.
      have still : since s s.settledDown = [] := since_of_same rfl
      rw [tick_settledDown draining onTime items, run_recovered rest rfl, since_self, still]
      rfl
    | cons a others =>
      have attempted : Attempted tick.engine a others
          (s.consumer.rescheduled tick.now s.settings.drainingInterval) s
          (s.tick tick.engine tick.now) := tick_attempted draining onTime items
      generalize s.tick tick.engine tick.now = t at attempted ⊢
      obtain ⟨shorter, sent⟩ := attempted.taken (accepts tick List.mem_cons_self)
      have fewer : others.length ≤ rest.length := by
        rw [items] at enough
        exact Nat.le_of_succ_le_succ enough
      rw [sent, List.map_cons, ← shorter]
      apply congrArg (a.request.call :: ·)
      cases rest with
      | nil =>
        have empty : others = [] := List.length_eq_zero_iff.mp (Nat.le_zero.mp fewer)
        rw [List.map_nil, run, since_self, shorter, empty]
        rfl
      | cons next later' =>
        have named : tick.now + s.settings.drainingInterval.nanoseconds < Instant.limit :=
          Nat.lt_of_le_of_lt later.1 later.2.1
        apply ih (attempted.draining draining named)
        · rw [attempted.aside.1]
          exact later
        · exact fun other member => accepts other (List.mem_cons_of_mem _ member)
        · rw [shorter]
          exact fewer

/-- How a session that was accepted, and has nothing to subscribe to again, comes to send its queue,
of which the first step is due at the given time. -/
inductive GoesOn (s : Session) : Session → Instant → Prop where
  | draining (due : Instant) (draining : IsDraining s due) : GoesOn s s due
  | welcomed (now : Instant) (connecting : s.phase = .connecting) (bare : s.registry.records = [])
      (running : s.consumer.halted = false) : GoesOn s (s.welcome now) now

theorem GoesOn.sends (goesOn : GoesOn s u due) : IsDraining u due ∧ u.queue = s.queue := by
  cases goesOn with
  | draining due draining => exact ⟨draining, rfl⟩
  | welcomed now connecting bare running =>
    rw [welcome_eq, if_pos connecting, bare]
    exact ⟨⟨running, rfl, rfl⟩, rfl⟩

end Session

namespace Daemon

variable {s t : Session} {engine : Nat → Engine} {subscriptions : List SubscriptionConfig}

/-- What the daemon's asking for its subscriptions comes to. -/
structure Subscribes (engine : Nat → Engine) (subscriptions : List SubscriptionConfig)
    (s t : Session) : Prop where
  /-- A session that is recovering asks for those that its queue admits, any other for all. -/
  asked : Session.asked s t =
    (if s.phase.isRecovering then s.queue.admitted subscriptions else subscriptions).map
      SubscriptionConfig.call
  /-- So none is lost just if the session is not recovering or there is room for all. -/
  all : Session.asked s t = subscriptions.map SubscriptionConfig.call ↔
    s.phase.isRecovering = false ∨ s.queue.hasRoom subscriptions.length = true
  /-- What is handed over is sent by an engine that takes everything. -/
  sent : s.phase.isRecovering = false → (∀ place, (engine place).accepts) →
    (Session.since s t).filterMap Effect.sent? = subscriptions.map SubscriptionConfig.call
  /-- What is parked is sent by such an engine as the session goes on, after what was parked before. -/
  replayed : s.phase.isRecovering = true → s.queue.hasRoom subscriptions.length = true →
    ∀ u due ticks, t.GoesOn u due → Timely u.settings.drainingInterval due ticks →
      (∀ tick ∈ ticks, tick.engine.accepts) → t.queue.items.length ≤ ticks.length →
      subscriptions.map SubscriptionConfig.call <:+
        (Session.since u (Session.run (ticks.map Tick.move) u)).filterMap Effect.sent?

/-- In whatever state the daemon asks for its subscriptions, and whatever the engine answers. -/
theorem subscriptions_asked (settings : Settings) (acts : List Act) (engine : Nat → Engine)
    (subscriptions : List SubscriptionConfig)
    (valid : ∀ subscription ∈ subscriptions, Topic.isFilter subscription.topic = true) :
    Subscribes engine subscriptions (Session.acted acts (Session.start settings))
      (subscribeAll engine subscriptions (Session.acted acts (Session.start settings))).2 := by
  have ticketed := (Session.Ticketed.start settings).acted acts
  generalize Session.acted acts (Session.start settings) = s at ticketed ⊢
  rw [subscribeAll_snd]
  have calls (asked : List SubscriptionConfig) (part : asked.Sublist subscriptions) :
      asked.map SubscriptionConfig.call = subscriptions.map SubscriptionConfig.call ↔
        asked = subscriptions := by
    refine ⟨fun same => part.eq_of_length ?_, congrArg _⟩
    simpa using congrArg List.length same
  cases recovering : s.phase.isRecovering with
  | false =>
    have asked := asked_of_sent engine 0 ticketed valid recovering
    obtain ⟨effects, appended, -, sent, -⟩ := subscribedFrom_sent engine 0 valid recovering
    constructor
    · rw [asked, recovering]
      rfl
    · exact iff_of_true asked (.inl recovering)
    · intro _ accepts
      rw [Session.since_of_append appended]
      exact sent accepts
    · exact fun other => absurd (recovering.symm.trans other) Bool.noConfusion
  | true =>
    have asked := asked_of_parked engine 0 ticketed valid recovering
    constructor
    · rw [asked, recovering]
      rfl
    · rw [asked, calls _ (s.queue.admitted_sublist subscriptions), OfflineQueue.admitted_eq_iff,
        recovering]
      simp
    · exact fun other => absurd (recovering.symm.trans other) Bool.noConfusion
    · intro _ room u due ticks goesOn timely accepts enough
      obtain ⟨draining, queue⟩ := goesOn.sends
      rw [← queue] at enough
      rw [Session.queue_sent draining timely accepts enough, queue]
      obtain ⟨left, new, -, items, -, -, calls⟩ := parked_eq engine 0 ticketed valid recovering
      rw [(OfflineQueue.admitted_eq_iff _ _).mpr room] at calls
      rw [items, List.map_append, calls]
      exact List.suffix_append _ _

/-- A message is parked while the session connects. Once it is accepted, the message is sent and the
session waits for its next step. -/
def settlingActs : List Act :=
  [.move ⟨.connect (.notified none), numbering 5⟩ rfl,
   .move ⟨.request Session.publishing (.notified none), numbering 5⟩ rfl,
   .move ⟨.report (.connack 0), numbering 5⟩ rfl,
   .turn 0, .work (numbering 5) 0, .work (numbering 5) 0, .work (numbering 5) 0,
   .work (numbering 5) 0, .work (numbering 5) 0]

def settlingSettings (capacity : Int) (policy : DropPolicy) : Settings :=
  { Settings.standard with queueCapacity := capacity, dropPolicy := policy }

def settling (capacity : Int) (policy : DropPolicy) : Session :=
  Session.acted settlingActs (Session.start (settlingSettings capacity policy))

def twoTopics : List SubscriptionConfig := [⟨"a", .atMostOnce⟩, ⟨"b", .atLeastOnce⟩]

def subscribing (s : Session) : Session := (subscribeAll (fun _ => numbering 9) twoTopics s).2

/-- A queue of two takes both subscriptions, which the next two steps send. -/
theorem roomyQueue_subscribes :
    let t := subscribing (settling 2 .dropNewest)
    let ticks : List Tick := [⟨500000000, numbering 2⟩, ⟨1000000000, numbering 3⟩]
    (∀ subscription ∈ twoTopics, Topic.isFilter subscription.topic = true) ∧
      Session.asked (settling 2 .dropNewest) t = twoTopics.map SubscriptionConfig.call ∧
      twoTopics.map SubscriptionConfig.call <:+
        (Session.since t (Session.run (ticks.map Tick.move) t)).filterMap Effect.sent? := by
  intro t ticks
  have valid : ∀ subscription ∈ twoTopics, Topic.isFilter subscription.topic = true := by
    decide +kernel
  have asked : Subscribes _ _ _ t :=
    subscriptions_asked (settlingSettings 2 .dropNewest) settlingActs (fun _ => numbering 9)
      twoTopics valid
  have recovering : (settling 2 .dropNewest).phase.isRecovering = true := by decide +kernel
  have room : (settling 2 .dropNewest).queue.hasRoom twoTopics.length = true := by decide +kernel
  have draining : t.IsDraining 500000000 := ⟨by decide +kernel, by decide +kernel, rfl⟩
  have timely : Timely t.settings.drainingInterval 500000000 ticks := by decide +kernel
  have accepts : ∀ tick ∈ ticks, tick.engine.accepts := by
    simp only [ticks, List.forall_mem_cons]
    exact ⟨fun _ => ⟨2, rfl⟩, fun _ => ⟨3, rfl⟩, fun _ none => absurd none List.not_mem_nil⟩
  exact ⟨valid, asked.all.mpr (.inr room),
    asked.replayed recovering room t 500000000 ticks (.draining _ draining) timely accepts
      (by decide +kernel)⟩

/-- The session was accepted and has no subscriptions yet. A queue of one loses one of the two that
are asked for, the later or the earlier one by its policy. -/
theorem crowdedQueue_loses :
    (∀ subscription ∈ twoTopics, Topic.isFilter subscription.topic = true) ∧
      (settling 1 .dropNewest).phase = .draining ∧
      (settling 1 .dropNewest).registry.records = [] ∧
      Session.asked (settling 1 .dropNewest) (subscribing (settling 1 .dropNewest)) =
        [.subscribe "a" .atMostOnce] ∧
      Session.asked (settling 1 .dropOldest) (subscribing (settling 1 .dropOldest)) =
        [.subscribe "b" .atLeastOnce] := by
  decide +kernel

end Daemon

end DurableMqtt
