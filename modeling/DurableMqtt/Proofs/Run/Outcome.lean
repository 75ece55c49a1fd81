import DurableMqtt.Proofs.Run.Step

/-!
What each step of a run comes to, as one change of the whole session. The chores of an event
are put together here once, so that no invariant has to follow them one by one.
-/

namespace DurableMqtt

theorem Phase.write_connecting (p : Phase) : p.write .connecting = .connecting := by
  cases p <;> rfl

theorem Phase.write_userDisconnect (p : Phase) : p.write .userDisconnect = .userDisconnect := by
  cases p <;> rfl

/-- Only a session that the application closed keeps its phase against other writes. -/
theorem Phase.write_of_open (p next : Phase) (opened : p ≠ .userDisconnect) : p.write next = next := by
  cases p <;> first | rfl | exact absurd rfl opened

namespace Effect

def ack? : Effect → Option Ack
  | submitted (.acknowledge _ _ ack) | released _ ack => some ack
  | _ => none

def isCall : Effect → Bool
  | called .. => true
  | _ => false

/-- Whether code of the application runs that is told of no acknowledgment. -/
def isHook : Effect → Bool
  | submitted (.acknowledge ..) => false
  | submitted _ => true
  | _ => false

theorem isCall_of_isHook {e : Effect} (hook : e.isHook) : e.isCall = false := by
  cases e with
  | called call answer ticket => exact absurd hook Bool.false_ne_true
  | _ => rfl

end Effect

def Event.ack? (e : Event) : Option Ack :=
  match e.kind with
  | .puback => some .published
  | .suback answer => some (.subscribed answer)
  | .unsuback => some .unsubscribed
  | _ => none

end DurableMqtt

namespace DurableMqtt.Session

/-! ### Telling -/

def told (id : RequestId) (responder : Option Responder) (ack : Ack) : List Effect :=
  match responder with
  | some (.inline waiter) => [.released waiter ack]
  | some (.pooled listener) => [.submitted (.acknowledge listener id ack)]
  | none => []

theorem respond_eq (id : RequestId) (responder : Option Responder) (ack : Ack) (s : Session) :
    s.respond id responder ack = { s with effects := s.effects ++ told id responder ack } := by
  cases responder with
  | none => simp only [respond, told, List.append_nil]
  | some responder => cases responder <;> rfl

def Uncalled (effects : List Effect) : Prop := ∀ e ∈ effects, e.isCall = false

namespace Uncalled

theorem nil : Uncalled [] := fun _ member => absurd member List.not_mem_nil

theorem append {first second : List Effect} (early : Uncalled first) (late : Uncalled second) :
    Uncalled (first ++ second) := fun e member => (List.mem_append.mp member).elim (early e) (late e)

theorem single {e : Effect} (quiet : e.isCall = false) : Uncalled [e] := by
  intro other member
  rw [List.mem_singleton.mp member]
  exact quiet

theorem hooks {effects : List Effect} (hooks : ∀ e ∈ effects, e.isHook) : Uncalled effects :=
  fun e member => Effect.isCall_of_isHook (hooks e member)

end Uncalled

theorem told_uncalled (id : RequestId) (responder : Option Responder) (ack : Ack) :
    Uncalled (told id responder ack) := by
  unfold told
  split
  · exact .single rfl
  · exact .single rfl
  · exact .nil

def hooked (hook : Option Callback) (job : Callback → Job) : List Effect :=
  (hook.map fun hook => .submitted (job hook)).toList

theorem submitHook_eq (hook : Option Callback) (job : Callback → Job) (s : Session) :
    s.submitHook hook job = { s with effects := s.effects ++ hooked hook job } := by
  cases hook with
  | none => simp only [submitHook, hooked, Option.map_none, Option.toList_none, List.append_nil]
  | some hook => rfl

theorem hooked_isHook (hook : Option Callback) (job : Callback → Job)
    (plain : ∀ callback, (Effect.submitted (job callback)).isHook) :
    ∀ e ∈ hooked hook job, e.isHook := by
  intro e member
  cases hook with
  | none => exact absurd member List.not_mem_nil
  | some callback =>
    rw [List.mem_singleton.mp member]
    exact plain callback

end DurableMqtt.Session

namespace DurableMqtt.PendingTable

theorem erase_of_find?_none (t : PendingTable) (id : RequestId) (absent : t.find? id = none) :
    t.erase id = t := by
  have none : ∀ entry ∈ t.entries, (entry.1 != id) = true := by
    simpa [find?] using absent
  simp only [erase, List.filter_eq_self.mpr none]

end DurableMqtt.PendingTable

namespace DurableMqtt.Session

def answered (t : PendingTable) (id : RequestId) (ack : Ack) : List Effect :=
  match t.find? id with
  | some entry => told id entry.responder ack
  | none => []

theorem answered_uncalled (t : PendingTable) (id : RequestId) (ack : Ack) :
    Uncalled (answered t id ack) := by
  unfold answered
  split
  · exact told_uncalled _ _ _
  · exact .nil

theorem answer_eq (id : RequestId) (ack : Ack) (s : Session) :
    s.answer id ack =
      { s with
        pending := s.pending.erase id
        effects := s.effects ++ answered s.pending id ack } := by
  unfold answer answered PendingTable.take?
  cases found : s.pending.find? id with
  | none =>
    simp only [Option.map_none, List.append_nil]
    rw [PendingTable.erase_of_find?_none s.pending id found]
  | some entry => simp only [Option.map_some, respond_eq]

/-! ### The consumer -/

def farewell (s : Session) : List Effect :=
  if s.consumer.online then hooked s.hooks.offline .offline else []

theorem farewell_isHook (s : Session) : ∀ e ∈ s.farewell, e.isHook := by
  unfold farewell
  split
  · exact hooked_isHook s.hooks.offline .offline fun _ => rfl
  · exact fun e member => absurd member List.not_mem_nil

theorem goOffline_eq (s : Session) :
    s.goOffline =
      { s with
        consumer := { s.consumer with online := false }
        effects := s.effects ++ s.farewell } := by
  unfold goOffline farewell
  cases up : s.consumer.online with
  | false =>
    simp only [Bool.false_eq_true, ↓reduceIte, List.append_nil]
    rw [← up]
  | true => simp only [↓reduceIte, submitHook_eq]

def discarded (entries : List (UInt32 × PendingEntry)) : List Effect :=
  entries.flatMap fun entry => told (.packet entry.1) entry.2.responder .discarded

theorem discarded_uncalled (entries : List (UInt32 × PendingEntry)) :
    Uncalled (discarded entries) := by
  intro e member
  obtain ⟨entry, _, telling⟩ := List.mem_flatMap.mp member
  exact told_uncalled _ _ _ e telling

theorem discardInFlight_eq (entries : List (UInt32 × PendingEntry)) (s : Session) :
    s.discardInFlight entries = { s with effects := s.effects ++ discarded entries } := by
  unfold discardInFlight discarded
  induction entries generalizing s with
  | nil => simp only [List.foldl_nil, List.flatMap_nil, List.append_nil]
  | cons entry rest ih =>
    simp only [List.foldl_cons, List.flatMap_cons]
    rw [ih, respond_eq]
    simp only [List.append_assoc]

/-- The requests that a lost session leaves unanswered, oldest identifier first. -/
def unanswered (s : Session) : List (UInt32 × PendingEntry) :=
  s.pending.inFlight.filter fun entry => !entry.2.resubscribe

def isKept (s : Session) (entry : UInt32 × PendingEntry) : Bool :=
  !s.queue.isDisabled && entry.2.replay.isSome

theorem loseSession_eq (s : Session) :
    s.loseSession =
      { s with
        phase := s.phase.write .abnormalDisconnect
        pending := s.pending.withoutPackets
        queue := s.queue.restore ((s.unanswered.filter s.isKept).filterMap (·.2.replayed))
        effects := s.effects ++ discarded (s.unanswered.filter fun entry => !s.isKept entry) } := by
  unfold loseSession
  simp only [List.partition_eq_filter_filter, discardInFlight_eq]
  rfl

theorem enterDraining_eq (now : Instant) (s : Session) :
    s.enterDraining now =
      if s.phase = .userDisconnect then s.withRecovery none
      else { s with
        phase := .draining
        consumer := { s.consumer with recovery := some ⟨.draining, now⟩ } } := by
  unfold enterDraining
  by_cases closed : s.phase = .userDisconnect
  · simp [closed, Phase.accepts]
  · simp [closed, Phase.accepts, writePhase, Phase.write, withRecovery]

theorem welcome_eq (now : Instant) (s : Session) :
    s.welcome now =
      if s.phase = .connecting then
        { s with
          phase := if s.registry.records.isEmpty then .draining else .resubscribing
          consumer := { s.consumer with
            online := true
            recovery := some
              (if s.registry.records.isEmpty then ⟨.draining, now⟩
              else ⟨.resubscribing s.registry.records s.registry.records.length, now⟩) }
          effects := s.effects ++ hooked s.hooks.online .online }
      else s.withRecovery none := by
  unfold welcome
  by_cases connecting : s.phase = .connecting
  · simp only [connecting, ↓reduceIte, submitHook_eq, writePhase, Phase.write, Phase.accepts]
    cases records : s.registry.records with
    | nil => simp [enterDraining_eq]
    | cons record rest => simp [withRecovery]
  · simp only [connecting, ↓reduceIte]

/-- Whether one more acknowledgment of a restored subscription ends the resubscription. -/
def awaitsLast (s : Session) : Bool := s.consumer.recovery.any fun r => (settled r).isSettled

theorem settleResubscribe_eq (now : Instant) (s : Session) :
    ∃ consumer,
      s.settleResubscribe now =
        { s with phase := if s.awaitsLast then s.phase.write .draining else s.phase, consumer } ∧
      (consumer.recovery.isSome → s.consumer.recovery.isSome) := by
  unfold settleResubscribe awaitsLast
  cases stage : s.consumer.recovery with
  | none =>
    refine ⟨s.consumer, rfl, ?_⟩
    rw [stage]
    exact id
  | some r =>
    by_cases last : (settled r).isSettled = true
    · simp only [last, ↓reduceIte, Option.any_some, enterDraining_eq, withRecovery]
      by_cases closed : s.phase = .userDisconnect
      · simp only [closed, ↓reduceIte]
        exact ⟨{ s.consumer with recovery := none }, rfl, fun _ => rfl⟩
      · simp only [closed, ↓reduceIte, Phase.write_of_open _ _ closed]
        exact ⟨_, rfl, fun _ => rfl⟩
    · simp only [last, Bool.false_eq_true, ↓reduceIte, Option.any_some, withRecovery]
      exact ⟨_, rfl, fun _ => rfl⟩

theorem acknowledge_unknown (now : Instant) (id : RequestId) (ack : Ack) (s : Session)
    (unknown : s.pending.find? id = none) : s.acknowledge now id ack = s := by
  simp only [acknowledge, PendingTable.take?, unknown, Option.map_none]

theorem acknowledge_eq (now : Instant) (id : RequestId) (ack : Ack) (entry : PendingEntry)
    (s : Session) (found : s.pending.find? id = some entry) :
    ∃ consumer,
      s.acknowledge now id ack =
        { s with
          pending := s.pending.erase id
          registry := s.registry.acknowledged entry.effect ack
          phase := if entry.resubscribe && s.awaitsLast then s.phase.write .draining else s.phase
          consumer
          effects := s.effects ++ told id entry.responder ack } ∧
      (consumer.recovery.isSome → s.consumer.recovery.isSome) := by
  simp only [acknowledge, PendingTable.take?, found, Option.map_some, respond_eq]
  by_cases restored : entry.resubscribe = true
  · obtain ⟨consumer, settled, kept⟩ := settleResubscribe_eq now
      { s with
        pending := s.pending.erase id
        registry := s.registry.acknowledged entry.effect ack }
    refine ⟨consumer, ?_, kept⟩
    simp only [restored, ↓reduceIte, Bool.true_and, settled]
    rfl
  · refine ⟨s.consumer, ?_, fun up => up⟩
    simp only [restored, Bool.false_eq_true, ↓reduceIte, Bool.false_and]

theorem deliver_eq (m : Message) (s : Session) :
    ∃ consumer effects,
      s.deliver m = { s with consumer, effects := s.effects ++ effects } ∧
      consumer.recovery = s.consumer.recovery ∧ ∀ e ∈ effects, e.isHook := by
  have observed := hooked_isHook s.hooks.message (.observe · m) fun _ => rfl
  have unhandled := hooked_isHook s.hooks.unhandled (.unhandled · m) fun _ => rfl
  simp only [deliver, submitHook_eq]
  cases s.registry.routing m.topic with
  | error fault => exact ⟨_, _, rfl, rfl, observed⟩
  | ok found =>
    cases found with
    | none =>
      refine ⟨s.consumer, hooked s.hooks.message (.observe · m) ++
        hooked s.hooks.unhandled (.unhandled · m), ?_, rfl, ?_⟩
      · simp only [List.append_assoc]
      · intro e member
        exact (List.mem_append.mp member).elim (observed e) (unhandled e)
    | some record =>
      refine ⟨s.consumer, hooked s.hooks.message (.observe · m) ++
        [.submitted (.deliver record.handler m)], ?_, rfl, ?_⟩
      · simp only [submit, emit, List.append_assoc]
      · intro e member
        rcases List.mem_append.mp member with observing | delivering
        · exact observed e observing
        · rw [List.mem_singleton.mp delivering]
          rfl

def turnAway (s : Session) : Session :=
  if s.phase = .connecting then
    { (s.withRecovery none).writePhase .idle with epoch := s.epoch + 1 }.stopTimer.emit .stoppedIo
  else s.withRecovery none

def hangUp (code : UInt8) (s : Session) : Session :=
  let left := s.goOffline.withRecovery none
  match s.phase with
  | .userDisconnect =>
    { (left.answer .disconnect (.disconnected code)).emit .stoppedIo with pending := {} }
  | .idle => left
  | .connecting => { left.stopTimer with signals := left.signals ++ [s.epoch] }
  | _ =>
    let lost := left.loseSession.stopTimer
    { lost with signals := lost.signals ++ [s.epoch] }

/-- What the end of a network session comes to, by the phase in which it is noticed. -/
inductive HungUp (code : UInt8) (s : Session) : Session → Prop where
  | closed (phase : s.phase = .userDisconnect) :
      HungUp code s
        { s with
          consumer := { s.consumer with online := false, recovery := none }
          pending := {}
          effects := s.effects ++
            (s.farewell ++ (answered s.pending .disconnect (.disconnected code) ++ [.stoppedIo])) }
  | idle (phase : s.phase = .idle) :
      HungUp code s
        { s with
          consumer := { s.consumer with online := false, recovery := none }
          effects := s.effects ++ s.farewell }
  | connecting (phase : s.phase = .connecting) :
      HungUp code s
        { s with
          consumer := { s.consumer with online := false, recovery := none }
          backoff := s.backoff.stopTimer
          signals := s.signals ++ [s.epoch]
          effects := s.effects ++ s.farewell }
  | lost (established : s.phase.isConnected ∨ s.phase = .abnormalDisconnect) :
      HungUp code s
        { s with
          phase := .abnormalDisconnect
          consumer := { s.consumer with online := false, recovery := none }
          pending := s.pending.withoutPackets
          queue := s.queue.restore ((s.unanswered.filter s.isKept).filterMap (·.2.replayed))
          backoff := s.backoff.stopTimer
          signals := s.signals ++ [s.epoch]
          effects := s.effects ++
            (s.farewell ++ discarded (s.unanswered.filter fun entry => !s.isKept entry)) }

theorem hangUp_hungUp (code : UInt8) (s : Session) : HungUp code s (s.hangUp code) := by
  have lost (established : s.phase.isConnected ∨ s.phase = .abnormalDisconnect) :
      HungUp code s
        (let t := (s.goOffline.withRecovery none).loseSession.stopTimer
         { t with signals := t.signals ++ [s.epoch] }) := by
    have opened : s.phase ≠ .userDisconnect := by
      intro closed
      simp [closed, Phase.isConnected] at established
    simp only [goOffline_eq, withRecovery, loseSession_eq, stopTimer,
      Phase.write_of_open _ _ opened, List.append_assoc]
    exact .lost established
  unfold hangUp
  cases phase : s.phase with
  | userDisconnect =>
    simp only [goOffline_eq, withRecovery, answer_eq, emit, List.append_assoc]
    exact .closed phase
  | idle =>
    simp only [goOffline_eq, withRecovery]
    exact .idle phase
  | connecting =>
    simp only [goOffline_eq, withRecovery, stopTimer]
    exact .connecting phase
  | abnormalDisconnect => exact lost (.inr phase)
  | resubscribing | draining | stable => exact lost (.inl (by rw [phase]; rfl))

def handle (now : Instant) (e : Event) (s : Session) : Session :=
  match e.kind with
  | .connack code =>
    let answered := s.answer .connect (.connected code)
    if code = 0 then answered.welcome now else answered.turnAway
  | .disconnect code => s.hangUp code
  | .puback => s.acknowledge now e.id .published
  | .suback answer => s.acknowledge now e.id (.subscribed answer)
  | .unsuback => s.acknowledge now e.id .unsubscribed
  | .message m => s.deliver m

/-- What the handling of an event comes to. -/
inductive Handled (now : Instant) (e : Event) (s : Session) : Session → Prop where
  | welcomed (kind : e.kind = .connack 0) (connecting : s.phase = .connecting) :
      Handled now e s
        { s with
          phase := if s.registry.records.isEmpty then .draining else .resubscribing
          consumer := { s.consumer with
            online := true
            recovery := some
              (if s.registry.records.isEmpty then ⟨.draining, now⟩
              else ⟨.resubscribing s.registry.records s.registry.records.length, now⟩) }
          pending := s.pending.erase .connect
          effects := s.effects ++ (answered s.pending .connect (.connected 0) ++
            hooked s.hooks.online .online) }
  | turnedAway (code : UInt8) (kind : e.kind = .connack code) (refused : code ≠ 0)
      (connecting : s.phase = .connecting) :
      Handled now e s
        { s with
          phase := .idle
          epoch := s.epoch + 1
          backoff := s.backoff.stopTimer
          consumer := { s.consumer with recovery := none }
          pending := s.pending.erase .connect
          effects := s.effects ++ (answered s.pending .connect (.connected code) ++ [.stoppedIo]) }
  /-- An answer to an attempt that was given up. -/
  | unheeded (code : UInt8) (kind : e.kind = .connack code) (elsewhere : s.phase ≠ .connecting) :
      Handled now e s
        { s with
          consumer := { s.consumer with recovery := none }
          pending := s.pending.erase .connect
          effects := s.effects ++ answered s.pending .connect (.connected code) }
  | hungUp (code : UInt8) (kind : e.kind = .disconnect code) (t : Session)
      (hungUp : HungUp code s t) : Handled now e s t
  | unknown (ack : Ack) (of : e.ack? = some ack) (unknown : s.pending.find? e.id = none) :
      Handled now e s s
  | acknowledged (ack : Ack) (of : e.ack? = some ack) (entry : PendingEntry)
      (found : s.pending.find? e.id = some entry) (consumer : Consumer)
      (kept : consumer.recovery.isSome → s.consumer.recovery.isSome) :
      Handled now e s
        { s with
          pending := s.pending.erase e.id
          registry := s.registry.acknowledged entry.effect ack
          phase := if entry.resubscribe && s.awaitsLast then s.phase.write .draining else s.phase
          consumer
          effects := s.effects ++ told e.id entry.responder ack }
  | delivered (m : Message) (kind : e.kind = .message m) (consumer : Consumer)
      (effects : List Effect) (same : consumer.recovery = s.consumer.recovery)
      (hooks : ∀ x ∈ effects, x.isHook) :
      Handled now e s { s with consumer, effects := s.effects ++ effects }

theorem acknowledge_handled (now : Instant) (e : Event) (ack : Ack) (of : e.ack? = some ack)
    (s : Session) : Handled now e s (s.acknowledge now e.id ack) := by
  cases found : s.pending.find? e.id with
  | none =>
    rw [acknowledge_unknown now e.id ack s found]
    exact .unknown ack of found
  | some entry =>
    obtain ⟨consumer, settled, kept⟩ := acknowledge_eq now e.id ack entry s found
    rw [settled]
    exact .acknowledged ack of entry found consumer kept

theorem handle_handled (now : Instant) (e : Event) (s : Session) :
    Handled now e s (s.handle now e) := by
  unfold handle
  cases kind : e.kind with
  | connack code =>
    simp only [answer_eq]
    by_cases accepted : code = 0
    · rw [if_pos accepted, welcome_eq]
      by_cases connecting : s.phase = .connecting
      · rw [if_pos connecting, List.append_assoc, accepted]
        exact .welcomed (by rw [kind, accepted]) connecting
      · rw [if_neg connecting]
        exact .unheeded code kind connecting
    · rw [if_neg accepted]
      unfold turnAway
      by_cases connecting : s.phase = .connecting
      · rw [if_pos connecting]
        simp only [stopTimer, emit, withRecovery, writePhase, List.append_assoc]
        have idle : s.phase.write .idle = .idle := by rw [connecting]; rfl
        rw [idle]
        exact .turnedAway code kind accepted connecting
      · rw [if_neg connecting]
        exact .unheeded code kind connecting
  | disconnect code => exact .hungUp code kind _ (hangUp_hungUp code s)
  | puback => exact acknowledge_handled now e .published (by simp [Event.ack?, kind]) s
  | suback answer => exact acknowledge_handled now e (.subscribed answer) (by simp [Event.ack?, kind]) s
  | unsuback => exact acknowledge_handled now e .unsubscribed (by simp [Event.ack?, kind]) s
  | message m =>
    obtain ⟨consumer, effects, delivered, same, hooks⟩ := deliver_eq m s
    simp only [delivered]
    exact .delivered m kind consumer effects same hooks

theorem Handled.uncalled {now : Instant} {e : Event} {s t : Session} (handled : Handled now e s t) :
    ∃ effects, t.effects = s.effects ++ effects ∧ Uncalled effects := by
  have leaving : Uncalled s.farewell := .hooks s.farewell_isHook
  have answering := answered_uncalled s.pending .connect
  cases handled with
  | welcomed kind connecting =>
    exact ⟨_, rfl, (answering _).append (.hooks (hooked_isHook _ _ fun _ => rfl))⟩
  | turnedAway code kind refused connecting => exact ⟨_, rfl, (answering _).append (.single rfl)⟩
  | unheeded code kind elsewhere => exact ⟨_, rfl, answering _⟩
  | hungUp code kind t hungUp =>
    cases hungUp with
    | closed phase => exact ⟨_, rfl, leaving.append ((answered_uncalled _ _ _).append (.single rfl))⟩
    | idle phase => exact ⟨_, rfl, leaving⟩
    | connecting phase => exact ⟨_, rfl, leaving⟩
    | lost established => exact ⟨_, rfl, leaving.append (discarded_uncalled _)⟩
  | unknown ack of unknown => exact ⟨[], (List.append_nil _).symm, .nil⟩
  | acknowledged ack of entry found consumer kept => exact ⟨_, rfl, told_uncalled _ _ _⟩
  | delivered m kind consumer effects same hooks => exact ⟨_, rfl, .hooks hooks⟩

def paceNow (engine : Engine) (now : Instant) (s : Session) : Session :=
  if s.phase = .resubscribing ∨ s.phase = .draining then
    match s.consumer.recovery with
    | some ⟨.draining, _⟩ => s.drainOne engine now s.settings.drainingInterval
    | some ⟨.resubscribing .., _⟩ => s.resubscribeOne engine now s.settings.drainingInterval
    | none => s
  else s.withRecovery none

variable {engine : Engine} {now : Instant}

theorem carryOut_running (fuel : Nat) (chore : Chore) (rest : List Chore) (s : Session)
    (running : (s.perform engine now chore).2.consumer.halted = false) :
    carryOut engine now (fuel + 1) (chore :: rest) s =
      carryOut engine now fuel ((s.perform engine now chore).1 ++ rest)
        (s.perform engine now chore).2 := by
  simp only [carryOut, running, Bool.false_eq_true, ↓reduceIte]

theorem carryOut_leaf (fuel : Nat) (chore : Chore) (s : Session)
    (leaf : (s.perform engine now chore).1 = []) :
    carryOut engine now (fuel + 1) [chore] s = (s.perform engine now chore).2 := by
  have finished : ∀ t, carryOut engine now fuel [] t = t := by
    intro t
    cases fuel <;> rfl
  simp only [carryOut, leaf, List.append_nil, finished, ite_self]

theorem carryOut_turnAway (s : Session) (running : s.consumer.halted = false) :
    carryOut engine now 3 [.refuse] s = s.turnAway := by
  unfold turnAway
  by_cases connecting : s.phase = .connecting
  · simp [carryOut, perform, refuse, withRecovery, writePhase, stopTimer, emit, connecting, running]
  · simp [carryOut, perform, refuse, withRecovery, connecting, running]

theorem carryOut_hangUp (code : UInt8) (s : Session) (running : s.consumer.halted = false) :
    carryOut engine now 6 [.readEpoch code] s = s.hangUp code := by
  unfold hangUp
  have same : (s.goOffline.withRecovery none).phase = s.phase := by
    rw [goOffline_eq]
    rfl
  have left : (s.goOffline.withRecovery none).consumer.halted = false := by
    rw [goOffline_eq]
    exact running
  cases phase : s.phase <;>
    simp [carryOut, perform, leave, same, phase, running, left, answer_eq, loseSession_eq, emit,
      stopTimer]

theorem carryOutAll_handle (engine : Engine) (e : Event) (s : Session) (running : s.consumer.halted = false) :
    s.carryOutAll engine now e.chores = s.handle now e := by
  unfold carryOutAll handle Event.chores
  cases e.kind with
  | connack code =>
    have running' : (s.answer .connect (.connected code)).consumer.halted = false := by
      rw [answer_eq]
      exact running
    by_cases accepted : code = 0
    · simp only [accepted, ↓reduceIte] at running' ⊢
      exact (carryOut_running 1 (.answer .connect (.connected 0)) [.welcome] s running').trans
        (carryOut_leaf 0 .welcome _ rfl)
    · simp only [accepted, ↓reduceIte]
      exact (carryOut_running 3 (.answer .connect (.connected code)) [.refuse] s running').trans
        (carryOut_turnAway _ running')
  | disconnect code => exact carryOut_hangUp code s running
  | puback => exact carryOut_leaf _ _ s rfl
  | suback answer => exact carryOut_leaf _ _ s rfl
  | unsuback => exact carryOut_leaf _ _ s rfl
  | message m => exact carryOut_leaf _ _ s rfl

inductive Dispatched (now : Instant) (s : Session) : Session → Prop where
  | idle (none : s.nextEvent? = none) : Dispatched now s s
  | handled (e : Event) (next : s.nextEvent? = some e) (t : Session)
      (handled : Handled now e { s with events := s.events.next.2 } t) : Dispatched now s t

theorem running_of_nextEvent? {e : Event} {s : Session} (next : s.nextEvent? = some e) :
    s.consumer.halted = false := by
  by_contra halted
  simp [nextEvent?, halted] at next

theorem dispatch_eq {e : Event} (s : Session) (next : s.nextEvent? = some e) :
    s.dispatch engine now = handle now e { s with events := s.events.next.2 } := by
  have running := running_of_nextEvent? next
  rw [← carryOutAll_handle engine e { s with events := s.events.next.2 } running]
  simp only [dispatch, next]

theorem dispatch_dispatched (s : Session) : Dispatched now s (s.dispatch engine now) := by
  cases next : s.nextEvent? with
  | none =>
    have idle : s.dispatch engine now = s := by simp only [dispatch, next]
    rw [idle]
    exact .idle next
  | some e =>
    rw [dispatch_eq s next]
    exact .handled e next _ (handle_handled now e _)

theorem tick_eq (s : Session) :
    s.tick engine now =
      if !s.consumer.halted && s.isDue now then s.paceNow engine now else s := by
  unfold tick
  cases halted : s.consumer.halted with
  | true => rfl
  | false =>
    cases due : s.isDue now with
    | false =>
      simp [carryOutAll, carryOut, Chore.totalWeight, Chore.weight, perform, halted, due]
    | true =>
      simp only [carryOutAll, Chore.totalWeight, Chore.weight, carryOut, perform, due, ↓reduceIte,
        halted, Bool.false_eq_true, List.cons_append, List.nil_append]
      unfold pace paceNow
      by_cases recovering : s.phase = .resubscribing ∨ s.phase = .draining
      · simp only [recovering, ↓reduceIte]
        cases stage : s.consumer.recovery with
        | none => simp [halted, carryOut]
        | some recovery =>
          obtain ⟨stageNow, deadline⟩ := recovery
          cases stageNow with
          | draining =>
            simp only [halted, Bool.false_eq_true, ↓reduceIte, List.append_nil]
            exact carryOut_leaf 0 _ s rfl
          | resubscribing unsent outstanding =>
            simp only [halted, Bool.false_eq_true, ↓reduceIte, List.append_nil]
            exact carryOut_leaf 0 _ s rfl
      · simp [recovering, withRecovery, halted, carryOut]

end DurableMqtt.Session
