import DurableMqtt.Proofs.Queue
import DurableMqtt.Proofs.Run.Outcome

/-!
What becomes of a session that asks something of its engine: the operations of the application,
the paced steps of the recovery and the attempts of the supervisor.
-/

namespace DurableMqtt

theorem Request.call_id (r : Request) (number : UInt32) : r.call.id number = .packet number := by
  unfold call
  cases r.action <;> rfl

namespace Session

variable {engine : Engine} {now : Instant}

theorem send_ok (call : EngineCall) (entry : PendingEntry) (number : UInt32) (s : Session)
    (taken : engine call = .ok number) :
    s.send engine call entry =
      (.ok (call.id number),
        { s with
          pending := s.pending.insert (call.id number) entry
          effects := s.effects ++
            [.called call (.ok number) (entry.replay.map Accepted.ticket)] }) := by
  simp only [send, taken, Except.map, PendingTable.register, emit]

theorem send_error (call : EngineCall) (entry : PendingEntry) (cause : EngineError) (s : Session)
    (refused : engine call = .error cause) :
    s.send engine call entry =
      (.error cause,
        { s with
          effects := s.effects ++
            [.called call (.error cause) (entry.replay.map Accepted.ticket)] }) := by
  simp only [send, refused, Except.map, PendingTable.register, emit]

/-! ### The application -/

theorem connect_eq (caller : Caller) (s : Session) :
    s.connect engine caller =
      if s.phase.acceptsConnect then
        match engine (.connect s.settings.keepAlive) with
        | .ok number =>
          (.ok .connect,
            { s with
              phase := .connecting
              epoch := s.epoch + 1
              pending := s.pending.insert .connect { responder := caller.responder }
              effects := s.effects ++
                [.called (.connect s.settings.keepAlive) (.ok number) none] })
        | .error cause =>
          (.error (.refused .connect cause),
            { s with
              phase := .idle
              epoch := s.epoch + 1
              effects := s.effects ++
                [.called (.connect s.settings.keepAlive) (.error cause) none] })
      else (.error (.invalidState .connect s.phase), s) := by
  unfold connect
  by_cases free : s.phase.acceptsConnect = true
  · simp only [free, ↓reduceIte, sendConnect, writePhase, Phase.write_connecting]
    cases answer : engine (.connect s.settings.keepAlive) with
    | ok number =>
      rw [send_ok _ _ number _ answer]
      rfl
    | error cause =>
      rw [send_error _ _ cause _ answer]
      rfl
  · simp only [free, Bool.false_eq_true, ↓reduceIte]

theorem disconnect_eq (caller : Caller) (s : Session) :
    s.disconnect engine caller =
      let closed := { s with
        phase := .userDisconnect
        epoch := s.epoch + 1
        backoff := s.backoff.stopTimer
        pending := s.pending.insert .disconnect { responder := caller.responder } }
      if s.phase.isConnected then
        match engine .disconnect with
        | .ok number =>
          (.ok .disconnect,
            { closed with effects := s.effects ++ [.called .disconnect (.ok number) none] })
        | .error cause =>
          (.ok .disconnect,
            { closed with
              events := s.events.push (.disconnect 0)
              effects := s.effects ++ [.called .disconnect (.error cause) none] })
      else (.ok .disconnect, { closed with events := s.events.push (.disconnect 0) }) := by
  unfold disconnect
  by_cases connected : s.phase.isConnected = true
  · simp only [connected, ↓reduceIte, sendDisconnect, writePhase, Phase.write_userDisconnect,
      stopTimer]
    cases answer : engine .disconnect with
    | ok number =>
      rw [send_ok _ _ number _ answer]
      rfl
    | error cause =>
      rw [send_error _ _ cause _ answer]
      rfl
  · simp only [connected, Bool.false_eq_true, ↓reduceIte, writePhase, Phase.write_userDisconnect,
      stopTimer, disconnectLocally, push]

def entryOf (a : Accepted) (responder : Option Responder) : PendingEntry :=
  { responder, effect := a.request.effect, replay := some a }

theorem issue_eq (a : Accepted) (responder : Option Responder) (s : Session) :
    s.issue engine a responder =
      match engine a.request.call with
      | .ok number =>
        (.ok (.packet number),
          { s with
            pending := s.pending.insert (.packet number) (entryOf a responder)
            effects := s.effects ++ [.called a.request.call (.ok number) (some a.ticket)] })
      | .error cause =>
        (.error cause,
          { s with
            effects := s.effects ++ [.called a.request.call (.error cause) (some a.ticket)] }) := by
  unfold issue
  cases answer : engine a.request.call with
  | ok number =>
    rw [send_ok _ _ number _ answer, Request.call_id]
    rfl
  | error cause =>
    rw [send_error _ _ cause _ answer]
    rfl

/-- What asking for a request can come to. The answer is kept with the session it leaves. -/
inductive Routed (engine : Engine) (a : Accepted) (responder : Option Responder) (s : Session) :
    Except SessionError RequestId × Session → Prop where
  | rejected (cause : SessionError) : Routed engine a responder s (.error cause, s)
  | parked (recovering : s.phase.isRecovering = true) :
      Routed engine a responder s
        (.ok .queued,
          { s with
            queue := { s.queue with items := s.queue.items ++ [a] }
            nextTicket := s.nextTicket + 1 })
  | evicting (cause : SessionError) (limit : Nat) (capacity : s.queue.capacity = .bounded limit)
      (full : limit ≤ s.queue.items.length) (policy : s.queue.policy = .dropOldest)
      (recovering : s.phase.isRecovering = true) :
      Routed engine a responder s
        (.error cause,
          { s with
            queue := { s.queue with items := s.queue.items.drop 1 ++ [a] }
            nextTicket := s.nextTicket + 1 })
  | sent (number : UInt32) (taken : engine a.request.call = .ok number)
      (ready : s.phase.isRecovering = false) :
      Routed engine a responder s
        (.ok (.packet number),
          { s with
            nextTicket := s.nextTicket + 1
            pending := s.pending.insert (.packet number) (entryOf a responder)
            effects := s.effects ++ [.called a.request.call (.ok number) (some a.ticket)] })
  | refused (error : SessionError) (cause : EngineError)
      (refused : engine a.request.call = .error cause) (ready : s.phase.isRecovering = false) :
      Routed engine a responder s
        (.error error,
          { s with
            effects := s.effects ++ [.called a.request.call (.error cause) (some a.ticket)] })

theorem route_routed (request : Request) (caller : Caller) (s : Session) :
    Routed engine ⟨s.nextTicket, request.withListener caller.listener⟩ caller.responder s
      (s.route engine request caller) := by
  unfold route
  generalize request.withListener caller.listener = requested
  cases valid : requested.hasValidTopic with
  | false =>
    simp only [valid, Bool.not_false, ↓reduceIte]
    exact .rejected _
  | true =>
    cases recovering : s.phase.isRecovering with
    | false =>
      simp only [valid, Bool.not_true, Bool.false_eq_true, ↓reduceIte, accept, issue_eq]
      cases answer : engine requested.call with
      | ok number => exact .sent number answer recovering
      | error cause => exact .refused _ cause answer recovering
    | true =>
      simp only [valid, Bool.not_true, Bool.false_eq_true, ↓reduceIte, accept]
      have appends := s.queue.append_appends ⟨s.nextTicket, requested⟩
      generalize s.queue.append ⟨s.nextTicket, requested⟩ = appended at appends ⊢
      cases appends with
      | stored => exact .parked recovering
      | disabled disabled => exact .rejected _
      | turnedAway limit capacity full policy =>
        simp only [policy, reduceCtorEq, ↓reduceIte]
        exact .rejected _
      | evicting limit capacity full policy =>
        simp only [policy, ↓reduceIte]
        rw [← policy]
        exact .evicting _ limit capacity full policy recovering

/-! ### Paced steps -/

structure Onward (s : Session) (phase : Phase) (consumer : Consumer) : Prop where
  phase : phase = s.phase ∨ s.phase.isConnected ∧ phase.isConnected
  /-- No recovery is taken up. -/
  recovery : consumer.recovery.isSome → s.consumer.recovery.isSome

theorem Onward.rest (s : Session) : Onward s s.phase s.consumer := ⟨.inl rfl, id⟩

theorem scheduleTick_eq (now : Instant) (interval : Duration) (s : Session) :
    ∃ consumer, s.scheduleTick now interval = { s with consumer } ∧
      (consumer.recovery.isSome → s.consumer.recovery.isSome) := by
  unfold scheduleTick
  cases stage : s.consumer.recovery with
  | none =>
    refine ⟨s.consumer, rfl, ?_⟩
    rw [stage]
    exact id
  | some r =>
    cases now.after? interval with
    | none => exact ⟨_, rfl, fun _ => rfl⟩
    | some nextTick => exact ⟨_, rfl, fun _ => rfl⟩

def settleTick (now : Instant) (interval : Duration) (s : Session) : Session :=
  let t := s.scheduleTick now interval
  if t.consumer.halted then t
  else if t.consumer.recovery.any Recovery.isSettled then t.enterDraining now
  else t

theorem settleTick_eq (now : Instant) (interval : Duration) (s : Session)
    (connected : s.phase.isConnected) :
    ∃ phase consumer, s.settleTick now interval = { s with phase, consumer } ∧
      Onward s phase consumer := by
  unfold settleTick
  obtain ⟨consumer, scheduled, kept⟩ := scheduleTick_eq now interval s
  simp only [scheduled]
  by_cases halted : consumer.halted = true
  · simp only [halted, ↓reduceIte]
    exact ⟨s.phase, consumer, rfl, .inl rfl, kept⟩
  · simp only [halted, Bool.false_eq_true, ↓reduceIte]
    by_cases settled : consumer.recovery.any Recovery.isSettled = true
    · have opened : s.phase ≠ .userDisconnect := by
        rintro closed
        simp [closed, Phase.isConnected] at connected
      have up : consumer.recovery.isSome := by
        cases stage : consumer.recovery with
        | none => simp [stage] at settled
        | some r => rfl
      simp only [settled, ↓reduceIte, enterDraining_eq, opened]
      exact ⟨_, _, rfl, .inr ⟨connected, rfl⟩, fun _ => kept up⟩
    · simp only [settled, Bool.false_eq_true, ↓reduceIte]
      exact ⟨s.phase, consumer, rfl, .inl rfl, kept⟩

def restoring (record : Subscription) : PendingEntry :=
  { responder := record.onAck.map .pooled, effect := .subscribe record, resubscribe := true }

theorem resubscribe_eq (record : Subscription) (s : Session) :
    s.resubscribe engine record =
      match engine (.subscribe record.topic record.qos) with
      | .ok number =>
        (.ok (.packet number),
          { s with
            pending := s.pending.insert (.packet number) (restoring record)
            effects := s.effects ++
              [.called (.subscribe record.topic record.qos) (.ok number) none] })
      | .error cause =>
        (.error cause,
          { s with
            effects := s.effects ++
              [.called (.subscribe record.topic record.qos) (.error cause) none] }) := by
  unfold resubscribe
  cases answer : engine (.subscribe record.topic record.qos) with
  | ok number =>
    rw [send_ok _ _ number _ answer]
    rfl
  | error cause =>
    rw [send_error _ _ cause _ answer]
    rfl

def unsent (s : Session) : List Subscription :=
  match s.consumer.recovery with
  | some ⟨.resubscribing unsent _, _⟩ => unsent
  | _ => []

inductive Paced (engine : Engine) (s : Session) : Session → Prop where
  /-- Nothing is sent. -/
  | rested (phase : Phase) (consumer : Consumer) (backoff : Backoff)
      (onward : Onward s phase consumer) :
      Paced engine s { s with phase, consumer, backoff }
  | restored (record : Subscription) (number : UInt32) (phase : Phase) (consumer : Consumer)
      (onward : Onward s phase consumer)
      (taken : engine (.subscribe record.topic record.qos) = .ok number)
      (unsent : record ∈ s.unsent) :
      Paced engine s
        { s with
          phase, consumer
          pending := s.pending.insert (.packet number) (restoring record)
          effects := s.effects ++
            [.called (.subscribe record.topic record.qos) (.ok number) none] }
  | notRestored (record : Subscription) (cause : EngineError) (phase : Phase)
      (consumer : Consumer) (onward : Onward s phase consumer) :
      Paced engine s
        { s with
          phase, consumer
          effects := s.effects ++
            [.called (.subscribe record.topic record.qos) (.error cause) none] }
  | replayed (a : Accepted) (rest : List Accepted) (number : UInt32) (consumer : Consumer)
      (onward : Onward s s.phase consumer)
      (head : s.queue.items = a :: rest) (taken : engine a.request.call = .ok number) :
      Paced engine s
        { s with
          consumer
          queue := { s.queue with items := rest }
          pending := s.pending.insert (.packet number) (entryOf a (a.request.onAck.map .pooled))
          effects := s.effects ++ [.called a.request.call (.ok number) (some a.ticket)] }
  | putBack (a : Accepted) (rest : List Accepted) (cause : EngineError) (consumer : Consumer)
      (onward : Onward s s.phase consumer)
      (head : s.queue.items = a :: rest) (refused : engine a.request.call = .error cause)
      (transient : cause.isTransient = true) :
      Paced engine s
        { s with
          consumer
          effects := s.effects ++ [.called a.request.call (.error cause) (some a.ticket)] }
  | discarded (a : Accepted) (rest : List Accepted) (cause : EngineError) (consumer : Consumer)
      (onward : Onward s s.phase consumer)
      (head : s.queue.items = a :: rest) (refused : engine a.request.call = .error cause)
      (permanent : cause.isTransient = false) :
      Paced engine s
        { s with
          consumer
          queue := { s.queue with items := rest }
          effects := s.effects ++ [.called a.request.call (.error cause) (some a.ticket)] ++
            told .queued (a.request.onAck.map .pooled) .discarded }

theorem drainOne_paced (interval : Duration) (s : Session) (connected : s.phase.isConnected) :
    Paced engine s (s.drainOne engine now interval) := by
  unfold drainOne OfflineQueue.pop
  cases items : s.queue.items with
  | nil =>
    by_cases opened : s.phase.accepts .stable = true
    · simp only [opened, ↓reduceIte, writePhase, Phase.write]
      refine .rested .stable _ _ ⟨.inr ⟨connected, rfl⟩, fun up => ?_⟩
      exact absurd up Bool.false_ne_true
    · simp only [opened, Bool.false_eq_true, ↓reduceIte]
      exact .rested s.phase _ s.backoff ⟨.inl rfl, fun up => absurd up Bool.false_ne_true⟩
  | cons a rest =>
    simp only [replayHead, issue_eq]
    cases answer : engine a.request.call with
    | ok number =>
      obtain ⟨consumer, scheduled, kept⟩ := scheduleTick_eq now interval
        { s with
          queue := { s.queue with items := rest }
          pending := s.pending.insert (.packet number) (entryOf a (a.request.onAck.map .pooled))
          effects := s.effects ++ [.called a.request.call (.ok number) (some a.ticket)] }
      simp only [scheduled]
      exact .replayed a rest number consumer ⟨.inl rfl, kept⟩ items answer
    | error cause =>
      cases transient : cause.isTransient with
      | true =>
        simp only [transient, ↓reduceIte, OfflineQueue.restore, List.cons_append, List.nil_append]
        obtain ⟨consumer, scheduled, kept⟩ := scheduleTick_eq now interval
          { s with
            effects := s.effects ++ [.called a.request.call (.error cause) (some a.ticket)] }
        have same : ({ s.queue with items := a :: rest } : OfflineQueue Accepted) = s.queue := by
          rw [← items]
        rw [same, scheduled]
        exact .putBack a rest cause consumer ⟨.inl rfl, kept⟩ items answer transient
      | false =>
        simp only [transient, Bool.false_eq_true, ↓reduceIte, respond_eq]
        obtain ⟨consumer, scheduled, kept⟩ := scheduleTick_eq now interval
          { s with
            queue := { s.queue with items := rest }
            effects := s.effects ++ [.called a.request.call (.error cause) (some a.ticket)] ++
              told .queued (a.request.onAck.map .pooled) .discarded }
        rw [scheduled]
        exact .discarded a rest cause consumer ⟨.inl rfl, kept⟩ items answer transient

theorem resubscribeOne_paced (interval : Duration) (s : Session) (connected : s.phase.isConnected) :
    Paced engine s (s.resubscribeOne engine now interval) := by
  unfold resubscribeOne
  cases stage : s.consumer.recovery with
  | none => exact .rested s.phase s.consumer s.backoff (.rest s)
  | some r =>
    have up : s.consumer.recovery.isSome := by rw [stage]; rfl
    change Paced engine s ((s.resubscribeNext engine r).settleTick now interval)
    match r with
    | ⟨.draining, _⟩ | ⟨.resubscribing [] _, _⟩ =>
      obtain ⟨phase, consumer, settled, onward⟩ := settleTick_eq now interval s connected
      simp only [resubscribeNext, settled]
      exact .rested phase consumer s.backoff onward
    | ⟨.resubscribing (record :: unsent) outstanding, nextTick⟩ =>
      simp only [resubscribeNext, resubscribe_eq]
      cases answer : engine (.subscribe record.topic record.qos) with
      | ok number =>
        simp only [Except.isOk, Except.toBool, ↓reduceIte, withRecovery]
        obtain ⟨phase, consumer, settled, onward⟩ := settleTick_eq now interval
          { s with
            pending := s.pending.insert (.packet number) (restoring record)
            effects := s.effects ++
              [Effect.called (.subscribe record.topic record.qos) (.ok number) none]
            consumer := { s.consumer with
              recovery := some ⟨.resubscribing unsent outstanding, nextTick⟩ } } connected
        rw [settled]
        refine .restored record number phase consumer ⟨onward.phase, fun _ => up⟩ answer ?_
        rw [Session.unsent, stage]
        exact List.mem_cons_self
      | error cause =>
        simp only [Except.isOk, Except.toBool, Bool.false_eq_true, ↓reduceIte, withRecovery]
        obtain ⟨phase, consumer, settled, onward⟩ := settleTick_eq now interval
          { s with
            effects := s.effects ++
              [Effect.called (.subscribe record.topic record.qos) (.error cause) none]
            consumer := { s.consumer with
              recovery := some ⟨.resubscribing unsent (outstanding - 1), nextTick⟩ } } connected
        rw [settled]
        exact .notRestored record cause phase consumer ⟨onward.phase, fun _ => up⟩

theorem tick_paced (s : Session) : Paced engine s (s.tick engine now) := by
  rw [tick_eq]
  split
  · unfold paceNow
    split
    next recovering =>
      have connected : s.phase.isConnected := by
        rcases recovering with phase | phase <;> rw [phase] <;> rfl
      split
      · exact drainOne_paced _ s connected
      · exact resubscribeOne_paced _ s connected
      · exact .rested s.phase s.consumer s.backoff (.rest s)
    next =>
      exact .rested s.phase _ s.backoff ⟨.inl rfl, fun up => absurd up Bool.false_ne_true⟩
  · exact .rested s.phase s.consumer s.backoff (.rest s)

/-! ### The supervisor -/

end Session

/-- The epoch at which the supervisor still means to reconnect. -/
def Supervisor.expected? : Supervisor → Option Nat
  | idle | stopped => none
  | engaged expected | cancelling expected => some expected
  | quiet expected .. | attempting expected _ => some expected

namespace Session

inductive Supervised (engine : Engine) (s : Session) : Session → Prop where
  | rested : Supervised engine s s
  /-- The reconnect that is under way goes on. -/
  | moved (expected : Nat) (supervisor : Supervisor) (backoff : Backoff)
      (engaged : s.supervisor.expected? = some expected)
      (same : supervisor.expected? = some expected) :
      Supervised engine s { s with supervisor, backoff }
  | stopped (interrupted : s.interrupted = true) :
      Supervised engine s { s with supervisor := .stopped }
  | collected (first : Nat) (rest : List Nat) (idle : s.supervisor = .idle)
      (signals : s.signals = first :: rest) :
      Supervised engine s
        { s with supervisor := .engaged (rest.foldl max first), signals := [] }
  /-- The reconnect is given up. -/
  | released (expected : Nat) (engaged : s.supervisor.expected? = some expected)
      (stale : s.epoch ≠ expected ∨ s.phase = .userDisconnect) :
      Supervised engine s { s with supervisor := .idle }
  | connected (slept : Duration) (number : UInt32)
      (attempting : s.supervisor = .attempting s.epoch slept) (opened : s.phase ≠ .userDisconnect)
      (taken : engine (.connect s.settings.keepAlive) = .ok number) :
      Supervised engine s
        { s with
          phase := .connecting
          epoch := s.epoch + 1
          supervisor := .idle
          pending := s.pending.insert .connect {}
          effects := s.effects ++ [.called (.connect s.settings.keepAlive) (.ok number) none] }
  | refused (slept : Duration) (cause : EngineError)
      (attempting : s.supervisor = .attempting s.epoch slept) (opened : s.phase ≠ .userDisconnect)
      (answer : engine (.connect s.settings.keepAlive) = .error cause) :
      Supervised engine s
        { s with
          phase := .connecting
          epoch := s.epoch + 1
          supervisor := .engaged (s.epoch + 1)
          effects := s.effects ++
            [.called (.connect s.settings.keepAlive) (.error cause) none] }

theorem attempt_supervised (expected : Nat) (slept : Duration) (s : Session)
    (attempting : s.supervisor = .attempting expected slept) :
    Supervised engine s (s.attempt engine) := by
  unfold attempt
  simp only [attempting]
  by_cases current : s.epoch = expected ∧ s.phase ≠ .userDisconnect
  · obtain ⟨rfl, opened⟩ := current
    simp only [opened, true_and, ne_eq, not_false_eq_true, ↓reduceIte, sendConnect, writePhase,
      Phase.write_connecting]
    cases answer : engine (.connect s.settings.keepAlive) with
    | ok number =>
      rw [send_ok _ _ number _ answer]
      exact .connected slept number attempting opened answer
    | error cause =>
      rw [send_error _ _ cause _ answer]
      exact .refused slept cause attempting opened answer
  · simp only [current, ↓reduceIte]
    have engaged : s.supervisor.expected? = some expected := by rw [attempting]; rfl
    refine .released expected engaged ?_
    by_cases same : s.epoch = expected
    · exact .inr (by_contra fun opened => current ⟨same, opened⟩)
    · exact .inl same

theorem supervise_supervised (s : Session) : Supervised engine s (s.supervise engine now) := by
  unfold supervise
  by_cases interrupted : s.interrupted = true
  · rw [if_pos interrupted]
    exact .stopped interrupted
  · rw [if_neg interrupted]
    cases stage : s.supervisor with
    | idle =>
      simp only [collect, stage]
      cases signals : s.signals with
      | nil => exact .rested
      | cons first rest => exact .collected first rest stage signals
    | engaged expected =>
      have engaged : s.supervisor.expected? = some expected := by rw [stage]; rfl
      simp only [engage, stage]
      by_cases closed : s.phase = .userDisconnect
      · rw [if_pos closed]
        exact .released expected engaged (.inr closed)
      · rw [if_neg closed]
        exact .moved expected _ s.backoff engaged rfl
    | cancelling expected =>
      have engaged : s.supervisor.expected? = some expected := by rw [stage]; rfl
      simp only [fallQuiet, stage]
      exact .moved expected _ _ engaged rfl
    | quiet expected slept wakeAt =>
      have engaged : s.supervisor.expected? = some expected := by rw [stage]; rfl
      simp only
      split
      · simp only [wake, stage]
        exact .moved expected _ _ engaged rfl
      · exact .rested
    | attempting expected slept => exact attempt_supervised expected slept s stage
    | stopped => exact .rested

/-! ### Settings -/

theorem adjust_eq (adjustment : Adjustment) (s : Session) :
    ∃ settings hooks backoff, s.adjust adjustment = { s with settings, hooks, backoff } := by
  cases adjustment with
  | backoff base max stable =>
    simp only [adjust, configureBackoff]
    cases Timing.make base max stable with
    | ok timing => exact ⟨_, _, _, rfl⟩
    | error cause => exact ⟨_, _, _, rfl⟩
  | _ => exact ⟨_, _, _, rfl⟩

end Session

end DurableMqtt
