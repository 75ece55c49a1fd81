import DurableMqtt.Proofs.Run.Answering

/-!
A request is asked for as a whole or not at all.

By its phase, a session either parks a request without a word to the engine, or sends it and leaves
its queue alone. Whatever goes wrong on the way is answered with its cause and leaves the table, the
queue and the registry as they were. The one exception is a full queue that gives up its head: its
caller is told of a full queue, and the request is parked all the same.
-/

namespace DurableMqtt

namespace OfflineQueue

variable {α : Type}

def isFull (q : OfflineQueue α) : Bool :=
  match q.capacity with
  | .bounded limit => limit ≤ q.items.length
  | _ => false

/-- What becomes of an item that is to be parked, by the state that the queue is in. -/
inductive Admits (q : OfflineQueue α) (item : α) : Appended × OfflineQueue α → Prop where
  | stored (enabled : q.isDisabled = false) (room : q.isFull = false) :
      Admits q item (.stored, { q with items := q.items ++ [item] })
  | disabled (disabled : q.isDisabled = true) : Admits q item (.disabled, q)
  | turnedAway (full : q.isFull = true) (policy : q.policy = .dropNewest) :
      Admits q item (.full, q)
  | displacing (full : q.isFull = true) (policy : q.policy = .dropOldest) (oldest : α)
      (rest : List α) (items : q.items = oldest :: rest) :
      Admits q item (.full, { q with items := rest ++ [item] })

end OfflineQueue

def Appended.answer (kind : RequestKind) : Appended → Except SessionError RequestId
  | stored => .ok .queued
  | full => .error (.queueFull kind)
  | disabled => .error (.queueDisabled kind)

namespace Session

/-- A request as it is taken on: without a caller that waits, since that one returns at once. -/
def taken (s : Session) (request : Request) (caller : Caller) : Accepted :=
  ⟨s.nextTicket, request.withListener caller.listener⟩

/-! ### Requests -/

theorem route_rejected (request : Request) (caller : Caller) (s : Session)
    (invalid : request.hasValidTopic = false) :
    s.route engine request caller =
      (.error (.invalidArgument
        ("Cannot " ++ request.kind.text ++ " invalid topic " ++ Text.quoted request.topic)),
        s) := by
  have same : (request.withListener caller.listener).hasValidTopic = false := invalid
  unfold route
  simp only [same, Bool.not_false, ↓reduceIte]
  rfl

theorem route_sent (request : Request) (caller : Caller) (s : Session)
    (valid : request.hasValidTopic = true) (ready : s.phase.isRecovering = false) :
    s.route engine request caller =
      match engine request.call with
      | .ok number =>
        (.ok (.packet number),
          { s with
            nextTicket := s.nextTicket + 1
            pending := s.pending.insert (.packet number)
              (entryOf (s.taken request caller) caller.responder)
            effects := s.effects ++ [.called request.call (.ok number) (some s.nextTicket)] })
      | .error cause =>
        (.error (.refused request.kind cause),
          { s with
            effects := s.effects ++
              [.called request.call (.error cause) (some s.nextTicket)] }) := by
  have same : (request.withListener caller.listener).hasValidTopic = true := valid
  have call : (request.withListener caller.listener).call = request.call := rfl
  unfold route
  simp only [same, ready, Bool.not_true, Bool.false_eq_true, ↓reduceIte, accept, issue_eq, call]
  cases engine request.call <;> rfl

/-! ### Connecting -/

theorem capacity_after (m : Move) (s : Session) :
    (s.after m).queue.capacity = s.queue.capacity ∨
      ∃ n, (s.after m).queue.capacity = .ofInt n := by
  obtain ⟨step, engine⟩ := m
  cases step with
  | configureQueue capacity policy => exact .inr ⟨capacity, rfl⟩
  | request request caller =>
    have routed : Routed engine _ _ s (s.route engine request caller) :=
      route_routed request caller s
    change (s.route engine request caller).2.queue.capacity = _ ∨ _
    generalize s.route engine request caller = result at routed ⊢
    cases routed <;> exact .inl rfl
  | dispatch now =>
    have dispatched : Dispatched now s (s.dispatch engine now) := dispatch_dispatched s
    change (s.dispatch engine now).queue.capacity = _ ∨ _
    generalize s.dispatch engine now = t at dispatched ⊢
    cases dispatched with
    | idle none => exact .inl rfl
    | handled e next t handled =>
      cases handled with
      | hungUp code kind t hungUp => cases hungUp <;> exact .inl rfl
      | _ => exact .inl rfl
  | tick now =>
    have paced : Paced engine s (s.tick engine now) := tick_paced s
    change (s.tick engine now).queue.capacity = _ ∨ _
    generalize s.tick engine now = t at paced ⊢
    cases paced <;> exact .inl rfl
  | _ =>
    refine .inl (congrArg OfflineQueue.capacity (untouched _ s rfl ?_ ?_).1)
    · exact fun _ _ => Step.noConfusion
    · exact fun _ _ => Step.noConfusion

/-- In every state that a run comes to, the bound of the queue is read from a signed number. -/
theorem capacity_run (settings : Settings) (moves : List Move) :
    ∃ n, (run moves (start settings)).queue.capacity = .ofInt n := by
  have first : ∃ n, (start settings).queue.capacity = .ofInt n := ⟨settings.queueCapacity, rfl⟩
  generalize start settings = s at first ⊢
  induction moves generalizing s with
  | nil => exact first
  | cons m rest ih =>
    refine ih (s.after m) ?_
    rcases capacity_after m s with same | read
    · rw [same]
      exact first
    · exact read

/-! ### The whole of it -/

end Session

end DurableMqtt
