import DurableMqtt.Proofs.Pending
import DurableMqtt.Proofs.Run.Frame

/-!
What the consumer does about the requests and messages of a session that is up.

None of it ends a network session or tells the application of one, and none of it touches the
entries that wait for something other than the acknowledgment of a request.
-/

namespace DurableMqtt

def Effect.isRoutine : Effect → Bool
  | stoppedIo | submitted (.online _) | submitted (.offline _) => false
  | _ => true

namespace Session

/-- What the second session has done since the first has nothing to do with the session as such:
neither with its network connection nor with the hooks about it, and only with entries of packets. -/
structure Routine (s t : Session) : Prop where
  effects : ∃ effects, t.effects = s.effects ++ effects ∧ ∀ e ∈ effects, e.isRoutine = true
  entry : ∀ id, (∀ entry, PendingTable.asPacket? (id, entry) = none) →
    t.pending.find? id = s.pending.find? id
  online : t.consumer.online = s.consumer.online
  hooks : t.hooks = s.hooks

variable {s t u : Session} {engine : Engine} {now : Instant}

theorem told_isRoutine (id : RequestId) (responder : Option Responder) (ack : Ack) :
    ∀ e ∈ told id responder ack, e.isRoutine = true := by
  intro e member
  unfold told at member
  split at member
  · rw [List.mem_singleton.mp member]
    rfl
  · rw [List.mem_singleton.mp member]
    rfl
  · exact absurd member List.not_mem_nil

theorem answered_isRoutine (table : PendingTable) (id : RequestId) (ack : Ack) :
    ∀ e ∈ answered table id ack, e.isRoutine = true := by
  unfold answered
  split
  · exact told_isRoutine _ _ _
  · exact fun e member => absurd member List.not_mem_nil

theorem discarded_isRoutine (entries : List (UInt32 × PendingEntry)) :
    ∀ e ∈ discarded entries, e.isRoutine = true := by
  intro e member
  obtain ⟨entry, -, telling⟩ := List.mem_flatMap.mp member
  exact told_isRoutine _ _ _ e telling

namespace Routine

theorem of_append (effects : List Effect) (appended : t.effects = s.effects ++ effects)
    (plain : ∀ e ∈ effects, e.isRoutine = true)
    (entry : ∀ id, (∀ entry, PendingTable.asPacket? (id, entry) = none) →
      t.pending.find? id = s.pending.find? id)
    (online : t.consumer.online = s.consumer.online) (hooks : t.hooks = s.hooks) : Routine s t :=
  ⟨⟨effects, appended, plain⟩, entry, online, hooks⟩

theorem of_same (effects : t.effects = s.effects) (pending : t.pending = s.pending)
    (online : t.consumer.online = s.consumer.online) (hooks : t.hooks = s.hooks) : Routine s t :=
  of_append [] (effects.trans (List.append_nil _).symm) (fun _ member => absurd member List.not_mem_nil)
    (fun _ _ => by rw [pending]) online hooks

theorem of_call {call : EngineCall} {answer : Except EngineError UInt32} {ticket : Option Nat}
    (appended : t.effects = s.effects ++ [.called call answer ticket])
    (entry : ∀ id, (∀ entry, PendingTable.asPacket? (id, entry) = none) →
      t.pending.find? id = s.pending.find? id)
    (online : t.consumer.online = s.consumer.online) (hooks : t.hooks = s.hooks) :
    Routine s t := by
  refine of_append _ appended (fun e member => ?_) entry online hooks
  rw [List.mem_singleton.mp member]
  rfl

theorem refl (s : Session) : Routine s s := of_same rfl rfl rfl rfl

theorem trans (first : Routine s t) (second : Routine t u) : Routine s u := by
  obtain ⟨early, there, plain⟩ := first.effects
  obtain ⟨late, here, plain'⟩ := second.effects
  refine of_append (early ++ late) ?_ ?_ ?_ (second.online.trans first.online)
    (second.hooks.trans first.hooks)
  · rw [here, there, List.append_assoc]
  · exact fun e member => (List.mem_append.mp member).elim (plain e) (plain' e)
  · exact fun id other => (second.entry id other).trans (first.entry id other)

theorem insert_packet (number : UInt32) (entry : PendingEntry) (table : PendingTable) (id : RequestId)
    (other : ∀ entry, PendingTable.asPacket? (id, entry) = none) :
    (table.insert (.packet number) entry).find? id = table.find? id := by
  refine PendingTable.find?_insert_of_ne ?_ entry
  rintro rfl
  exact absurd (other entry) (Option.some_ne_none _)

theorem enterDraining (s : Session) : Routine s (s.enterDraining now) := by
  rw [enterDraining_eq]
  split <;> exact of_same rfl rfl rfl rfl

theorem scheduleTick (interval : Duration) (s : Session) :
    Routine s (s.scheduleTick now interval) := by
  unfold Session.scheduleTick
  split
  · exact refl s
  · split <;> exact of_same rfl rfl rfl rfl

theorem respond (id : RequestId) (responder : Option Responder) (ack : Ack) (s : Session) :
    Routine s (s.respond id responder ack) := by
  rw [respond_eq]
  exact of_append _ rfl (told_isRoutine _ _ _) (fun _ _ => rfl) rfl rfl

theorem answer (id : RequestId) (ack : Ack) (s : Session) :
    Routine { s with pending := s.pending.erase id } (s.answer id ack) := by
  rw [answer_eq]
  exact of_append _ rfl (answered_isRoutine _ _ _) (fun _ _ => rfl) rfl rfl

theorem settleResubscribe (s : Session) : Routine s (s.settleResubscribe now) := by
  unfold Session.settleResubscribe
  split
  · exact refl s
  next r _ =>
    have counted : Routine s (s.withRecovery (some (settled r))) := of_same rfl rfl rfl rfl
    simp only
    split
    · exact counted.trans (enterDraining _)
    · exact counted

theorem acknowledge (id : RequestId) (ack : Ack) (s : Session) :
    Routine { s with pending := s.pending.erase id } (s.acknowledge now id ack) := by
  unfold Session.acknowledge PendingTable.take?
  cases found : s.pending.find? id with
  | none =>
    simp only [Option.map_none]
    exact of_same rfl (PendingTable.erase_of_find?_none _ _ found).symm rfl rfl
  | some entry =>
    have registered : Routine { s with pending := s.pending.erase id }
        { s with
          pending := s.pending.erase id
          registry := s.registry.acknowledged entry.effect ack } := of_same rfl rfl rfl rfl
    simp only [Option.map_some]
    split
    · exact (registered.trans (settleResubscribe _)).trans (respond _ _ _ _)
    · exact registered.trans (respond _ _ _ _)

theorem loseSession (s : Session) : Routine s s.loseSession := by
  rw [loseSession_eq]
  exact of_append _ rfl (discarded_isRoutine _) (fun _ other => PendingTable.find?_withoutPackets other)
    rfl rfl

theorem submitHook (hook : Option Callback) (job : Callback → Job)
    (plain : ∀ callback, (Effect.submitted (job callback)).isRoutine = true) (s : Session) :
    Routine s (s.submitHook hook job) := by
  rw [submitHook_eq]
  refine of_append _ rfl (fun e member => ?_) (fun _ _ => rfl) rfl rfl
  cases hook with
  | none => exact absurd member List.not_mem_nil
  | some callback =>
    rw [List.mem_singleton.mp member]
    exact plain callback

theorem deliver (message : Message) (s : Session) : Routine s (s.deliver message) := by
  have observed : Routine s (s.submitHook s.hooks.message (.observe · message)) :=
    submitHook _ _ (fun _ => rfl) s
  unfold Session.deliver
  simp only
  split
  · exact observed.trans (of_same rfl rfl rfl rfl)
  next record _ =>
    refine observed.trans (of_append [_] rfl (fun e member => ?_) (fun _ _ => rfl) rfl rfl)
    rw [List.mem_singleton.mp member]
    rfl
  · exact observed.trans (submitHook _ _ (fun _ => rfl) _)

theorem pace (s : Session) : Routine s s.pace.2 := by
  unfold Session.pace
  split
  · simp only
    split <;> exact refl s
  · exact of_same rfl rfl rfl rfl

theorem resubscribeNext (r : Recovery) (s : Session) : Routine s (s.resubscribeNext engine r) := by
  unfold Session.resubscribeNext
  split
  next record unsent outstanding stage =>
    rw [resubscribe_eq]
    cases engine (.subscribe record.topic record.qos) with
    | ok number => exact of_call rfl (insert_packet number _ _) rfl rfl
    | error cause => exact of_call rfl (fun _ _ => rfl) rfl rfl
  next => exact refl s

theorem resubscribeOne (interval : Duration) (s : Session) :
    Routine s (s.resubscribeOne engine now interval) := by
  unfold Session.resubscribeOne
  cases s.consumer.recovery with
  | none => exact refl s
  | some r =>
    have sent : Routine s ((s.resubscribeNext engine r).scheduleTick now interval) :=
      (resubscribeNext r s).trans (scheduleTick interval _)
    simp only
    split
    · exact sent
    · split
      · exact sent.trans (enterDraining _)
      · exact sent

theorem replayHead (a : Accepted) (s : Session) : Routine s (s.replayHead engine a) := by
  unfold Session.replayHead
  rw [issue_eq]
  cases engine a.request.call with
  | ok number => exact of_call rfl (insert_packet number _ _) rfl rfl
  | error cause =>
    have called : Routine s { s with
        effects := s.effects ++ [.called a.request.call (.error cause) (some a.ticket)] } :=
      of_call rfl (fun _ _ => rfl) rfl rfl
    simp only
    split
    · exact called.trans (of_same rfl rfl rfl rfl)
    · exact called.trans (respond _ _ _ _)

theorem drainOne (interval : Duration) (s : Session) :
    Routine s (s.drainOne engine now interval) := by
  unfold Session.drainOne
  split
  · simp only
    split <;> exact of_same rfl rfl rfl rfl
  next a queue popped =>
    have taken : Routine s { s with queue } := of_same rfl rfl rfl rfl
    exact (taken.trans (replayHead a _)).trans (scheduleTick interval _)

theorem tick (s : Session) : Routine s (s.tick engine now) := by
  rw [tick_eq]
  split
  · unfold paceNow
    split
    · split
      · exact drainOne _ s
      · exact resubscribeOne _ s
      · exact refl s
    · exact of_same rfl rfl rfl rfl
  · exact refl s

theorem route (request : Request) (caller : Caller) (s : Session) :
    Routine s (s.route engine request caller).2 := by
  have routed : Routed engine _ _ s (s.route engine request caller) := route_routed request caller s
  generalize s.route engine request caller = result at routed ⊢
  cases routed with
  | sent number taken ready => exact of_call rfl (insert_packet number _ _) rfl rfl
  | refused error cause refused ready => exact of_call rfl (fun _ _ => rfl) rfl rfl
  | _ => exact of_same rfl rfl rfl rfl

end Routine

end Session

end DurableMqtt
