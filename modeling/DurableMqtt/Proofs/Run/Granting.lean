import DurableMqtt.Proofs.Registry
import DurableMqtt.Proofs.Run.Admission
import DurableMqtt.Proofs.Run.Interleaving

/-!
The subscriptions of a run as the history of its acknowledgments.

An acknowledgment changes the registry if it finds the entry of its request and reports success.
Nothing else changes the registry, and what is left to be sent again is not changed with it.
-/

namespace DurableMqtt

/-- The change that the acknowledgment of a request makes, if it reports success. -/
def RegistryEffect.change? (effect : RegistryEffect) (ack : Ack) : Option Registry.Change :=
  match effect, ack with
  | .subscribe record, .subscribed (.granted _) => some (.grant record)
  | .unsubscribe topic, .unsubscribed => some (.withdraw topic)
  | _, _ => Option.none

theorem effect_of_grant {effect : RegistryEffect} {ack : Ack} {record : Subscription}
    (grants : effect.change? ack = some (.grant record)) : effect = .subscribe record := by
  unfold RegistryEffect.change? at grants
  split at grants <;> cases grants
  rfl

theorem Registry.acknowledged_eq (r : Registry) (effect : RegistryEffect) (ack : Ack) :
    r.acknowledged effect ack = (effect.change? ack).elim r r.apply := by
  cases effect with
  | none => rfl
  | unsubscribe topic => cases ack <;> rfl
  | subscribe record =>
    cases ack with
    | subscribed answer => cases answer <;> rfl
    | _ => rfl

/-- A call of the run made the request, which answers to the listener of the caller. -/
def Request.AskedIn (moves : List Move) (r : Request) : Prop :=
  ∃ m ∈ moves, ∃ request caller, m.step = .request request caller ∧ request.hasValidTopic = true ∧
    (r = request.withListener caller.listener ∨
      r = request.withListener (caller.responder.map Responder.listener))

def Subscription.AskedIn (moves : List Move) (record : Subscription) : Prop :=
  ∃ r : Request, r.AskedIn moves ∧ r.effect = .subscribe record

/-- What an entry waits for: the answer to a CONNECT or DISCONNECT, or the acknowledgment of a
subscription that is sent again or of a request, both of which were asked for. -/
inductive PendingEntry.AskedIn (moves : List Move) (e : PendingEntry) : Prop where
  | answer (plain : e = { responder := e.responder })
  | restored (record : Subscription) (same : e = Session.restoring record)
    (asked : record.AskedIn moves)
  | sent (a : Accepted) (same : e = Session.entryOf a e.responder)
    (asked : a.request.AskedIn moves)
    (again : (a.request.withListener e.listener).AskedIn moves)

namespace Session

def change? (m : Move) (s : Session) : Option Registry.Change :=
  ((dispatched? m s).bind (settledBy? · s)).bind fun (entry, ack) => entry.effect.change? ack

def changesAlong : List Move → Session → List Registry.Change
  | [], _ => []
  | m :: rest, s => (change? m s).toList ++ changesAlong rest (s.after m)

/-- The subscriptions as they were when the last session was taken up. -/
def snapshotAlong : List Move → Session → List Subscription → List Subscription
  | [], _, snapshot => snapshot
  | m :: rest, s, snapshot =>
    snapshotAlong rest (s.after m) (if welcomes m s then s.registry.records else snapshot)

variable {s : Session} {m : Move} {moves : List Move} {snapshot : List Subscription}
  {engine : Engine} {now : Instant}

/-! ### Changes -/

theorem registry_change (m : Move) (s : Session) :
    (s.after m).registry = (change? m s).elim s.registry s.registry.apply := by
  rw [registry_after, change?]
  cases (dispatched? m s).bind (settledBy? · s) with
  | none => rfl
  | some settled => exact Registry.acknowledged_eq _ _ _

theorem registry_run (moves : List Move) (s : Session) :
    (run moves s).registry = (changesAlong moves s).foldl Registry.apply s.registry := by
  induction moves generalizing s with
  | nil => rfl
  | cons m rest ih =>
    rw [run, ih, registry_change, changesAlong, List.foldl_append]
    cases change? m s <;> rfl

/-! ### Changes between two chores -/

def choreChange? (chore : Chore) (s : Session) : Option Registry.Change :=
  match chore with
  | .acknowledge id ack => (s.pending.find? id).bind fun entry => entry.effect.change? ack
  | _ => none

def actChange? (a : Act) (s : Session) : Option Registry.Change :=
  match a, s.consumer.chores with
  | .work _ _, chore :: _ => choreChange? chore s
  | _, _ => none

def changesOf : List Act → Session → List Registry.Change
  | [], _ => []
  | a :: rest, s => (actChange? a s).toList ++ changesOf rest (s.act a)

theorem registry_enterDraining (s : Session) : (s.enterDraining now).registry = s.registry := by
  rw [enterDraining_eq]
  split <;> rfl

theorem registry_scheduleTick (interval : Duration) (s : Session) :
    (s.scheduleTick now interval).registry = s.registry := by
  obtain ⟨consumer, scheduled, -⟩ := scheduleTick_eq now interval s
  rw [scheduled]

theorem registry_drainOne (interval : Duration) (s : Session) :
    (s.drainOne engine now interval).registry = s.registry := by
  unfold drainOne
  split
  · split <;> rfl
  · rw [registry_scheduleTick]
    simp only [replayHead, issue_eq]
    cases engine _ with
    | ok number => rfl
    | error cause =>
      simp only [respond_eq]
      split <;> rfl

theorem registry_resubscribeOne (interval : Duration) (s : Session) :
    (s.resubscribeOne engine now interval).registry = s.registry := by
  unfold resubscribeOne
  cases s.consumer.recovery with
  | none => rfl
  | some r =>
    have sent : (s.resubscribeNext engine r).registry = s.registry := by
      unfold resubscribeNext
      split
      · simp only [resubscribe_eq]
        split <;> rfl
      · rfl
    simp only
    split
    · rw [registry_scheduleTick, sent]
    · split
      · rw [registry_enterDraining, registry_scheduleTick, sent]
      · rw [registry_scheduleTick, sent]

theorem registry_perform (chore : Chore) (s : Session) :
    (s.perform engine now chore).2.registry =
      (choreChange? chore s).elim s.registry s.registry.apply := by
  cases chore with
  | answer id ack =>
    change (s.answer id ack).registry = s.registry
    rw [answer_eq]
  | welcome =>
    change (s.welcome now).registry = s.registry
    rw [welcome_eq]
    split <;> rfl
  | refuse =>
    change s.refuse.2.registry = s.registry
    unfold refuse
    simp only
    split <;> rfl
  | leave code epoch =>
    change (s.leave code epoch).2.registry = s.registry
    unfold leave
    simp only [goOffline_eq]
    split <;> rfl
  | loseSession =>
    change s.loseSession.registry = s.registry
    rw [loseSession_eq]
  | acknowledge id ack =>
    change (s.acknowledge now id ack).registry = _
    cases found : s.pending.find? id with
    | none =>
      rw [acknowledge_unknown now id ack s found]
      simp [choreChange?, found]
    | some entry =>
      obtain ⟨consumer, settled, -⟩ := acknowledge_eq now id ack entry s found
      rw [settled]
      simp only [choreChange?, found]
      exact Registry.acknowledged_eq _ _ _
  | deliver m =>
    obtain ⟨consumer, effects, delivered, -, -⟩ := deliver_eq m s
    change (s.deliver m).registry = s.registry
    rw [delivered]
  | pace =>
    change s.pace.2.registry = s.registry
    unfold pace
    simp only
    split
    · split <;> rfl
    · rfl
  | resubscribeOne interval => exact registry_resubscribeOne interval s
  | drainOne interval => exact registry_drainOne interval s
  | readEpoch | stopTimer | stopIo | clearPending | requestReconnect | checkDue => rfl

theorem registry_act (a : Act) (s : Session) :
    (s.act a).registry = (actChange? a s).elim s.registry s.registry.apply := by
  cases a with
  | move m others =>
    have undispatched : dispatched? m s = none := by
      unfold dispatched?
      split
      next now step => simp [Move.isConsumers, step] at others
      next => rfl
    change (s.after m).registry = s.registry
    rw [registry_after, undispatched]
    rfl
  | turn now =>
    change (s.turn now).registry = s.registry
    unfold turn
    split
    · rfl
    · split
      · rfl
      · split <;> rfl
      · rfl
  | work engine now =>
    change (s.work engine now).registry = _
    cases chores : s.consumer.chores with
    | nil => simp [work, actChange?, chores]
    | cons chore rest =>
      have performed : (perform engine now chore (s.withChores rest)).2.registry =
          (choreChange? chore s).elim s.registry s.registry.apply :=
        registry_perform chore (s.withChores rest)
      have working : (s.work engine now).registry =
          (perform engine now chore (s.withChores rest)).2.registry := by
        simp only [work, chores]
        split <;> rfl
      rw [working, performed]
      simp only [actChange?, chores]

theorem registry_acted (acts : List Act) (s : Session) :
    (acted acts s).registry = (changesOf acts s).foldl Registry.apply s.registry := by
  induction acts generalizing s with
  | nil => rfl
  | cons a rest ih =>
    rw [acted, ih, registry_act, changesOf, List.foldl_append]
    cases actChange? a s <;> rfl

/-! ### One acknowledgment -/

theorem change?_of_found {e : Event} {entry : PendingEntry} (dispatched : dispatched? m s = some e)
    (found : s.pending.find? e.id = some entry) :
    change? m s = e.ack?.bind entry.effect.change? := by
  rw [change?, dispatched, Option.bind_some, settledBy?, found]
  cases e.ack? <;> rfl

theorem change?_of_unfound {e : Event} (dispatched : dispatched? m s = some e)
    (unfound : s.pending.find? e.id = none) : change? m s = none := by
  rw [change?, dispatched, Option.bind_some, settledBy?, unfound]
  cases e.ack? <;> rfl

theorem change?_of_failure {e : Event} (dispatched : dispatched? m s = some e)
    (refused : e.kind = .suback .failure) : change? m s = none := by
  rw [change?, dispatched, Option.bind_some, settledBy?, Event.ack?, refused, Option.bind_some]
  cases s.pending.find? e.id with
  | none => rfl
  | some entry => cases effect : entry.effect <;> simp [effect, RegistryEffect.change?]

/-! ### Snapshots -/

theorem unsent_run (part : s.unsent <:+ snapshot) (moves : List Move) :
    (run moves s).unsent <:+ snapshotAlong moves s snapshot := by
  induction moves generalizing s snapshot with
  | nil => exact part
  | cons m rest ih =>
    apply ih
    have unsent := unsent_after m s
    split at unsent
    next welcome => rw [if_pos welcome, unsent]
    next other =>
      rw [if_neg other]
      exact unsent.trans part

/-! ### Where subscriptions come from -/

structure Asked (moves : List Move) (s : Session) : Prop where
  parked : ∀ a ∈ s.queue.items, a.request.AskedIn moves
  table : ∀ entry ∈ s.pending.entries, entry.2.AskedIn moves
  records : ∀ record ∈ s.registry.records, record.AskedIn moves
  unsent : ∀ record ∈ s.unsent, record.AskedIn moves

theorem asked_request_mono {r : Request} (asked : r.AskedIn moves) (m : Move) :
    r.AskedIn (moves ++ [m]) := by
  obtain ⟨earlier, member, request, caller, step, valid, same⟩ := asked
  exact ⟨earlier, List.mem_append_left _ member, request, caller, step, valid, same⟩

theorem asked_record_mono {record : Subscription} (asked : record.AskedIn moves) (m : Move) :
    record.AskedIn (moves ++ [m]) := by
  obtain ⟨r, requested, same⟩ := asked
  exact ⟨r, asked_request_mono requested m, same⟩

theorem asked_entry_mono {e : PendingEntry} (asked : e.AskedIn moves) (m : Move) :
    e.AskedIn (moves ++ [m]) := by
  cases asked with
  | answer plain => exact .answer plain
  | restored record same asked => exact .restored record same (asked_record_mono asked m)
  | sent a same asked again =>
    exact .sent a same (asked_request_mono asked m) (asked_request_mono again m)

theorem Asked.mono (asked : Asked moves s) (m : Move) : Asked (moves ++ [m]) s where
  parked a member := asked_request_mono (asked.parked a member) m
  table entry member := asked_entry_mono (asked.table entry member) m
  records record member := asked_record_mono (asked.records record member) m
  unsent record member := asked_record_mono (asked.unsent record member) m

theorem Asked.start (settings : Settings) : Asked [] (start settings) where
  parked _ member := absurd member List.not_mem_nil
  table _ member := absurd member List.not_mem_nil
  records _ member := absurd member List.not_mem_nil
  unsent _ member := absurd member List.not_mem_nil

theorem source_of_asked {e : PendingEntry} (asked : e.AskedIn moves) {record : Subscription}
    (grants : e.effect = .subscribe record) :
    e = restoring record ∨
      ∃ a, e.replay = some a ∧ a.request.AskedIn moves ∧ a.request.effect = .subscribe record := by
  cases asked with
  | answer plain =>
    rw [plain] at grants
    cases grants
  | restored other same asked =>
    rw [same] at grants
    cases grants
    exact Or.inl same
  | sent a same asked again =>
    rw [same] at grants
    exact Or.inr ⟨a, congrArg PendingEntry.replay same, asked, grants⟩

theorem granted_of_asked {e : PendingEntry} (asked : e.AskedIn moves) {record : Subscription}
    (grants : e.effect = .subscribe record) : record.AskedIn moves := by
  rcases source_of_asked asked grants with rfl | ⟨a, -, asked, effect⟩
  · cases asked with
    | answer plain => cases congrArg PendingEntry.effect plain
    | restored other same asked =>
      cases congrArg PendingEntry.effect same
      exact asked
    | sent a same asked again => cases congrArg PendingEntry.replay same
  · exact ⟨a.request, asked, effect⟩

theorem replayed_of_asked {e : PendingEntry} (asked : e.AskedIn moves) {a : Accepted}
    (parks : e.replayed = some a) : a.request.AskedIn moves := by
  obtain ⟨sent, keeps, rfl⟩ := Option.map_eq_some_iff.mp parks
  cases asked with
  | answer plain => cases (congrArg PendingEntry.replay plain).symm.trans keeps
  | restored record same asked => cases (congrArg PendingEntry.replay same).symm.trans keeps
  | sent b same asked again =>
    cases (congrArg PendingEntry.replay same).symm.trans keeps
    exact again

theorem sent_of_asked {e : PendingEntry} (asked : e.AskedIn moves) {a : Accepted}
    (keeps : e.replay = some a) : a.request.AskedIn moves ∧ e.effect = a.request.effect := by
  cases asked with
  | answer plain => cases (congrArg PendingEntry.replay plain).symm.trans keeps
  | restored record same asked => cases (congrArg PendingEntry.replay same).symm.trans keeps
  | sent b same asked again =>
    cases (congrArg PendingEntry.replay same).symm.trans keeps
    exact ⟨asked, congrArg PendingEntry.effect same⟩

theorem after_of_invalid {request : Request} {caller : Caller}
    (step : m.step = .request request caller) (invalid : request.hasValidTopic = false)
    (s : Session) : s.after m = s := by
  unfold after
  rw [step]
  exact congrArg Prod.snd (route_rejected request caller s invalid)

theorem Asked.after_of_valid (asked : Asked moves s)
    (valid : ∀ request caller, m.step = .request request caller → request.hasValidTopic = true) :
    Asked (moves ++ [m]) (s.after m) := by
  have passed := passes m s
  have before := asked.mono m
  have here {request : Request} {caller : Caller} {r : Request}
      (step : m.step = .request request caller)
      (same : r = request.withListener caller.listener ∨
        r = request.withListener (caller.responder.map Responder.listener)) :
      r.AskedIn (moves ++ [m]) :=
    ⟨m, by simp, request, caller, step, valid request caller step, same⟩
  constructor
  case parked =>
    intro a member
    cases passed.parks a member with
    | before parked => exact before.parked a parked
    | asked request caller step recovering same =>
      rw [same]
      exact here step (.inl rfl)
    | replayed entry stood again => exact replayed_of_asked (before.table entry stood) again
  case table =>
    intro entry member
    cases passed.table with
    | kept untaken entries =>
      rcases entries entry member with old | ⟨-, plain, -⟩
      · exact before.table entry old
      · exact .answer plain
    | restored record unsent number effects pending =>
      rw [pending] at member
      rcases mem_insert member with old | new
      · exact before.table entry old
      · exact .restored record (congrArg Prod.snd new) (before.unsent record unsent)
    | replayed a rest head number effects pending =>
      rw [pending] at member
      rcases mem_insert member with old | new
      · exact before.table entry old
      · have parked := before.parked a (by rw [head]; exact List.mem_cons_self)
        have heard : (entryOf a (a.request.onAck.map .pooled)).listener = a.request.onAck :=
          listener_pooled _
        rw [new]
        apply PendingEntry.AskedIn.sent a rfl parked
        rw [heard]
        exact parked
    | asked request caller step ready a same number effects pending =>
      rw [pending] at member
      rcases mem_insert member with old | new
      · exact before.table entry old
      · rw [new, same]
        exact .sent _ rfl (here step (.inl rfl)) (here step (.inr rfl))
  case records =>
    intro record member
    rcases passed.grants record member with old | ⟨entry, stood, grants⟩
    · exact before.records record old
    · exact granted_of_asked (before.table entry stood) grants
  case unsent =>
    intro record member
    rcases passed.unsent record member with old | granted
    · exact before.unsent record old
    · exact before.records record granted

theorem Asked.after (asked : Asked moves s) (m : Move) : Asked (moves ++ [m]) (s.after m) := by
  by_cases invalid : ∃ request caller, m.step = .request request caller ∧
      request.hasValidTopic = false
  · obtain ⟨request, caller, step, invalid⟩ := invalid
    rw [after_of_invalid step invalid]
    exact asked.mono m
  · apply asked.after_of_valid
    intro request caller step
    by_contra other
    exact invalid ⟨request, caller, step, Bool.eq_false_of_not_eq_true other⟩

theorem asked_run (settings : Settings) (moves : List Move) :
    Asked moves (run moves (start settings)) := by
  induction moves using List.reverseRecOn with
  | nil => exact .start settings
  | append_singleton moves m ih =>
    rw [run_append]
    exact ih.after m

theorem Asked.change?_of_request {s : Session} (asked : Asked moves s) {e : Event}
    {entry : PendingEntry} {a : Accepted} (dispatched : dispatched? m s = some e)
    (found : s.pending.find? e.id = some entry) (keeps : entry.replay = some a) :
    a.request.AskedIn moves ∧ change? m s = e.ack?.bind a.request.effect.change? := by
  obtain ⟨requested, effect⟩ := sent_of_asked (asked.table _ (PendingTable.mem_of_find? found)) keeps
  rw [change?_of_found dispatched found, effect]
  exact ⟨requested, rfl⟩

theorem isFilter_of_asked {record : Subscription} (asked : record.AskedIn moves) :
    Topic.isFilter record.topic = true := by
  obtain ⟨r, ⟨m, -, request, caller, -, valid, same⟩, effect⟩ := asked
  have subscribes : r.hasValidTopic = true := by rcases same with rfl | rfl <;> exact valid
  unfold Request.effect at effect
  unfold Request.hasValidTopic at subscribes
  cases action : r.action with
  | subscribe qos handler =>
    rw [action] at effect subscribes
    cases effect
    exact subscribes
  | publish payload qos retain =>
    rw [action] at effect
    cases effect
  | unsubscribe =>
    rw [action] at effect
    cases effect

theorem entry_of_grant {settings : Settings} {record : Subscription}
    (grants : change? m (run moves (start settings)) = some (.grant record)) :
    ∃ e entry, dispatched? m (run moves (start settings)) = some e ∧
      (run moves (start settings)).pending.find? e.id = some entry ∧
      entry.AskedIn moves ∧ entry.effect = .subscribe record := by
  obtain ⟨⟨entry, ack⟩, settled, changes⟩ := Option.bind_eq_some_iff.mp grants
  obtain ⟨e, dispatched, taking⟩ := Option.bind_eq_some_iff.mp settled
  obtain ⟨_, -, taking⟩ := Option.bind_eq_some_iff.mp taking
  obtain ⟨_, found, same⟩ := Option.map_eq_some_iff.mp taking
  cases same
  have asked := (asked_run settings moves).table _ (PendingTable.mem_of_find? found)
  exact ⟨e, entry, dispatched, found, asked, effect_of_grant changes⟩

theorem changesAlong_concat (moves : List Move) (m : Move) (s : Session) :
    changesAlong (moves ++ [m]) s = changesAlong moves s ++ (change? m (run moves s)).toList := by
  induction moves generalizing s with
  | nil => simp [changesAlong, run]
  | cons first rest ih =>
    rw [List.cons_append, changesAlong, ih, changesAlong, List.append_assoc, run]

theorem asked_changes (settings : Settings) (moves : List Move) :
    ∀ record, .grant record ∈ changesAlong moves (start settings) → record.AskedIn moves := by
  induction moves using List.reverseRecOn with
  | nil => exact fun record member => absurd member List.not_mem_nil
  | append_singleton moves m ih =>
    intro record member
    rw [changesAlong_concat] at member
    apply asked_record_mono
    rcases List.mem_append.mp member with old | new
    · exact ih record old
    · obtain ⟨e, entry, -, -, asked, effect⟩ := entry_of_grant (Option.mem_toList.mp new)
      exact granted_of_asked asked effect

/-! ### The history of a run -/

/-- What the acknowledgments of a run come to for its subscriptions. -/
structure Granted (settings : Settings) (moves : List Move) : Prop where
  follows : (run moves (start settings)).registry.Follows (changesAlong moves (start settings))
  /-- Whatever was granted was asked for, under a valid filter. -/
  asked : ∀ record, .grant record ∈ changesAlong moves (start settings) →
    record.AskedIn moves ∧ Topic.isFilter record.topic = true
  /-- An acknowledgment grants what its own request asks for, or what is sent again. -/
  source : ∀ m record, change? m (run moves (start settings)) = some (.grant record) →
    ∃ e entry, dispatched? m (run moves (start settings)) = some e ∧
      (run moves (start settings)).pending.find? e.id = some entry ∧
      (entry = restoring record ∨
        ∃ a, entry.replay = some a ∧ a.request.AskedIn moves ∧
          a.request.effect = .subscribe record)
  granting : ∀ m e entry a qos handler answer,
    dispatched? m (run moves (start settings)) = some e →
    (run moves (start settings)).pending.find? e.id = some entry → entry.replay = some a →
    a.request.action = .subscribe qos handler → e.kind = .suback (.granted answer) →
      a.request.AskedIn moves ∧ change? m (run moves (start settings)) =
        some (.grant { topic := a.request.topic, qos, handler, onAck := a.request.onAck })
  withdrawing : ∀ m e entry a, dispatched? m (run moves (start settings)) = some e →
    (run moves (start settings)).pending.find? e.id = some entry → entry.replay = some a →
    a.request.action = .unsubscribe → e.kind = .unsuback →
      a.request.AskedIn moves ∧ change? m (run moves (start settings)) =
        some (.withdraw a.request.topic)
  /-- A step that is no successful acknowledgment of a request in flight changes nothing. -/
  unchanged : ∀ m, change? m (run moves (start settings)) = none →
    ((run moves (start settings)).after m).registry = (run moves (start settings)).registry
  refused : ∀ m e, dispatched? m (run moves (start settings)) = some e →
    e.kind = .suback .failure →
    ((run moves (start settings)).after m).registry = (run moves (start settings)).registry
  /-- An acknowledgment that is unknown, repeated or late changes nothing. -/
  stale : ∀ m e number, dispatched? m (run moves (start settings)) = some e →
    e.id = .packet number → Stale moves (start settings) number →
    ((run moves (start settings)).after m).registry = (run moves (start settings)).registry
  /-- What is left to be sent again is the rest of a snapshot, whatever was granted since. -/
  snapshot : (run moves (start settings)).unsent <:+ snapshotAlong moves (start settings) []
  /-- A step sends a subscription again as the snapshot has it. -/
  resent : ∀ m, ∀ entry ∈ ((run moves (start settings)).after m).pending.entries,
    entry.2.resubscribe = true →
    entry ∈ (run moves (start settings)).pending.entries ∨
      ∃ record ∈ snapshotAlong moves (start settings) [], entry.2 = restoring record

theorem restored_after {entry : RequestId × PendingEntry}
    (member : entry ∈ (s.after m).pending.entries) (again : entry.2.resubscribe = true) :
    entry ∈ s.pending.entries ∨ ∃ record ∈ s.unsent, entry.2 = restoring record := by
  have other {id : RequestId} {a : Accepted} {responder : Option Responder}
      (new : entry = (id, entryOf a responder)) : False := by
    rw [new] at again
    cases again
  cases tabled m s with
  | kept untaken entries =>
    rcases entries entry member with old | ⟨-, plain, -⟩
    · exact Or.inl old
    · rw [plain] at again
      cases again
  | restored record unsent number effects pending =>
    rw [pending] at member
    exact (mem_insert member).imp_right fun new => ⟨record, unsent, congrArg Prod.snd new⟩
  | replayed a rest head number effects pending =>
    rw [pending] at member
    exact (mem_insert member).imp_right fun new => absurd new other
  | asked request caller step ready a same number effects pending =>
    rw [pending] at member
    exact (mem_insert member).imp_right fun new => absurd new other

/-- The registry is the history of the acknowledgments, also where the other sides act between two
chores of the consumer. -/
theorem subscriptions_granted (settings : Settings) (moves : List Move) (acts : List Act) :
    Granted settings moves ∧
      (acted acts (start settings)).registry.Follows (changesOf acts (start settings)) := by
  have replays : (run moves (start settings)).registry =
      .replay (changesAlong moves (start settings)) := registry_run moves (start settings)
  have interleaved : (acted acts (start settings)).registry =
      .replay (changesOf acts (start settings)) := registry_acted acts (start settings)
  have unchanged (m : Move) (silent : change? m (run moves (start settings)) = none) :
      ((run moves (start settings)).after m).registry = (run moves (start settings)).registry := by
    rw [registry_change, silent, Option.elim_none]
  have snapshot : (run moves (start settings)).unsent <:+ snapshotAlong moves (start settings) [] :=
    unsent_run (s := start settings) List.nil_suffix moves
  refine ⟨?_, interleaved ▸ Registry.replay_follows _⟩
  constructor
  case follows =>
    rw [replays]
    exact Registry.replay_follows _
  case asked =>
    intro record member
    have asked := asked_changes settings moves record member
    exact ⟨asked, isFilter_of_asked asked⟩
  case source =>
    intro m record grants
    obtain ⟨e, entry, dispatched, found, asked, effect⟩ := entry_of_grant grants
    exact ⟨e, entry, dispatched, found, source_of_asked asked effect⟩
  case granting =>
    intro m e entry a qos handler answer dispatched found keeps action kind
    obtain ⟨asked, change⟩ := (asked_run settings moves).change?_of_request dispatched found keeps
    refine ⟨asked, ?_⟩
    rw [change, Request.effect, action, Event.ack?, kind]
    rfl
  case withdrawing =>
    intro m e entry a dispatched found keeps action kind
    obtain ⟨asked, change⟩ := (asked_run settings moves).change?_of_request dispatched found keeps
    refine ⟨asked, ?_⟩
    rw [change, Request.effect, action, Event.ack?, kind]
    rfl
  case unchanged => exact unchanged
  case refused =>
    intro m e dispatched refused
    exact unchanged m (change?_of_failure dispatched refused)
  case stale =>
    intro m e number dispatched same stale
    apply unchanged m (change?_of_unfound dispatched _)
    rw [same]
    exact stale.unfound
  case snapshot => exact snapshot
  case resent =>
    intro m entry member again
    apply (restored_after member again).imp_right
    rintro ⟨record, unsent, same⟩
    exact ⟨record, snapshot.subset unsent, same⟩

/-- A subscription is acknowledged twice, another one is refused, the first one is made again with
another handler, and a topic is given up. -/
def regrantingRun : List Move :=
  [⟨.connect (.notified none), numbering 1⟩, ⟨.report (.connack 0), numbering 1⟩,
   ⟨.dispatch 0, numbering 1⟩, ⟨.tick 0, numbering 1⟩,
   ⟨.request ⟨"t", .subscribe .atMostOnce ⟨"h"⟩, none⟩ (.notified none), numbering 1⟩,
   ⟨.report (.suback 1 (.granted .atMostOnce)), numbering 1⟩, ⟨.dispatch 0, numbering 1⟩,
   ⟨.report (.suback 1 (.granted .atMostOnce)), numbering 1⟩, ⟨.dispatch 0, numbering 1⟩,
   ⟨.request ⟨"u", .subscribe .atMostOnce ⟨"h"⟩, none⟩ (.notified none), numbering 2⟩,
   ⟨.report (.suback 2 .failure), numbering 2⟩, ⟨.dispatch 0, numbering 2⟩,
   ⟨.request ⟨"t", .subscribe .atLeastOnce ⟨"g"⟩, none⟩ (.notified none), numbering 3⟩,
   ⟨.report (.suback 3 (.granted .atMostOnce)), numbering 3⟩, ⟨.dispatch 0, numbering 3⟩,
   ⟨.request ⟨"v", .unsubscribe, none⟩ (.notified none), numbering 4⟩,
   ⟨.report (.unsuback 4), numbering 4⟩, ⟨.dispatch 0, numbering 4⟩]

example : changesAlong regrantingRun (start .standard) =
    [.grant ⟨"t", .atMostOnce, ⟨"h"⟩, none⟩, .grant ⟨"t", .atLeastOnce, ⟨"g"⟩, none⟩,
      .withdraw "v"] := by
  decide +kernel

end Session

end DurableMqtt
