import DurableMqtt.Proofs.Run.Answering
import DurableMqtt.Proofs.Run.ConnectAnswer
import DurableMqtt.Proofs.Run.Routine

/-!
Who is told that the session ended as its caller wanted.

The answer goes to the entry that waits under the identifier of disconnects, when the end of a
network session is dispatched while the session is still closed. There is only one such entry, so
another disconnect takes the place of its caller, and a connect opens the session again. A caller
is released just if neither happens before.
-/

namespace DurableMqtt

def Reply.isParting (r : Reply) : Bool := r.ack matches .disconnected _

def Event.ending? (e : Event) : Option UInt8 :=
  match e.kind with
  | .disconnect code => some code
  | _ => none

namespace Session

def ending? (m : Move) (s : Session) : Option UInt8 := (dispatched? m s).bind Event.ending?

def endings : List Move → Session → List UInt8
  | [], _ => []
  | m :: rest, s => (ending? m s).toList ++ endings rest (s.after m)

def closing? (s : Session) : Option PendingEntry :=
  if s.phase = .userDisconnect then s.pending.find? .disconnect else none

def parted (entry : Option PendingEntry) (code : Option UInt8) : List Reply :=
  (entry.bind fun entry => code.map (entry.reply .disconnect <| .disconnected ·)).toList

def parting (caller : Caller) (code : UInt8) : Reply :=
  ⟨none, .disconnect, caller.responder, .disconnected code⟩

/-- The code of the first end that a run dispatches, as long as the application has neither
connected nor disconnected before. -/
def partingCode? : List Move → Session → Option UInt8
  | [], _ => none
  | m :: rest, s =>
    if isConnection m then none else (ending? m s).or (partingCode? rest (s.after m))

/-- The answers to the disconnects of a run, in the order in which they were called. Each gets one
answer, with the code of the first end that is dispatched after it, unless the application connects
or disconnects before that. -/
def partings : List Move → Session → List Reply
  | [], _ => []
  | m :: rest, s =>
    (match m.step with
      | .disconnect caller => (partingCode? rest (s.after m)).toList.map (parting caller)
      | _ => []) ++ partings rest (s.after m)

def PacketAcks (s : Session) : Prop :=
  ∀ e ∈ s.events.events, e.ack?.isSome → ∃ number, e.id = .packet number

variable {s t : Session} {m : Move} {engine : Engine} {now : Instant}

/-! ### Events -/

theorem packet_of_report (report : Report) (ack : report.event.ack?.isSome) :
    ∃ number, report.event.id = .packet number := by
  cases report with
  | puback number => exact ⟨number, rfl⟩
  | suback number answer => exact ⟨number, rfl⟩
  | unsuback number => exact ⟨number, rfl⟩
  | _ => exact absurd ack Bool.false_ne_true

theorem PacketAcks.start (settings : Settings) : PacketAcks (start settings) :=
  fun _ none => absurd none List.not_mem_nil

theorem PacketAcks.after (acks : PacketAcks s) (m : Move) : PacketAcks (s.after m) := by
  intro e member ack
  rcases (framed m s).events e member with old | ⟨report, rfl⟩
  · exact acks e old ack
  · exact packet_of_report report ack

theorem ending?_of_next {e : Event} (next : s.nextEvent? = some e) :
    ending? ⟨.dispatch now, engine⟩ s = e.ending? := by
  have seen : dispatched? ⟨.dispatch now, engine⟩ s = some e := next
  rw [ending?, seen, Option.bind_some]

theorem not_isConnection_of_ending? {code : UInt8} (ending : ending? m s = some code) :
    isConnection m = false := by
  obtain ⟨step, engine⟩ := m
  cases step with
  | connect caller => exact absurd ending.symm (Option.some_ne_none code)
  | disconnect caller => exact absurd ending.symm (Option.some_ne_none code)
  | _ => rfl

/-! ### One step -/

theorem parted_none_right (entry : Option PendingEntry) : parted entry none = [] := by
  cases entry <;> rfl

theorem filter_isParting_of_plain {replies : List Reply} (plain : ∀ r ∈ replies, r.isParting = false) :
    replies.filter Reply.isParting = [] :=
  List.filter_eq_nil_iff.mpr fun r member => ne_true_of_eq_false (plain r member)

theorem replyTo_plain (id : RequestId) {ack : Ack} (plain : ∀ code, ack ≠ .disconnected code) :
    (s.replyTo id ack).filter Reply.isParting = [] := by
  apply filter_isParting_of_plain
  intro r given
  obtain ⟨entry, -, rfl⟩ := List.mem_map.mp given
  show (entry.reply id ack).isParting = false
  unfold Reply.isParting PendingEntry.reply
  cases ack with
  | disconnected code => exact absurd rfl (plain code)
  | _ => rfl

theorem hangUpReplies_partings (code : UInt8) (s : Session) :
    (s.hangUpReplies code).filter Reply.isParting = parted s.closing? (some code) := by
  have plain : s.discards.filter Reply.isParting = [] := by
    apply filter_isParting_of_plain
    intro r given
    obtain ⟨entry, -, rfl⟩ := List.mem_map.mp given
    rfl
  unfold hangUpReplies closing?
  cases phase : s.phase with
  | userDisconnect =>
    simp only [↓reduceIte, replyTo]
    cases s.pending.find? .disconnect <;> rfl
  | idle | connecting => rfl
  | resubscribing | draining | stable | abnormalDisconnect => exact plain

theorem replies_partings (m : Move) (s : Session) :
    (replies m s).filter Reply.isParting = parted s.closing? (ending? m s) := by
  obtain ⟨step, engine⟩ := m
  cases step with
  | dispatch now =>
    cases next : s.nextEvent? with
    | none =>
      have unseen : dispatched? ⟨.dispatch now, engine⟩ s = none := next
      rw [ending?, unseen, Option.bind_none, parted_none_right, replies, next]
      rfl
    | some e =>
      have silent {ack : Ack} (plain : ∀ code, ack ≠ .disconnected code) (id : RequestId) :
          (s.replyTo id ack).filter Reply.isParting = parted s.closing? none := by
        rw [replyTo_plain id plain, parted_none_right]
      rw [replies_dispatch next, ending?_of_next next, eventReplies, Event.ending?]
      cases e.kind with
      | disconnect code => exact hangUpReplies_partings code s
      | message message => exact (parted_none_right _).symm
      | _ => exact silent (fun _ => Ack.noConfusion) _
  | tick now =>
    have given : TickReplies s (s.tick engine now) (replies ⟨.tick now, engine⟩ s) := tickReplies
    have silent : ending? ⟨.tick now, engine⟩ s = none := rfl
    rw [silent, parted_none_right]
    generalize replies ⟨.tick now, engine⟩ s = given' at given ⊢
    cases given <;> rfl
  | _ => exact (parted_none_right _).symm

theorem closed_after_iff (awake : s.Awake) (alone : isConnection m = false) :
    (s.after m).phase = .userDisconnect ↔ s.phase = .userDisconnect := by
  constructor
  · intro closed
    by_contra opened
    exact opened_after awake opened alone closed
  · intro closed
    -- What remains are the steps that leave another phase, and those that stay.
    have elsewhere {phase : Phase} (here : s.phase = phase) (apart : phase ≠ .userDisconnect) :
        (s.after m).phase = .userDisconnect := absurd (here.symm.trans closed) apart
    have down (connected : s.phase.isConnected) : (s.after m).phase = .userDisconnect := by
      rw [closed] at connected
      exact absurd connected Bool.false_ne_true
    cases passage awake m with
    | still quiet unmoved phase recovery =>
      exact phase.elim (fun same => same.trans closed) fun both => down both.1
    | collected first rest idle scheduled quiet phase recovery epoch signals expected =>
      exact phase.trans closed
    | released expected engaged stale quiet phase recovery epoch signals idle =>
      exact phase.trans closed
    | connects caller step asked phase epoch signals expected =>
      rw [isConnection, step] at alone
      exact absurd alone.symm Bool.false_ne_true
    | attempts now step current opened asked phase epoch signals expected =>
      exact absurd closed opened
    | closes caller step quiet phase epoch signals expected => exact phase
    | welcomed connecting unasked accepting phase unmoved => exact elsewhere connecting Phase.noConfusion
    | ignored away unasked accepting phase recovery unmoved => exact phase.trans closed
    | turnedAway connecting quiet phase recovery epoch signals expected =>
      exact elsewhere connecting Phase.noConfusion
    | missed code ended connecting quiet phase recovery epoch signals expected =>
      exact elsewhere connecting Phase.noConfusion
    | lost established quiet phase recovery epoch signals expected =>
      exact established.elim down fun lost => elsewhere lost Phase.noConfusion
    | settled last away opened quiet phase recovery unmoved => exact absurd closed opened

theorem entry_after (acks : PacketAcks s) (alone : isConnection m = false)
    (silent : ending? m s = none) :
    (s.after m).pending.find? .disconnect = s.pending.find? .disconnect := by
  obtain ⟨step, engine⟩ := m
  cases step with
  | connect caller => exact absurd alone.symm Bool.false_ne_true
  | disconnect caller => exact absurd alone.symm Bool.false_ne_true
  | request request caller => exact (Routine.route request caller s).entry _ fun _ => rfl
  | adjust adjustment =>
    obtain ⟨settings, hooks, backoff, adjusted⟩ := adjust_eq adjustment s
    change (s.adjust adjustment).pending.find? .disconnect = _
    rw [adjusted]
  | dispatch now =>
    have dispatched : Dispatched now s (s.dispatch engine now) := dispatch_dispatched s
    change (s.dispatch engine now).pending.find? .disconnect = _
    generalize s.dispatch engine now = t at dispatched ⊢
    cases dispatched with
    | idle none => rfl
    | handled e next t handled =>
      rw [ending?_of_next next, Event.ending?] at silent
      cases handled with
      | welcomed kind connecting => exact PendingTable.find?_erase_of_ne RequestId.noConfusion
      | turnedAway code kind refused connecting =>
        exact PendingTable.find?_erase_of_ne RequestId.noConfusion
      | unheeded code kind elsewhere => exact PendingTable.find?_erase_of_ne RequestId.noConfusion
      | hungUp code kind t hungUp =>
        rw [kind] at silent
        exact absurd silent (Option.some_ne_none code)
      | acknowledged ack of entry found consumer kept =>
        obtain ⟨number, identifier⟩ := acks e (mem_of_nextEvent? next) (by rw [of]; rfl)
        apply PendingTable.find?_erase_of_ne
        rw [identifier]
        exact RequestId.noConfusion
      | _ => rfl
  | tick now => exact (Routine.tick s).entry _ fun _ => rfl
  | supervise now =>
    have supervised : Supervised engine s (s.supervise engine now) := supervise_supervised s
    change (s.supervise engine now).pending.find? .disconnect = _
    generalize s.supervise engine now = t at supervised ⊢
    cases supervised with
    | connected slept number attempting opened taken =>
      exact PendingTable.find?_insert_of_ne RequestId.noConfusion _
    | _ => rfl
  | _ => rfl

theorem kind_of_ending? {e : Event} {code : UInt8} (ending : e.ending? = some code) :
    e.kind = .disconnect code := by
  unfold Event.ending? at ending
  split at ending
  next other kind => rw [kind, Option.some.inj ending]
  next => exact absurd ending.symm (Option.some_ne_none code)

theorem closing?_of_ending? {code : UInt8} (ending : ending? m s = some code) :
    (s.after m).closing? = none := by
  obtain ⟨step, engine⟩ := m
  cases step with
  | dispatch now =>
    obtain ⟨e, next, ended⟩ := Option.bind_eq_some_iff.mp ending
    have opened {t : Session} (apart : t.phase ≠ .userDisconnect) : t.closing? = none := if_neg apart
    have hungUp := hangUp_hungUp code { s with events := s.events.next.2 }
    show (s.dispatch engine now).closing? = none
    rw [dispatch_eq s next, handle, kind_of_ending? ended]
    show (Session.hangUp code { s with events := s.events.next.2 }).closing? = none
    generalize Session.hangUp code { s with events := s.events.next.2 } = t at hungUp ⊢
    cases hungUp with
    | closed phase => exact if_pos phase
    | idle phase => exact opened (by rw [phase]; exact Phase.noConfusion)
    | connecting phase => exact opened (by rw [phase]; exact Phase.noConfusion)
    | lost established => exact opened Phase.noConfusion
  | _ => exact absurd ending.symm (Option.some_ne_none code)

theorem closing?_after (awake : s.Awake) (acks : PacketAcks s) (alone : isConnection m = false) :
    (s.after m).closing? = if (ending? m s).isSome then none else s.closing? := by
  cases ending : ending? m s with
  | some code => exact closing?_of_ending? ending
  | none =>
    unfold closing?
    simp only [closed_after_iff awake alone, entry_after acks alone ending, Option.isSome_none,
      Bool.false_eq_true, ↓reduceIte]

theorem closing?_connect (caller : Caller) : (s.connect engine caller).2.closing? = none := by
  apply if_neg
  rw [connect_eq]
  split
  next => split <;> exact Phase.noConfusion
  next refused =>
    intro closed
    rw [closed] at refused
    exact refused rfl

theorem disconnect_taken (caller : Caller) :
    (s.disconnect engine caller).1 = .ok .disconnect ∧
      (s.disconnect engine caller).2.closing? = some { responder := caller.responder } := by
  have found : (s.pending.insert .disconnect { responder := caller.responder }).find? .disconnect =
      some { responder := caller.responder } := PendingTable.find?_insert_self _
  rw [disconnect_eq]
  simp only
  split
  · split <;> exact ⟨rfl, found⟩
  · exact ⟨rfl, found⟩

/-! ### Runs -/

/-- The answers of a run: first the one to whoever waits at its start, then those to the disconnects
that are called in it. -/
theorem repliesAlong_partings (awake : s.Awake) (acks : PacketAcks s) (moves : List Move) :
    (repliesAlong moves s).filter Reply.isParting =
      parted s.closing? (partingCode? moves s) ++ partings moves s := by
  induction moves generalizing s with
  | nil => rw [partingCode?, parted_none_right]; rfl
  | cons m rest ih =>
    have later := ih (awake.after m) (acks.after m)
    rw [repliesAlong, List.filter_append, replies_partings, later]
    obtain ⟨step, engine⟩ := m
    -- A connect or disconnect decides who waits, any other step at most answers him.
    cases step with
    | connect caller =>
      have nobody : (s.after ⟨.connect caller, engine⟩).closing? = none := closing?_connect caller
      have silent : ending? ⟨.connect caller, engine⟩ s = none := rfl
      have cut : partingCode? (⟨.connect caller, engine⟩ :: rest) s = none := rfl
      rw [nobody, silent, cut, parted_none_right]
      rfl
    | disconnect caller =>
      have waiting : (s.after ⟨.disconnect caller, engine⟩).closing? =
          some { responder := caller.responder } := (disconnect_taken caller).2
      have silent : ending? ⟨.disconnect caller, engine⟩ s = none := rfl
      have cut : partingCode? (⟨.disconnect caller, engine⟩ :: rest) s = none := rfl
      rw [waiting, silent, cut, parted_none_right]
      cases found : partingCode? rest (s.after ⟨.disconnect caller, engine⟩) <;>
        simp only [partings, found] <;> rfl
    | _ =>
      rw [closing?_after awake acks rfl]
      simp only [partingCode?, partings, isConnection, Bool.false_eq_true, ↓reduceIte,
        List.nil_append]
      cases ending? _ s with
      | none => rw [parted_none_right]; rfl
      | some code => rfl

theorem partingCode?_append (first second : List Move) (connection : isConnection m = true)
    (s : Session) : partingCode? (first ++ m :: second) s = partingCode? first s := by
  induction first generalizing s with
  | nil => exact if_pos connection
  | cons x rest ih => rw [List.cons_append, partingCode?, partingCode?, ih]

theorem partings_append (first second : List Move) (connection : isConnection m = true)
    (s : Session) :
    partings (first ++ m :: second) s =
      partings first s ++ partings (m :: second) (run first s) := by
  induction first generalizing s with
  | nil => rfl
  | cons x rest ih =>
    rw [List.cons_append, partings, ih, partingCode?_append rest second connection]
    exact (List.append_assoc _ _ _).symm

theorem partingCode?_of_ending (quiet later : List Move) {code : UInt8} (s : Session)
    (unended : endings quiet s = []) (ending : ending? m (run quiet s) = some code) :
    partingCode? (quiet ++ m :: later) s =
      if quiet.any isConnection then none else some code := by
  induction quiet generalizing s with
  | nil =>
    have seen : ending? m s = some code := ending
    rw [List.nil_append, partingCode?, not_isConnection_of_ending? seen, seen]
    rfl
  | cons x rest ih =>
    obtain ⟨none, onward⟩ := List.append_eq_nil_iff.mp unended
    have silent : ending? x s = .none := by
      cases code : ending? x s with
      | none => rfl
      | some code' =>
        rw [code] at none
        exact absurd none (List.cons_ne_nil _ _)
    rw [List.cons_append, partingCode?, silent, Option.none_or, ih (s.after x) onward ending,
      List.any_cons]
    cases isConnection x <;> rfl

/-- A disconnect is always taken. The first end that is dispatched after it answers its caller once,
just if the application neither connects nor disconnects in between. The answers are all that
anybody is told. -/
theorem disconnect_answered (settings : Settings) (before quiet later : List Move) (m : Move)
    (engine : Engine) (caller : Caller) (code : UInt8) :
    let s := run before (start settings)
    let t := (s.disconnect engine caller).2
    let moves := before ++ ⟨.disconnect caller, engine⟩ :: (quiet ++ m :: later)
    endings quiet t = [] → ending? m (run quiet t) = some code →
    (s.disconnect engine caller).1 = .ok .disconnect ∧
    (repliesAlong moves (start settings)).filter Reply.isParting =
      partings before (start settings) ++
        (if quiet.any isConnection then [] else [parting caller code]) ++
        partings (quiet ++ m :: later) t ∧
    tellings (since (start settings) (run moves (start settings))) =
      (repliesAlong moves (start settings)).flatMap Reply.effects := by
  intro s t moves unended ending
  refine ⟨(disconnect_taken caller).1, ?_, tellings_repliesAlong moves _⟩
  have nobody : (start settings).closing? = none := rfl
  have own : (partingCode? (quiet ++ m :: later) t).toList.map (parting caller) =
      if quiet.any isConnection then [] else [parting caller code] := by
    rw [partingCode?_of_ending quiet later t unended ending]
    split <;> rfl
  calc (repliesAlong moves (start settings)).filter Reply.isParting
    _ = parted none (partingCode? moves (start settings)) ++ partings moves (start settings) :=
      repliesAlong_partings (.start settings) (.start settings) moves
    _ = partings before (start settings) ++
          partings (⟨.disconnect caller, engine⟩ :: (quiet ++ m :: later)) s :=
      partings_append before _ rfl (start settings)
    _ = _ := by
      rw [← own, List.append_assoc]
      rfl

def endingRun : List Move := [⟨.report (.disconnect 0), numbering 1⟩]

theorem endingRun_answered :
    let caller := Caller.notified (some ⟨"A"⟩)
    let t := ((run steadyRun (start .standard)).disconnect (numbering 1) caller).2
    endings endingRun t = [] ∧ ending? ⟨.dispatch 0, numbering 1⟩ (run endingRun t) = some 0 ∧
    (repliesAlong (steadyRun ++ ⟨.disconnect caller, numbering 1⟩ ::
        (endingRun ++ [⟨.dispatch 0, numbering 1⟩])) (start .standard)).filter Reply.isParting =
      [parting caller 0] := by
  intro caller t
  have unended : endings endingRun t = [] := by decide +kernel
  have ending : ending? ⟨.dispatch 0, numbering 1⟩ (run endingRun t) = some 0 := by decide +kernel
  have answered := (disconnect_answered .standard steadyRun endingRun [] ⟨.dispatch 0, numbering 1⟩
    (numbering 1) caller 0 unended ending).2.1
  exact ⟨unended, ending, answered⟩

/-- A caller that another disconnect or a connect overtakes is told nothing, though the end that it
waits for is enqueued after its call and dispatched. -/
theorem overtaken_silent :
    let caller := Caller.notified (some ⟨"A"⟩)
    let s := run steadyRun (start .standard)
    let t := (s.disconnect (numbering 1) caller).2
    s.events.events = [] ∧ (s.disconnect (numbering 1) caller).1.isOk ∧
    ∀ overtaking ∈ [Step.disconnect (.notified (some ⟨"B"⟩)), Step.connect (.notified none)],
      let quiet := ⟨overtaking, numbering 1⟩ :: endingRun
      endings quiet t = [] ∧ ending? ⟨.dispatch 0, numbering 1⟩ (run quiet t) = some 0 ∧
      ((since (start .standard) (run (quiet ++ [⟨.dispatch 0, numbering 1⟩]) t)).filterMap
        Effect.listener?).count (.callback ⟨"A"⟩) = 0 := by
  decide +kernel

end Session

end DurableMqtt
