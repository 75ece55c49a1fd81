import DurableMqtt.Proofs.Run.Passage
import DurableMqtt.Proofs.Run.Routine

/-!
What the application is told of its sessions.

It is told that a session is there when the CONNACK that accepts it is taken up, and that a session
is gone when the end of its connection is dispatched. A session that the application replaces before
its end is dispatched is never reported gone, so the session that replaces it is the second one in a
row that is reported there.
-/

namespace DurableMqtt

def Effect.notice? : Effect → Option Bool
  | submitted (.online _) => some true
  | submitted (.offline _) => some false
  | _ => none

namespace Session

def notices (effects : List Effect) : List Bool := effects.filterMap Effect.notice?

/-- Whether a step dispatches a CONNACK that accepts the session which is waited for. -/
def takesUp (m : Move) (s : Session) : Bool := s.phase == .connecting && accepts m s

def stillUp (m : Move) (s : Session) (up : Bool) : Bool := takesUp m s || (up && !hangsUp m s)

def upAfter : List Move → Session → Bool → Bool
  | [], _, up => up
  | m :: rest, s, up => upAfter rest (s.after m) (stillUp m s up)

def noticed (m : Move) (s : Session) (up : Bool) : List Bool :=
  if takesUp m s then [true] else if up && hangsUp m s then [false] else []

def noticedAlong : List Move → Session → Bool → List Bool
  | [], _, _ => []
  | m :: rest, s, up => noticed m s up ++ noticedAlong rest (s.after m) (stillUp m s up)

/-- Whether a session is accepted in a run before the one before it has ended. -/
def supersedes : List Move → Session → Bool → Bool
  | [], _, _ => false
  | m :: rest, s, up => (up && takesUp m s) || supersedes rest (s.after m) (stillUp m s up)

structure Hooked (s : Session) : Prop where
  online : s.hooks.online.isSome
  offline : s.hooks.offline.isSome

variable {s t u : Session} {m : Move} {engine : Engine} {now : Instant}

/-! ### One step -/

theorem notices_append (first second : List Effect) :
    notices (first ++ second) = notices first ++ notices second := List.filterMap_append

theorem notices_of_routine {effects : List Effect} (routine : ∀ e ∈ effects, e.isRoutine = true) :
    notices effects = [] := by
  refine List.filterMap_eq_nil_iff.mpr fun e member => ?_
  have plain := routine e member
  unfold Effect.notice?
  split
  · exact absurd plain Bool.false_ne_true
  · exact absurd plain Bool.false_ne_true
  · rfl

theorem notices_hooked (hook : Option Callback) (job : Callback → Job) {up : Bool}
    (same : ∀ callback, (Effect.submitted (job callback)).notice? = some up)
    (installed : hook.isSome) : notices (hooked hook job) = [up] := by
  obtain ⟨callback, rfl⟩ := Option.isSome_iff_exists.mp installed
  rw [hooked, notices, Option.map_some, Option.toList_some, List.filterMap_cons, same callback]
  rfl

structure Notified (told : List Bool) (up : Bool) (s t : Session) : Prop where
  told : ∃ effects, t.effects = s.effects ++ effects ∧ (Hooked s → notices effects = told)
  online : t.consumer.online = up

abbrev Unnoticed (s t : Session) : Prop := Notified [] s.consumer.online s t

theorem Notified.of_append {told : List Bool} {up : Bool} (effects : List Effect)
    (appended : t.effects = s.effects ++ effects) (notices : Hooked s → notices effects = told)
    (online : t.consumer.online = up) : Notified told up s t := ⟨⟨effects, appended, notices⟩, online⟩

theorem Unnoticed.of_append (effects : List Effect) (appended : t.effects = s.effects ++ effects)
    (silent : notices effects = []) (online : t.consumer.online = s.consumer.online) :
    Unnoticed s t := Notified.of_append effects appended (fun _ => silent) online

theorem Unnoticed.of_same (effects : t.effects = s.effects)
    (online : t.consumer.online = s.consumer.online) : Unnoticed s t :=
  .of_append [] (effects.trans (List.append_nil _).symm) rfl online

theorem Unnoticed.of_routine (routine : Routine s t) : Unnoticed s t := by
  obtain ⟨effects, appended, plain⟩ := routine.effects
  exact .of_append effects appended (notices_of_routine plain) routine.online

theorem notices_farewell (hooked : Hooked s) :
    notices s.farewell = if s.consumer.online then [false] else [] := by
  unfold farewell
  cases s.consumer.online with
  | true => exact notices_hooked _ _ (fun _ => rfl) hooked.offline
  | false => rfl

theorem notified_hangUp (code : UInt8) (s : Session) :
    Notified (if s.consumer.online then [false] else []) false s (s.hangUp code) := by
  have others {effects : List Effect} (silent : notices effects = []) (hooked : Hooked s) :
      notices (s.farewell ++ effects) = if s.consumer.online then [false] else [] := by
    rw [notices_append, notices_farewell hooked, silent, List.append_nil]
  have hungUp := hangUp_hungUp code s
  generalize s.hangUp code = t at hungUp ⊢
  cases hungUp with
  | closed phase =>
    apply Notified.of_append _ rfl
    · apply others
      rw [notices_append, notices_of_routine (answered_isRoutine _ _ _)]
      rfl
    · rfl
  | idle phase => exact .of_append _ rfl notices_farewell rfl
  | connecting phase => exact .of_append _ rfl notices_farewell rfl
  | lost established =>
    exact .of_append _ rfl (others (notices_of_routine (discarded_isRoutine _))) rfl

theorem notified_connack (code : UInt8) (e : Event) (kind : e.kind = .connack code) :
    Notified (if s.phase == .connecting && e.kind == .connack 0 then [true] else [])
      ((s.phase == .connecting && e.kind == .connack 0) || s.consumer.online) s (s.handle now e) := by
  have answering (ack : Ack) : notices (answered s.pending .connect ack) = [] :=
    notices_of_routine (answered_isRoutine _ _ _)
  have handled : Handled now e s (s.handle now e) := handle_handled now e s
  generalize s.handle now e = t at handled ⊢
  cases handled with
  | welcomed accepted connecting =>
    rw [connecting, accepted]
    apply Notified.of_append _ rfl
    · intro hooked
      rw [notices_append, answering, notices_hooked _ _ (fun _ => rfl) hooked.online]
      rfl
    · rfl
  | turnedAway refusal refused nonzero connecting =>
    have other : (e.kind == .connack 0) = false := by
      rw [refused]
      exact beq_false_of_ne fun same => nonzero (EventKind.connack.inj same)
    rw [other, Bool.and_false]
    apply Unnoticed.of_append _ rfl
    · rw [notices_append, answering]
      rfl
    · rfl
  | unheeded other connack elsewhere =>
    rw [beq_false_of_ne elsewhere, Bool.false_and]
    exact Unnoticed.of_append _ rfl (answering _) rfl
  | hungUp other ended t hungUp => exact absurd (kind.symm.trans ended) EventKind.noConfusion
  | unknown ack of unknown => simp [Event.ack?, kind] at of
  | acknowledged ack of entry found consumer kept => simp [Event.ack?, kind] at of
  | delivered message delivery consumer effects same hooks =>
    exact absurd (kind.symm.trans delivery) EventKind.noConfusion

theorem unnoticed_acknowledge (id : RequestId) (ack : Ack) (s : Session) :
    Unnoticed s (s.acknowledge now id ack) := by
  have routine : Routine { s with pending := s.pending.erase id } (s.acknowledge now id ack) :=
    .acknowledge id ack s
  obtain ⟨effects, appended, plain⟩ := routine.effects
  exact Unnoticed.of_append effects appended (notices_of_routine plain) routine.online

theorem notified_handle (e : Event) (s : Session) :
    Notified
      (if s.phase == .connecting && e.kind == .connack 0 then [true]
        else if s.consumer.online && e.isDisconnect then [false] else [])
      ((s.phase == .connecting && e.kind == .connack 0) || (s.consumer.online && !e.isDisconnect))
      s (s.handle now e) := by
  have plain (other : ∀ code, e.kind ≠ .connack code) :
      (s.phase == .connecting && e.kind == .connack 0) = false := by
    rw [beq_false_of_ne (other 0), Bool.and_false]
  -- Only a CONNACK or the end of a connection says anything about the session.
  have aside (other : ∀ code, e.kind ≠ .connack code) (staying : e.isDisconnect = false)
      (unnoticed : Unnoticed s (s.handle now e)) :
      Notified
        (if s.phase == .connecting && e.kind == .connack 0 then [true]
          else if s.consumer.online && e.isDisconnect then [false] else [])
        ((s.phase == .connecting && e.kind == .connack 0) || (s.consumer.online && !e.isDisconnect))
        s (s.handle now e) := by
    rw [plain other, staying, Bool.and_false, Bool.not_false, Bool.and_true]
    exact unnoticed
  cases kind : e.kind with
  | connack code =>
    have staying : e.isDisconnect = false := by rw [Event.isDisconnect, kind]
    rw [← kind, staying, Bool.and_false, Bool.not_false, Bool.and_true]
    exact notified_connack code e kind
  | disconnect code =>
    have ending : e.isDisconnect = true := by rw [Event.isDisconnect, kind]
    rw [← kind, plain (by simp [kind]), ending, Bool.and_true, Bool.not_true, Bool.and_false, handle,
      kind]
    exact notified_hangUp code s
  | puback =>
    rw [← kind]
    apply aside (by simp [kind]) (by rw [Event.isDisconnect, kind])
    rw [handle, kind]
    exact unnoticed_acknowledge e.id .published s
  | suback answer =>
    rw [← kind]
    apply aside (by simp [kind]) (by rw [Event.isDisconnect, kind])
    rw [handle, kind]
    exact unnoticed_acknowledge e.id (.subscribed answer) s
  | unsuback =>
    rw [← kind]
    apply aside (by simp [kind]) (by rw [Event.isDisconnect, kind])
    rw [handle, kind]
    exact unnoticed_acknowledge e.id .unsubscribed s
  | message message =>
    rw [← kind]
    apply aside (by simp [kind]) (by rw [Event.isDisconnect, kind])
    rw [handle, kind]
    exact Unnoticed.of_routine (.deliver message s)

theorem accepts_of_next {e : Event} (next : s.nextEvent? = some e) :
    accepts ⟨.dispatch now, engine⟩ s = (e.kind == .connack 0) := by
  have seen : dispatched? ⟨.dispatch now, engine⟩ s = some e := next
  rw [accepts, seen, Option.any_some]

theorem hangsUp_of_event {e : Event} (next : s.nextEvent? = some e) :
    hangsUp ⟨.dispatch now, engine⟩ s = e.isDisconnect := by
  have seen : dispatched? ⟨.dispatch now, engine⟩ s = some e := next
  rw [hangsUp, seen, Option.any_some]

theorem notified_dispatch (s : Session) :
    Notified (noticed ⟨.dispatch now, engine⟩ s s.consumer.online)
      (stillUp ⟨.dispatch now, engine⟩ s s.consumer.online) s (s.dispatch engine now) := by
  unfold noticed stillUp takesUp
  cases next : s.nextEvent? with
  | none =>
    have unseen : dispatched? ⟨.dispatch now, engine⟩ s = none := next
    have idle : s.dispatch engine now = s := by simp only [dispatch, next]
    rw [accepts, hangsUp, unseen, idle]
    simp only [Option.any_none, Bool.and_false, Bool.not_false, Bool.and_true, Bool.false_or]
    exact Unnoticed.of_same rfl rfl
  | some e =>
    rw [accepts_of_next next, hangsUp_of_event next, dispatch_eq s next]
    obtain ⟨⟨effects, appended, told⟩, online⟩ := notified_handle e { s with events := s.events.next.2 }
    exact .of_append effects appended (fun hooked => told ⟨hooked.online, hooked.offline⟩) online

theorem notified_step (m : Move) (s : Session) :
    Notified (noticed m s s.consumer.online) (stillUp m s s.consumer.online) s (s.after m) := by
  obtain ⟨step, engine⟩ := m
  -- A step that dispatches nothing leaves the session up or down, so it has to tell nothing.
  have aside (other : dispatched? ⟨step, engine⟩ s = none)
      (unnoticed : Unnoticed s (s.after ⟨step, engine⟩)) :
      Notified (noticed ⟨step, engine⟩ s s.consumer.online)
        (stillUp ⟨step, engine⟩ s s.consumer.online) s (s.after ⟨step, engine⟩) := by
    simpa [noticed, stillUp, takesUp, accepts, hangsUp, other] using unnoticed
  cases step with
  | dispatch now => exact notified_dispatch s
  | connect caller =>
    apply aside rfl
    change Unnoticed s (s.connect engine caller).2
    rw [connect_eq]
    split
    · split <;> exact Unnoticed.of_append _ rfl rfl rfl
    · exact Unnoticed.of_same rfl rfl
  | disconnect caller =>
    apply aside rfl
    change Unnoticed s (s.disconnect engine caller).2
    rw [disconnect_eq]
    simp only
    split
    · split <;> exact Unnoticed.of_append _ rfl rfl rfl
    · exact Unnoticed.of_same rfl rfl
  | request request caller => exact aside rfl (Unnoticed.of_routine (.route request caller s))
  | tick now => exact aside rfl (Unnoticed.of_routine (.tick s))
  | adjust adjustment =>
    apply aside rfl
    obtain ⟨settings, hooks, backoff, adjusted⟩ := adjust_eq adjustment s
    change Unnoticed s (s.adjust adjustment)
    rw [adjusted]
    exact Unnoticed.of_same rfl rfl
  | supervise now =>
    apply aside rfl
    have supervised : Supervised engine s (s.supervise engine now) := supervise_supervised s
    change Unnoticed s (s.supervise engine now)
    generalize s.supervise engine now = t at supervised ⊢
    cases supervised with
    | connected slept number attempting opened taken => exact Unnoticed.of_append _ rfl rfl rfl
    | refused slept cause attempting opened answer => exact Unnoticed.of_append _ rfl rfl rfl
    | _ => exact Unnoticed.of_same rfl rfl
  | configureQueue capacity policy => exact aside rfl (Unnoticed.of_same rfl rfl)
  | report report => exact aside rfl (Unnoticed.of_same rfl rfl)
  | expire timer => exact aside rfl (Unnoticed.of_same rfl rfl)

theorem hooks_dispatch (s : Session) : (s.dispatch engine now).hooks = s.hooks := by
  have dispatched : Dispatched now s (s.dispatch engine now) := dispatch_dispatched s
  generalize s.dispatch engine now = t at dispatched ⊢
  cases dispatched with
  | idle none => rfl
  | handled e next t handled =>
    cases handled with
    | hungUp code kind t hungUp => cases hungUp <;> rfl
    | _ => rfl

theorem Hooked.after (hooked : Hooked s) (m : Move) : Hooked (s.after m) := by
  have kept (same : (s.after m).hooks = s.hooks) : Hooked (s.after m) := by
    constructor
    · rw [same]
      exact hooked.online
    · rw [same]
      exact hooked.offline
  obtain ⟨step, engine⟩ := m
  cases step with
  | dispatch now => exact kept (hooks_dispatch s)
  | connect caller =>
    apply kept
    change (s.connect engine caller).2.hooks = s.hooks
    rw [connect_eq]
    split
    · split <;> rfl
    · rfl
  | disconnect caller =>
    apply kept
    change (s.disconnect engine caller).2.hooks = s.hooks
    rw [disconnect_eq]
    simp only
    split
    · split <;> rfl
    · rfl
  | request request caller => exact kept (Routine.route request caller s).hooks
  | tick now => exact kept (Routine.tick s).hooks
  | supervise now =>
    apply kept
    have supervised : Supervised engine s (s.supervise engine now) := supervise_supervised s
    change (s.supervise engine now).hooks = s.hooks
    generalize s.supervise engine now = t at supervised ⊢
    cases supervised <;> rfl
  | adjust adjustment =>
    cases adjustment with
    | onOnline hook => exact ⟨rfl, hooked.offline⟩
    | onOffline hook => exact ⟨hooked.online, rfl⟩
    | backoff base max stable =>
      apply kept
      change (s.adjust (.backoff base max stable)).hooks = s.hooks
      unfold adjust configureBackoff
      simp only
      cases Timing.make base max stable <;> rfl
    | onMessage hook => exact ⟨hooked.online, hooked.offline⟩
    | onUnhandledMessage hook => exact ⟨hooked.online, hooked.offline⟩
    | _ => exact kept rfl
  | configureQueue capacity policy => exact kept rfl
  | report report => exact kept rfl
  | expire timer => exact kept rfl

/-! ### Runs -/

theorem online_run (moves : List Move) (s : Session) :
    (run moves s).consumer.online = upAfter moves s s.consumer.online := by
  induction moves generalizing s with
  | nil => rfl
  | cons m rest ih => rw [run, upAfter, ih (s.after m), (notified_step m s).online]

theorem notices_run (hooked : Hooked s) (moves : List Move) :
    notices (since s (run moves s)) = noticedAlong moves s s.consumer.online := by
  induction moves generalizing s with
  | nil => rw [run, since_self]; rfl
  | cons m rest ih =>
    obtain ⟨⟨effects, appended, told⟩, online⟩ := notified_step m s
    rw [since_run_cons, notices_append, since_of_append appended, told hooked, ih (hooked.after m),
      online]
    rfl

/-- The application is never told twice in a row that its session is gone, nor that it is gone if it
was not there. -/
theorem noticedAlong_gone (moves : List Move) (s : Session) (up : Bool) :
    List.IsChain (fun before after => before = true ∨ after = true)
      (up :: noticedAlong moves s up) := by
  induction moves generalizing s up with
  | nil => exact .singleton up
  | cons m rest ih =>
    have later := ih (s.after m) (stillUp m s up)
    unfold noticedAlong noticed
    unfold stillUp at later ⊢
    generalize takesUp m s = taken at later ⊢
    generalize hangsUp m s = ended at later ⊢
    cases taken with
    | true => exact .cons_cons (.inr rfl) later
    | false =>
      cases up with
      | false => exact later
      | true =>
        cases ended with
        | true => exact .cons_cons (.inl rfl) later
        | false => exact later

theorem noticedAlong_alternates (moves : List Move) (s : Session) (up : Bool) :
    List.IsChain (· ≠ ·) (up :: noticedAlong moves s up) ↔ supersedes moves s up = false := by
  induction moves generalizing s up with
  | nil => exact ⟨fun _ => rfl, fun _ => .singleton up⟩
  | cons m rest ih =>
    have later := ih (s.after m) (stillUp m s up)
    unfold noticedAlong noticed supersedes
    unfold stillUp at later ⊢
    generalize takesUp m s = taken at later ⊢
    generalize hangsUp m s = ended at later ⊢
    cases up with
    | true =>
      cases taken with
      | true => simp
      | false => cases ended <;> simpa using later
    | false => cases taken <;> simpa using later

/-- With both hooks installed, the application is told in turns that its session is there and that it
is gone, just if no session is accepted before the one accepted before it has ended. It is never told
twice in a row that its session is gone. -/
theorem notices_alternate_iff (settings : Settings) (before moves : List Move) :
    let s := run before (start settings)
    let up := upAfter before (start settings) false
    let told := notices (since s (run moves s))
    s.hooks.online.isSome → s.hooks.offline.isSome →
    (List.IsChain (· ≠ ·) (up :: told) ↔ supersedes moves s up = false) ∧
      List.IsChain (fun earlier later => earlier = true ∨ later = true) (up :: told) := by
  intro s up told online offline
  have hooked : Hooked s := ⟨online, offline⟩
  have known : s.consumer.online = up := online_run before (start settings)
  have same : told = noticedAlong moves s up := by
    rw [← known]
    exact notices_run hooked moves
  rw [same]
  exact ⟨noticedAlong_alternates moves s up, noticedAlong_gone moves s up⟩

def hookedRun : List Move :=
  [⟨.adjust (.onOnline ⟨"up"⟩), numbering 1⟩, ⟨.adjust (.onOffline ⟨"down"⟩), numbering 1⟩]

def acceptedRun : List Move :=
  [⟨.connect (.notified none), numbering 1⟩, ⟨.report (.connack 0), numbering 1⟩,
   ⟨.dispatch 0, numbering 1⟩]

def lostAndFoundRun : List Move :=
  acceptedRun ++ [⟨.report (.disconnect 1), numbering 1⟩, ⟨.dispatch 0, numbering 1⟩] ++ acceptedRun

theorem lostAndFoundRun_alternates :
    let s := run hookedRun (start .standard)
    s.hooks.online.isSome ∧ s.hooks.offline.isSome ∧
    List.IsChain (· ≠ ·) (false :: notices (since s (run lostAndFoundRun s))) ∧
    notices (since s (run lostAndFoundRun s)) = [true, false, true] := by
  intro s
  have alternates := (notices_alternate_iff .standard hookedRun lostAndFoundRun rfl rfl).1
  have ordinary : supersedes lostAndFoundRun s false = false := by decide +kernel
  exact ⟨rfl, rfl, alternates.mpr ordinary, by decide +kernel⟩

/-- The application disconnects and connects again before the end of its session is dispatched. It is
told twice in a row that its session is there. -/
theorem replacingRun_repeats :
    let moves := hookedRun ++ acceptedRun ++ [⟨.disconnect (.notified none), numbering 1⟩] ++ acceptedRun
    notices (since (start .standard) (run moves (start .standard))) = [true, true] := by
  decide +kernel

end Session

end DurableMqtt
