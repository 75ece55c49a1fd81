import DurableMqtt.Proofs.Callback
import DurableMqtt.Proofs.Run.Passage
import DurableMqtt.Proofs.Run.Routing

/-!
In which order messages reach their handlers.

A session hands every message to the callback pool when it dispatches it, so the jobs are submitted
in the order in which the messages arrive. The pool then runs them, and with several workers a later
message may be seen first.
-/

namespace DurableMqtt

def Job.delivery? : Job → Option (Callback × Message)
  | deliver handler m => some (handler, m)
  | _ => none

def Effect.job? : Effect → Option Job
  | submitted job => some job
  | _ => none

namespace Session

def jobs (effects : List Effect) : List Job := effects.filterMap Effect.job?

def deliveries (jobs : List Job) : List (Callback × Message) := jobs.filterMap Job.delivery?

def addressed (e : Event) (s : Session) : List (Callback × Message) :=
  match e.kind with
  | .message message =>
    match s.registry.routing message.topic with
    | .ok (some record) => [(record.handler, message)]
    | _ => []
  | _ => []

def arrived (m : Move) (s : Session) : List (Callback × Message) :=
  (dispatched? m s).elim [] (addressed · s)

def arrivals : List Move → Session → List (Callback × Message)
  | [], _ => []
  | m :: rest, s => arrived m s ++ arrivals rest (s.after m)

variable {s t : Session} {m : Move} {engine : Engine} {now : Instant}

/-! ### One step -/

theorem jobs_append (first second : List Effect) : jobs (first ++ second) = jobs first ++ jobs second :=
  List.filterMap_append

theorem deliveries_append (first second : List Job) :
    deliveries (first ++ second) = deliveries first ++ deliveries second := List.filterMap_append

def Hands (messages : List (Callback × Message)) (s t : Session) : Prop :=
  ∃ effects, t.effects = s.effects ++ effects ∧ deliveries (jobs effects) = messages

theorem Hands.of_append {messages : List (Callback × Message)} (effects : List Effect)
    (appended : t.effects = s.effects ++ effects) (handed : deliveries (jobs effects) = messages) :
    Hands messages s t := ⟨effects, appended, handed⟩

theorem Hands.of_same (same : t.effects = s.effects) : Hands [] s t :=
  .of_append [] (same.trans (List.append_nil _).symm) rfl

def Handless (effects : List Effect) : Prop := deliveries (jobs effects) = []

theorem Handless.append {first second : List Effect} (early : Handless first)
    (late : Handless second) : Handless (first ++ second) := by
  unfold Handless at *
  rw [jobs_append, deliveries_append, early, late, List.append_nil]

theorem told_handless (id : RequestId) (responder : Option Responder) (ack : Ack) :
    Handless (told id responder ack) := by
  unfold told
  split <;> rfl

theorem answered_handless (table : PendingTable) (id : RequestId) (ack : Ack) :
    Handless (answered table id ack) := by
  unfold answered
  split
  · exact told_handless _ _ _
  · rfl

theorem discarded_handless (entries : List (UInt32 × PendingEntry)) :
    Handless (discarded entries) := by
  induction entries with
  | nil => rfl
  | cons entry rest ih => exact (told_handless _ _ _).append ih

theorem hooked_handless (hook : Option Callback) (job : Callback → Job)
    (plain : ∀ callback, (job callback).delivery? = none) : Handless (hooked hook job) := by
  cases hook with
  | none => rfl
  | some callback => simp [Handless, hooked, jobs, deliveries, Effect.job?, plain]

theorem farewell_handless (s : Session) : Handless s.farewell := by
  unfold farewell
  split
  · exact hooked_handless _ _ fun _ => rfl
  · rfl

theorem hands_hungUp {code : UInt8} (hungUp : HungUp code s t) : Hands [] s t := by
  cases hungUp with
  | closed phase =>
    exact .of_append _ rfl ((farewell_handless s).append ((answered_handless _ _ _).append rfl))
  | idle phase => exact .of_append _ rfl (farewell_handless s)
  | connecting phase => exact .of_append _ rfl (farewell_handless s)
  | lost established =>
    exact .of_append _ rfl ((farewell_handless s).append (discarded_handless _))

theorem hands_deliver {e : Event} {message : Message} (kind : e.kind = .message message)
    (s : Session) : Hands (s.addressed e) s (s.deliver message) := by
  have observed : Handless (hooked s.hooks.message (.observe · message)) :=
    hooked_handless _ _ fun _ => rfl
  unfold deliver addressed
  simp only [submitHook_eq, kind]
  cases s.registry.routing message.topic with
  | error fault => exact .of_append _ rfl observed
  | ok recipient =>
    cases recipient with
    | some record =>
      apply Hands.of_append (hooked s.hooks.message (.observe · message) ++
        [.submitted (.deliver record.handler message)])
      · exact List.append_assoc _ _ _
      · rw [jobs_append, deliveries_append, observed]
        rfl
    | none =>
      apply Hands.of_append (hooked s.hooks.message (.observe · message) ++
        hooked s.hooks.unhandled (.unhandled · message))
      · exact List.append_assoc _ _ _
      · exact observed.append (hooked_handless _ _ fun _ => rfl)

theorem addressed_of_other {e : Event} (other : ∀ message, e.kind ≠ .message message) :
    s.addressed e = [] := by
  unfold addressed
  split
  next message kind => exact absurd kind (other message)
  next => rfl

theorem hands_handle (e : Event) (s : Session) : Hands (s.addressed e) s (s.handle now e) := by
  by_cases carries : ∃ message, e.kind = .message message
  · obtain ⟨message, kind⟩ := carries
    rw [handle, kind]
    exact hands_deliver kind s
  · push Not at carries
    rw [addressed_of_other carries]
    have handled : Handled now e s (s.handle now e) := handle_handled now e s
    generalize s.handle now e = t at handled ⊢
    cases handled with
    | welcomed accepted connecting =>
      exact .of_append _ rfl ((answered_handless _ _ _).append (hooked_handless _ _ fun _ => rfl))
    | turnedAway refusal refused nonzero connecting =>
      exact .of_append _ rfl ((answered_handless _ _ _).append rfl)
    | unheeded other connack elsewhere => exact .of_append _ rfl (answered_handless _ _ _)
    | hungUp code ended t hungUp => exact hands_hungUp hungUp
    | unknown ack of unknown => exact .of_same rfl
    | acknowledged ack of entry found consumer kept => exact .of_append _ rfl (told_handless _ _ _)
    | delivered message delivery consumer effects same hooks => exact absurd delivery (carries message)

theorem hands_dispatch (s : Session) :
    Hands (arrived ⟨.dispatch now, engine⟩ s) s (s.dispatch engine now) := by
  unfold arrived
  cases next : s.nextEvent? with
  | none =>
    have unseen : dispatched? ⟨.dispatch now, engine⟩ s = none := next
    have idle : s.dispatch engine now = s := by simp only [dispatch, next]
    rw [unseen, idle]
    exact Hands.of_same rfl
  | some e =>
    have seen : dispatched? ⟨.dispatch now, engine⟩ s = some e := next
    rw [seen, dispatch_eq s next]
    exact hands_handle e { s with events := s.events.next.2 }

theorem hands_step (m : Move) (s : Session) : Hands (arrived m s) s (s.after m) := by
  obtain ⟨step, engine⟩ := m
  cases step with
  | dispatch now => exact hands_dispatch s
  | connect caller =>
    change Hands [] s (s.connect engine caller).2
    rw [connect_eq]
    split
    · split <;> exact .of_append _ rfl rfl
    · exact .of_same rfl
  | disconnect caller =>
    change Hands [] s (s.disconnect engine caller).2
    rw [disconnect_eq]
    simp only
    split
    · split <;> exact .of_append _ rfl rfl
    · exact .of_same rfl
  | request request caller =>
    have routed : Routed engine _ _ s (s.route engine request caller) := route_routed request caller s
    change Hands [] s (s.route engine request caller).2
    generalize s.route engine request caller = result at routed ⊢
    cases routed with
    | sent number taken ready => exact .of_append _ rfl rfl
    | refused error cause refused ready => exact .of_append _ rfl rfl
    | _ => exact .of_same rfl
  | tick now =>
    have paced : Paced engine s (s.tick engine now) := tick_paced s
    change Hands [] s (s.tick engine now)
    generalize s.tick engine now = t at paced ⊢
    cases paced with
    | rested phase consumer backoff onward => exact .of_same rfl
    | discarded a rest cause consumer onward head refused permanent =>
      apply Hands.of_append (.called a.request.call (.error cause) (some a.ticket) :: told .queued
        (a.request.onAck.map .pooled) .discarded)
      · simp
      · exact told_handless _ _ _
    | _ => exact .of_append _ rfl rfl
  | adjust adjustment =>
    obtain ⟨settings, hooks, backoff, adjusted⟩ := adjust_eq adjustment s
    change Hands [] s (s.adjust adjustment)
    rw [adjusted]
    exact .of_same rfl
  | supervise now =>
    have supervised : Supervised engine s (s.supervise engine now) := supervise_supervised s
    change Hands [] s (s.supervise engine now)
    generalize s.supervise engine now = t at supervised ⊢
    cases supervised with
    | connected slept number attempting opened taken => exact .of_append _ rfl rfl
    | refused slept cause attempting opened answer => exact .of_append _ rfl rfl
    | _ => exact .of_same rfl
  | configureQueue capacity policy => exact .of_same rfl
  | report report => exact .of_same rfl
  | expire timer => exact .of_same rfl

theorem deliveries_run (moves : List Move) (s : Session) :
    deliveries (jobs (since s (run moves s))) = arrivals moves s := by
  induction moves generalizing s with
  | nil => rw [run, since_self]; rfl
  | cons m rest ih =>
    obtain ⟨effects, appended, handed⟩ := hands_step m s
    calc
      deliveries (jobs (since s (run (m :: rest) s)))
        = deliveries (jobs (since s (s.after m))) ++
            deliveries (jobs (since (s.after m) (run rest (s.after m)))) := by
          rw [since_run_cons, jobs_append, deliveries_append]
      _ = arrived m s ++ arrivals rest (s.after m) := by
          rw [since_of_append appended, handed, ih]

/-! ### The pool -/

open CallbackPool

theorem deliveries_unnumbered_prefix {size : Nat} {acts : List (Act Job)}
    (calm : overtakesAlong (numbered 0 acts) (CallbackPool.start size) = false) :
    deliveries (acted acts (CallbackPool.start size)).ran <+: deliveries (submitted acts) := by
  have ordered := (runs size acts).ordered_iff.mpr calm
  have unnumbered := ordered.map Prod.fst
  rw [List.zipIdx_map_fst] at unnumbered
  rw [(runs size acts).same]
  exact unnumbered.filterMap Job.delivery?

/-- Every job that is submitted to a pool is taken in its turn and run once, and the jobs are run in
the order of submission just as long as no worker runs one while another one holds an older one. Only
a pool of a single worker keeps that order under every schedule. The messages of a session are
submitted in the order in which they are dispatched, and reach their handlers in that order if no
worker overtakes another one. -/
theorem callbacks_ordered {α : Type} [Inhabited α] (size : Nat) :
    (∀ acts : List (Act α), Runs size acts) ∧
    ((∀ acts : List (Act α), (ledger size acts).ran <+: (submitted acts).zipIdx) ↔ size ≤ 1) ∧
    ∀ (moves : List Move) (s : Session) (acts : List (Act Job)),
      submitted acts = jobs (since s (run moves s)) →
      deliveries (submitted acts) = arrivals moves s ∧
      (overtakesAlong (numbered 0 acts) (CallbackPool.start size) = false →
        deliveries (acted acts (CallbackPool.start size)).ran <+: arrivals moves s) := by
  refine ⟨runs size, ordered_iff_single size, fun moves s acts same => ?_⟩
  have arriving : deliveries (submitted acts) = arrivals moves s := by
    rw [same, deliveries_run]
  refine ⟨arriving, fun calm => ?_⟩
  rw [← arriving]
  exact deliveries_unnumbered_prefix calm

def laterMessage : Message := ⟨"t", ⟨#[1]⟩, .atMostOnce, false⟩

def twiceArrivingRun : List Move :=
  arrivingRun "t" ++
    [⟨.report (.message laterMessage), numbering 1⟩, ⟨.dispatch 0, numbering 1⟩,
     ⟨.dispatch 0, numbering 1⟩]

def firstJob : Job := .deliver ⟨"h"⟩ (plainMessage "t")

def laterJob : Job := .deliver ⟨"h"⟩ laterMessage

theorem twiceArrivingRun_ordered :
    let acts : List (Act Job) :=
      [.submit firstJob, .submit laterJob, .take 0, .take 1, .run 0, .run 1]
    submitted acts = jobs (since (start .standard) (run twiceArrivingRun (start .standard))) ∧
    overtakesAlong (numbered 0 acts) (CallbackPool.start 4) = false ∧
    deliveries (acted acts (CallbackPool.start 4)).ran <+:
      arrivals twiceArrivingRun (start .standard) := by
  intro acts
  have same : submitted acts =
      jobs (since (start .standard) (run twiceArrivingRun (start .standard))) := by
    decide +kernel
  have calm : overtakesAlong (numbered 0 acts) (CallbackPool.start 4) = false := by decide +kernel
  obtain ⟨-, -, ordered⟩ := callbacks_ordered (α := Job) 4
  exact ⟨same, calm, (ordered twiceArrivingRun (start .standard) acts same).2 calm⟩

/-- Of the two messages, which are on one topic, the later one reaches the handler first: two of the
workers take one job each, and the second worker runs its job first. -/
theorem twiceArrivingRun_reordered :
    arrivals twiceArrivingRun (start .standard) =
      [(⟨"h"⟩, plainMessage "t"), (⟨"h"⟩, laterMessage)] ∧
    submitted (race firstJob laterJob) =
      jobs (since (start .standard) (run twiceArrivingRun (start .standard))) ∧
    (acted (race firstJob laterJob)
      (CallbackPool.start Settings.standard.callbackWorkers)).ran = [laterJob, firstJob] := by
  decide +kernel

end Session

end DurableMqtt
