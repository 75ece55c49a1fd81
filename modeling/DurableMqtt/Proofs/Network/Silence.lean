import DurableMqtt.Network.Client
import DurableMqtt.Proofs.Network.Ending

/-!
What a connection that was given up still reports.

Its task is told to be silent and looks whether it was told after it has taken a notification. Past
that look it reports what the notification means, whenever it gets to it. So a connection is silent
from the moment on which it is given up, unless its task stands between its look and the last of its
reports at that moment.
-/

namespace DurableMqtt.Network

namespace Link

/-- What the task will report although it is told to be silent. -/
def due (l : Link) : List Event :=
  match l.stage with
  | .cleared notification => (l.tracker.observe notification).1
  | .reporting reports _ => reports
  | _ => []

variable {l : Link}

theorem due_take (l : Link) (notification : Notification) : (l.take notification).due = l.due := by
  obtain ⟨tracker, silenced, stage⟩ := l
  cases stage <;> rfl

theorem silenced_take (l : Link) (notification : Notification) :
    (l.take notification).silenced = l.silenced := by
  obtain ⟨tracker, silenced, stage⟩ := l
  cases stage <;> rfl

theorem silenced_step (l : Link) : l.step.2.silenced = l.silenced := by
  obtain ⟨tracker, silenced, stage⟩ := l
  cases stage with
  | reporting reports last => cases reports <;> rfl
  | _ => rfl

theorem due_step (silenced : l.silenced = true) : l.step.1.toList ++ l.step.2.due = l.due := by
  obtain ⟨tracker, told, stage⟩ := l
  cases stage with
  | taken notification =>
    cases told
    · cases silenced
    · rfl
  | reporting reports last =>
    cases reports with
    | nil => cases last <;> rfl
    | cons report rest => rfl
  | _ => rfl

theorem stepsLeft_step (silenced : l.silenced = true) : l.step.2.stepsLeft ≤ l.stepsLeft - 1 := by
  obtain ⟨tracker, told, stage⟩ := l
  cases stage with
  | taken notification =>
    cases told
    · cases silenced
    · exact Nat.zero_le _
  | reporting reports last =>
    cases reports with
    | nil => cases last <;> exact le_rfl
    | cons report rest => exact le_rfl
  | cleared notification => exact le_rfl
  | polling | ended => exact le_rfl

theorem due_of_stepsLeft (rests : l.stepsLeft = 0) : l.due = [] := by
  obtain ⟨tracker, told, stage⟩ := l
  cases stage with
  | cleared notification | reporting reports last => cases rests
  | _ => rfl

end Link

namespace Client

/-- What the threads of a client do. The connections are numbered in the order in which they were
opened. -/
inductive Act where
  | bind
  | call (call : EngineCall)
  | stop
  /-- The task of a connection gets a notification. -/
  | take (place : Nat) (notification : Notification)
  /-- The task of a connection takes its next step. -/
  | step (place : Nat)

def takeAt (place : Nat) (notification : Notification) (c : Client) : Client :=
  if place < c.retired.length then c.takeRetired place notification
  else if place = c.retired.length then
    { c with
      connection := c.connection.map fun connection =>
        { connection with link := connection.link.take notification } }
  else c

def stepAt (place : Nat) (c : Client) : Option Event × Client :=
  if place < c.retired.length then c.stepRetired place
  else if place = c.retired.length then
    match c.connection with
    | none => (none, c)
    | some connection =>
      (connection.link.step.1,
        { c with connection := some { connection with link := connection.link.step.2 } })
  else (none, c)

def perform (c : Client) : Act → Option (Nat × Event) × Client
  | .bind => (none, c.bind)
  | .call call => (none, (c.call call).2)
  | .stop => (none, c.stop)
  | .take place notification => (none, c.takeAt place notification)
  | .step place => ((c.stepAt place).1.map (place, ·), (c.stepAt place).2)

def run : List Act → Client → Client
  | [], c => c
  | act :: rest, c => run rest (c.perform act).2

theorem run_append (first second : List Act) (c : Client) :
    run (first ++ second) c = run second (run first c) := by
  induction first generalizing c with
  | nil => rfl
  | cons act rest ih => exact ih (c.perform act).2

/-- What is reported in a run, and by the task of which connection. -/
def delivered : List Act → Client → List (Nat × Event)
  | [], _ => []
  | act :: rest, c => (c.perform act).1.toList ++ delivered rest (c.perform act).2

def ofPlace (place : Nat) (reports : List (Nat × Event)) : List Event :=
  (reports.filter (·.1 = place)).map Prod.snd

def deliveredBy (place : Nat) (acts : List Act) (c : Client) : List Event :=
  ofPlace place (delivered acts c)

variable {c : Client} {place : Nat} {link : Link}

/-! ### Connections that were given up -/

theorem retired_stop (c : Client) :
    c.stop.retired = c.retired ∨ ∃ connection, c.connection = some connection ∧
      c.stop.retired = c.retired ++ [connection.link.silence] := by
  unfold stop
  cases c.connection with
  | none => exact .inl rfl
  | some connection => exact .inr ⟨connection, rfl, rfl⟩

theorem retired_call (c : Client) (call : EngineCall) :
    (c.call call).2.retired = c.retired ∨ (c.call call).2.retired = c.stop.retired := by
  have sent (kind : PacketKind) : (c.send call kind).2.retired = c.retired := by
    unfold send
    cases c.connection with
    | none => rfl
    | some connection =>
      simp only
      split <;> rfl
  unfold Client.call
  split
  · cases call with
    | connect keepAlive =>
      simp only [connect]
      split
      · exact .inl rfl
      · exact .inr rfl
    | disconnect =>
      simp only [disconnect]
      split
      · exact .inl rfl
      · split <;> exact .inl rfl
    | publish | subscribe | unsubscribe => exact .inl (sent _)
  · exact .inl rfl

theorem ofPlace_append (place : Nat) (first second : List (Nat × Event)) :
    ofPlace place (first ++ second) = ofPlace place first ++ ofPlace place second := by
  rw [ofPlace, List.filter_append, List.map_append, ofPlace, ofPlace]

theorem ofPlace_self (place : Nat) (report : Option Event) :
    ofPlace place (report.map (place, ·)).toList = report.toList := by
  cases report <;> simp [ofPlace]

theorem ofPlace_of_ne {other : Nat} (apart : other ≠ place) (report : Option Event) :
    ofPlace place (report.map (other, ·)).toList = [] := by
  cases report <;> simp [ofPlace, apart]

theorem stepAt_closed (closed : c.retired[place]? = some link) :
    c.stepAt place = (link.step.1, { c with retired := c.retired.set place link.step.2 }) := by
  rw [stepAt, if_pos (List.getElem?_eq_some_iff.mp closed).1]
  simp only [stepRetired, closed]

/-- An act keeps a connection that was given up, and reports no more of it than is due. -/
theorem due_perform (closed : c.retired[place]? = some link) (silenced : link.silenced = true)
    (act : Act) :
    ∃ link', (c.perform act).2.retired[place]? = some link' ∧ link'.silenced = true ∧
      ofPlace place (c.perform act).1.toList ++ link'.due = link.due := by
  have within : place < c.retired.length := (List.getElem?_eq_some_iff.mp closed).1
  have stopped : c.stop.retired[place]? = some link := by
    rcases retired_stop c with same | ⟨connection, -, more⟩
    · rw [same, closed]
    · rw [more, List.getElem?_append_left within, closed]
  cases act with
  | bind => exact ⟨link, closed, silenced, rfl⟩
  | stop => exact ⟨link, stopped, silenced, rfl⟩
  | call call =>
    refine ⟨link, ?_, silenced, rfl⟩
    rcases retired_call c call with same | same
    · exact (congrArg (·[place]?) same).trans closed
    · exact (congrArg (·[place]?) same).trans stopped
  | take other notification =>
    change ∃ link', (c.takeAt other notification).retired[place]? = some link' ∧ _ ∧
      [] ++ link'.due = _
    unfold takeAt
    split
    · by_cases here : other = place
      · refine ⟨link.take notification, ?_, (link.silenced_take notification).trans silenced,
          link.due_take notification⟩
        simp [takeRetired, here, closed]
      · refine ⟨link, ?_, silenced, rfl⟩
        simp [takeRetired, here, closed]
    · split <;> exact ⟨link, closed, silenced, rfl⟩
  | step other =>
    change ∃ link', (c.stepAt other).2.retired[place]? = some link' ∧ _ ∧
      ofPlace place ((c.stepAt other).1.map (other, ·)).toList ++ link'.due = _
    by_cases here : other = place
    · subst here
      rw [stepAt_closed closed, ofPlace_self]
      exact ⟨link.step.2, List.getElem?_set_self within, link.silenced_step.trans silenced,
        Link.due_step silenced⟩
    · rw [ofPlace_of_ne here]
      refine ⟨link, ?_, silenced, rfl⟩
      unfold stepAt
      split
      · unfold stepRetired
        split
        · exact closed
        · exact (List.getElem?_set_ne here).trans closed
      · split
        · split <;> exact closed
        · exact closed

/-! ### Runs -/

theorem due_run (closed : c.retired[place]? = some link) (silenced : link.silenced = true)
    (acts : List Act) :
    ∃ link', (run acts c).retired[place]? = some link' ∧ link'.silenced = true ∧
      deliveredBy place acts c ++ link'.due = link.due := by
  induction acts generalizing c link with
  | nil => exact ⟨link, closed, silenced, rfl⟩
  | cons act rest ih =>
    obtain ⟨next, kept, told, here⟩ := due_perform closed silenced act
    obtain ⟨last, left, still, later⟩ := ih kept told
    refine ⟨last, left, still, ?_⟩
    rw [deliveredBy, delivered, ofPlace_append, List.append_assoc, ← here]
    exact congrArg (_ ++ ·) later

def IsQuieted (c : Client) : Prop := ∀ link ∈ c.retired, link.silenced = true

theorem IsQuieted.stop (quieted : c.IsQuieted) : c.stop.IsQuieted := by
  intro link member
  rcases retired_stop c with same | ⟨connection, -, more⟩
  · rw [same] at member
    exact quieted link member
  · rw [more] at member
    rcases List.mem_append.mp member with old | new
    · exact quieted link old
    · rw [List.mem_singleton.mp new]
      rfl

theorem IsQuieted.perform (quieted : c.IsQuieted) (act : Act) : (c.perform act).2.IsQuieted := by
  cases act with
  | bind => exact quieted
  | stop => exact quieted.stop
  | call call =>
    intro link member
    change link ∈ (c.call call).2.retired at member
    rcases retired_call c call with same | same
    · exact quieted link (same ▸ member)
    · exact quieted.stop link (same ▸ member)
  | take place notification =>
    intro link member
    change link ∈ (c.takeAt place notification).retired at member
    unfold takeAt at member
    split at member
    · obtain ⟨i, bound, found⟩ := List.getElem_of_mem member
      simp only [takeRetired, List.getElem_modify] at found
      split at found
      · rw [← found, Link.silenced_take]
        exact quieted _ (List.getElem_mem _)
      · rw [← found]
        exact quieted _ (List.getElem_mem _)
    · split at member <;> exact quieted link member
  | step place =>
    intro link member
    change link ∈ (c.stepAt place).2.retired at member
    unfold stepAt at member
    split at member
    · unfold stepRetired at member
      split at member
      · exact quieted link member
      next old found =>
        rcases List.mem_or_eq_of_mem_set member with other | same
        · exact quieted link other
        · rw [same, Link.silenced_step]
          exact quieted old (List.mem_of_getElem? found)
    · split at member
      · split at member <;> exact quieted link member
      · exact quieted link member

theorem quieted_run (quieted : c.IsQuieted) (acts : List Act) : (run acts c).IsQuieted := by
  induction acts generalizing c with
  | nil => exact quieted
  | cons act rest ih => exact ih (quieted.perform act)

theorem delivered_steps (closed : c.retired[place]? = some link) (silenced : link.silenced = true)
    (n : Nat) (enough : link.stepsLeft ≤ n) :
    deliveredBy place (List.replicate n (.step place)) c = link.due := by
  induction n generalizing c link with
  | zero => exact (Link.due_of_stepsLeft (Nat.le_zero.mp enough)).symm
  | succ n ih =>
    have stepped : c.perform (.step place) =
        (link.step.1.map (place, ·), { c with retired := c.retired.set place link.step.2 }) := by
      rw [perform, stepAt_closed closed]
    have within : place < c.retired.length := (List.getElem?_eq_some_iff.mp closed).1
    have fewer := Link.stepsLeft_step silenced
    have onward := @ih { c with retired := c.retired.set place link.step.2 } link.step.2
      (List.getElem?_set_self within) (link.silenced_step.trans silenced) (by omega)
    rw [List.replicate_succ, deliveredBy, delivered, stepped, ofPlace_append, ofPlace_self,
      ← Link.due_step silenced]
    exact congrArg (_ ++ ·) onward

/-! ### The connection at hand -/

/-- How the task of the connection at hand serves a notification if nothing happens between its
steps. -/
def serving (c : Client) (connection : Connection) (notification : Notification) : List Act :=
  .take c.retired.length notification ::
    List.replicate (connection.link.take notification).stepsLeft (.step c.retired.length)

theorem stepAt_open {connection : Connection} (opened : c.connection = some connection) :
    c.stepAt c.retired.length =
      (connection.link.step.1,
        { c with connection := some { connection with link := connection.link.step.2 } }) := by
  rw [stepAt, if_neg (Nat.lt_irrefl _), if_pos rfl]
  simp only [opened]

theorem steps_open (n : Nat) {connection : Connection} (opened : c.connection = some connection) :
    (deliveredBy c.retired.length (List.replicate n (.step c.retired.length)) c,
        run (List.replicate n (.step c.retired.length)) c) =
      ((connection.link.steps n).1,
        { c with connection := some { connection with link := (connection.link.steps n).2 } }) := by
  induction n generalizing c connection with
  | zero =>
    refine Prod.ext rfl ?_
    change c = { c with connection := some connection }
    rw [← opened]
  | succ n ih =>
    have onward := @ih
      { c with connection := some { connection with link := connection.link.step.2 } } _ rfl
    obtain ⟨reports, rest⟩ := Prod.mk.inj onward
    rw [List.replicate_succ, deliveredBy, delivered, run, perform, stepAt_open opened,
      ofPlace_append, ofPlace_self]
    exact Prod.ext (congrArg (_ ++ ·) reports) rest

theorem observe_eq {connection : Connection} (opened : c.connection = some connection)
    (notification : Notification) :
    c.observe notification =
      (deliveredBy c.retired.length (c.serving connection notification) c,
        run (c.serving connection notification) c) := by
  have taken : c.takeAt c.retired.length notification =
      { c with
        connection := some { connection with link := connection.link.take notification } } := by
    rw [takeAt, if_neg (Nat.lt_irrefl _), if_pos rfl, opened]
    rfl
  have served := @steps_open
    { c with connection := some { connection with link := connection.link.take notification } }
    (connection.link.take notification).stepsLeft _ rfl
  simp only [observe, opened, Link.serve]
  change _ = (deliveredBy _ _ (c.takeAt _ _), run _ (c.takeAt _ _))
  rw [taken]
  exact served.symm

/-! ### Silence -/

/-- What becomes of a connection that was given up. -/
structure Silences (place : Nat) (link : Link) (c : Client) : Prop where
  /-- Whatever happens, it reports no more than was due, in order, and what is left stays due. -/
  bounded : ∀ acts, ∃ link', (run acts c).retired[place]? = some link' ∧
    deliveredBy place acts c ++ link'.due = link.due
  /-- All that was due is reported once its task has taken its steps. -/
  reached : deliveredBy place (List.replicate link.stepsLeft (.step place)) c = link.due
  silent_iff : (∀ acts, deliveredBy place acts c = []) ↔ link.due = []

/-- A connection is silent from the moment on which it is given up just if its task is not past its
look at that moment, or has nothing left to report. What a client observes in one go is such acts as
well. -/
theorem closed_silent_iff (options : Options) (capacity : Nat) (before : List Act) (place : Nat)
    (link : Link) (closed : (run before (ofOptions options capacity)).retired[place]? = some link) :
    let c := run before (ofOptions options capacity)
    Silences place link c ∧
      ∀ connection notification, c.connection = some connection →
        c.observe notification =
          (deliveredBy c.retired.length (c.serving connection notification) c,
            run (before ++ c.serving connection notification) (ofOptions options capacity)) := by
  intro c
  have silenced : link.silenced = true :=
    quieted_run (fun link member => absurd member List.not_mem_nil) before link
      (List.mem_of_getElem? closed)
  have reached := delivered_steps closed silenced link.stepsLeft le_rfl
  have bounded := due_run closed silenced
  have silences : Silences place link c := by
    constructor
    case bounded =>
      intro acts
      obtain ⟨link', kept, -, same⟩ := bounded acts
      exact ⟨link', kept, same⟩
    case reached => exact reached
    case silent_iff =>
      constructor
      · intro silent
        rw [← reached]
        exact silent _
      · intro nothing acts
        obtain ⟨link', -, -, same⟩ := bounded acts
        rw [nothing] at same
        exact (List.append_eq_nil_iff.mp same).1
  refine ⟨silences, fun connection notification opened => ?_⟩
  rw [run_append]
  exact observe_eq opened notification

/-- A connection is opened, its task gets a notification, and another connection takes its
place. -/
def replacingActs (steps : Nat) : List Act :=
  [.bind, .call (.connect .zero), .take 0 (.error .networkTimeout)] ++
    List.replicate steps (.step 0) ++ [.call (.connect .zero)]

/-- A task that has yet to look is silent for good. -/
theorem replacing_silent :
    let c := run (replacingActs 0) (ofOptions default 10)
    c.retired[0]? = some { silenced := true, stage := .taken (.error .networkTimeout) } ∧
      ∀ acts, deliveredBy 0 acts c = [] := by
  have closed : (run (replacingActs 0) (ofOptions default 10)).retired[0]? =
      some { silenced := true, stage := .taken (.error .networkTimeout) } := rfl
  obtain ⟨silences, -⟩ := closed_silent_iff default 10 (replacingActs 0) 0 _ closed
  exact ⟨closed, silences.silent_iff.mpr rfl⟩

/-- A task that has looked reports its end after the next connection is opened. -/
theorem replacing_late :
    let c := run (replacingActs 1) (ofOptions default 10)
    c.retired.length = 1 ∧ c.isActive = true ∧
      deliveredBy 0 [.step 0, .step 0] c = [.disconnect connectionLost] := by
  decide +kernel

end Client

end DurableMqtt.Network
