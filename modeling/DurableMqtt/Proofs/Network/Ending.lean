import DurableMqtt.Proofs.Network.Tracker

/-!
How a connection that is served comes to its end.

The task of a connection reports what its notifications mean, one after the other, while requests
are expected and taken back on other threads. It hears nothing after an ending, so the end is
reported once and last. If the task is not told to be silent, the end is reported whenever there is
one.
-/

namespace DurableMqtt.Network

def reportsEnd (e : Event) : Bool :=
  match e.kind with
  | .disconnect _ => true
  | _ => false

namespace Tracker

/-- What is reported of an ending before the end itself: the answer to CONNECT, if that is what
ended the connection. -/
def parting : Notification → List Event
  | .error (.refused code) => [.connack code.byte]
  | _ => []

def closingCode : Notification → UInt8
  | .ok .sentDisconnect => closedLocally
  | .ok _ => closedByBroker
  | .error (.refused code) => code.byte
  | .error _ => connectionLost

def Act.notification? : Act → Option Notification
  | .observe notification => some notification
  | _ => none

def heard (history : List Act) : List Notification := history.filterMap Act.notification?

def reported : List Act → Tracker → List Event
  | [], _ => []
  | act :: rest, t => (t.perform act).1 ++ reported rest (t.perform act).2

variable {t : Tracker} {notification : Notification} {history : List Act}

/-! ### What a notification means -/

theorem observe_of_ends (ends : endsConnection notification = true) (t : Tracker) :
    t.observe notification =
      (parting notification ++ [.disconnect (closingCode notification)], {}) := by
  cases notification with
  | error fault => cases fault <;> rfl
  | ok event => cases event <;> first | rfl | cases ends

theorem quiet_parting : ∀ e ∈ parting notification, reportsEnd e = false := by
  unfold parting
  split
  · intro e member
    rw [List.mem_singleton.mp member]
    rfl
  · exact fun e member => absurd member List.not_mem_nil

theorem length_observe_le (t : Tracker) (notification : Notification) :
    (t.observe notification).1.length ≤ 2 := by
  cases notification with
  | error fault => cases fault <;> simp [observe, failure]
  | ok event =>
    have one : (t.translate event).1.toList.length ≤ 1 := by
      cases (t.translate event).1 <;> simp
    exact one.trans (by decide)

theorem quiet_observe (goesOn : endsConnection notification = false) (t : Tracker) :
    ∀ e ∈ (t.observe notification).1, reportsEnd e = false := by
  cases notification with
  | error fault => cases goesOn
  | ok event =>
    intro e member
    have meant : (t.translate event).1 = some e := Option.mem_toList.mp member
    cases event with
    | sent kind packet =>
      change (t.noteSent kind packet).1 = some e at meant
      unfold noteSent at meant
      split at meant
      · cases meant
      · split at meant
        · split at meant <;> cases meant
          rfl
        · cases meant
        · cases meant
    | sentDisconnect | disconnect => cases goesOn
    | connack | publish =>
      cases meant
      rfl
    | puback | suback | unsuback =>
      rw [translate_of_acknowledges rfl] at meant
      split at meant <;> cases meant
      rfl
    | other => cases meant

/-! ### Histories -/

theorem heard_append (first second : List Act) :
    heard (first ++ second) = heard first ++ heard second := List.filterMap_append

theorem reported_append (first second : List Act) (t : Tracker) :
    reported (first ++ second) t = reported first t ++ reported second (run first t) := by
  induction first generalizing t with
  | nil => rfl
  | cons act rest ih => rw [List.cons_append, reported, ih, reported, List.append_assoc, run]

theorem quiet_reported (goesOn : ∀ n ∈ heard history, endsConnection n = false) (t : Tracker) :
    ∀ e ∈ reported history t, reportsEnd e = false := by
  induction history generalizing t with
  | nil => exact fun e member => absurd member List.not_mem_nil
  | cons act rest ih =>
    have later : ∀ n ∈ heard rest, endsConnection n = false := by
      intro n member
      apply goesOn
      rw [← List.singleton_append, heard_append]
      exact List.mem_append_right _ member
    intro e member
    rcases List.mem_append.mp member with here | after
    · cases act with
      | expect | forget => cases here
      | observe notification =>
        exact quiet_observe (goesOn notification List.mem_cons_self) t e here
    · exact ih later _ e after

theorem reported_of_unheard (unheard : heard history = []) (t : Tracker) :
    reported history t = [] := by
  induction history generalizing t with
  | nil => rfl
  | cons act rest ih =>
    cases act with
    | observe notification => cases unheard
    | expect | forget => exact ih unheard _

theorem run_withdrawals (unheard : heard history = [])
    (unexpected : ∀ kind number, .expect kind number ∉ history) : run history {} = {} := by
  induction history with
  | nil => rfl
  | cons act rest ih =>
    cases act with
    | observe notification => cases unheard
    | expect kind number => exact absurd List.mem_cons_self (unexpected kind number)
    | forget number =>
      exact ih unheard fun kind number member =>
        unexpected kind number (List.mem_cons_of_mem _ member)

theorem heard_concat {before : List Notification}
    (parts : heard history = before ++ [notification]) :
    ∃ sooner later, history = sooner ++ .observe notification :: later ∧ heard sooner = before ∧
      heard later = [] := by
  obtain ⟨sooner, rest, rfl, first, last⟩ := List.filterMap_eq_append_iff.mp parts
  obtain ⟨aside, act, later, rfl, unheard, hears, silent⟩ := List.filterMap_eq_cons_iff.mp last
  have observes : act = .observe notification := by
    cases act with
    | observe other => rw [Option.some.inj hears]
    | expect | forget => cases hears
  refine ⟨sooner ++ aside, later, by rw [observes, List.append_assoc], ?_, ?_⟩
  · have none : heard aside = [] := List.filterMap_eq_nil_iff.mpr unheard
    rw [heard_append, none, List.append_nil]
    exact first
  · exact silent

theorem reported_of_ends {before : List Notification}
    (parts : heard history = before ++ [notification])
    (open' : ∀ n ∈ before, endsConnection n = false)
    (ends : endsConnection notification = true) (t : Tracker) :
    ∃ earlier, (∀ e ∈ earlier, reportsEnd e = false) ∧
      reported history t =
        earlier ++ parting notification ++ [.disconnect (closingCode notification)] := by
  obtain ⟨sooner, later, rfl, first, silent⟩ := heard_concat parts
  refine ⟨reported sooner t, quiet_reported (by rw [first]; exact open') t, ?_⟩
  rw [reported_append, reported, perform, observe_of_ends ends, reported_of_unheard silent,
    List.append_nil, List.append_assoc]

end Tracker

/-! ### The task -/

def Link.unreported (l : Link) : List Event :=
  match l.stage with
  | .reporting reports _ => reports
  | _ => []

def Link.isClosing (l : Link) : Bool :=
  match l.stage with
  | .reporting _ last => last
  | .ended => true
  | _ => false

theorem Link.isClosing_of_isEnded {l : Link} (ended : l.isEnded = true) : l.isClosing = true := by
  unfold isEnded at ended
  unfold isClosing
  split at ended
  next stage => rw [stage]
  next => cases ended

theorem Link.unreported_of_isEnded {l : Link} (ended : l.isEnded = true) : l.unreported = [] := by
  unfold isEnded at ended
  unfold unreported
  split at ended
  next stage => rw [stage]
  next => cases ended

/-- What a task has heard, by where it stands. -/
inductive Hears (l : Link) (heard : List Notification) : Prop where
  | goesOn (going : l.isClosing = false) (open' : ∀ n ∈ heard, endsConnection n = false)
  | closes (closing : l.isClosing = true) (before : List Notification) (ending : Notification)
    (parts : heard = before ++ [ending]) (open' : ∀ n ∈ before, endsConnection n = false)
    (ends : endsConnection ending = true)
  | silenced (closing : l.isClosing = true) (silenced : l.silenced = true)
    (open' : ∀ n ∈ heard, endsConnection n = false)

namespace Hears

variable {l l' : Link} {heard : List Notification}

theorem of_same (hears : Hears l heard) (same : l'.isClosing = l.isClosing)
    (kept : l.silenced = true → l'.silenced = true) : Hears l' heard := by
  cases hears with
  | goesOn going open' => exact .goesOn (same.trans going) open'
  | closes closing before ending parts open' ends =>
    exact .closes (same.trans closing) before ending parts open' ends
  | silenced closing silenced open' => exact .silenced (same.trans closing) (kept silenced) open'

theorem open_dropLast (hears : Hears l heard) :
    ∀ n ∈ heard.dropLast, endsConnection n = false := by
  intro n member
  cases hears with
  | goesOn going open' => exact open' n (List.mem_of_mem_dropLast member)
  | closes closing before ending parts open' ends =>
    rw [parts, List.dropLast_concat] at member
    exact open' n member
  | silenced closing silenced open' => exact open' n (List.mem_of_mem_dropLast member)

theorem open_of_going (hears : Hears l heard) (going : l.isClosing = false) :
    ∀ n ∈ heard, endsConnection n = false := by
  cases hears with
  | goesOn _ open' => exact open'
  | closes closing | silenced closing =>
    rw [going] at closing
    cases closing

theorem quiet_dropLast {history : List Tracker.Act} (hears : Hears l (Tracker.heard history))
    (t : Tracker) : ∀ e ∈ (Tracker.reported history t).dropLast, reportsEnd e = false := by
  intro e member
  cases hears with
  | goesOn _ open' | silenced _ _ open' =>
    exact Tracker.quiet_reported open' t e (List.mem_of_mem_dropLast member)
  | closes closing before ending parts open' ends =>
    obtain ⟨earlier, quiet, same⟩ := Tracker.reported_of_ends parts open' ends t
    rw [same, List.dropLast_concat] at member
    exact (List.mem_append.mp member).elim (quiet e) (Tracker.quiet_parting e)

end Hears

/-- A connection that is served: its task, and the notifications that are still to come. -/
structure Service where
  link : Link
  coming : List Notification

namespace Service

inductive Act where
  /-- The task goes on: it gets the next notification, or it takes its next step. -/
  | work
  /-- The task is told to be silent. -/
  | silence
  /-- A request is expected on the connection. -/
  | expect (kind : PacketKind) (number : UInt32)
  /-- A request is taken back. -/
  | forget (number : UInt32)
deriving DecidableEq

def start (tracker : Tracker) (notifications : List Notification) : Service :=
  { link := { tracker }, coming := notifications }

def perform (s : Service) : Act → Option Event × Service
  | .work =>
    match s.link.stage, s.coming with
    | .polling, notification :: rest => (none, ⟨s.link.take notification, rest⟩)
    | _, _ => (s.link.step.1, { s with link := s.link.step.2 })
  | .silence => (none, { s with link := s.link.silence })
  | .expect kind number =>
    (none, { s with link := { s.link with tracker := s.link.tracker.expect kind number } })
  | .forget number =>
    (none, { s with link := { s.link with tracker := s.link.tracker.forget number } })

def tracking? (s : Service) : Act → Option Tracker.Act
  | .work =>
    match s.link.stage with
    | .cleared notification => some (.observe notification)
    | _ => none
  | .silence => none
  | .expect kind number => some (.expect kind number)
  | .forget number => some (.forget number)

def run : List Act → Service → Service
  | [], s => s
  | act :: rest, s => run rest (s.perform act).2

def delivered : List Act → Service → List Event
  | [], _ => []
  | act :: rest, s => (s.perform act).1.toList ++ delivered rest (s.perform act).2

def history : List Act → Service → List Tracker.Act
  | [], _ => []
  | act :: rest, s => (s.tracking? act).toList ++ history rest (s.perform act).2

variable {s : Service} {act : Act} {acts : List Act}

/-! ### Reports are translations -/

theorem tracker_perform (s : Service) (act : Act) :
    (s.perform act).2.link.tracker = Tracker.run (s.tracking? act).toList s.link.tracker := by
  cases act with
  | work =>
    obtain ⟨⟨tracker, silenced, stage⟩, coming⟩ := s
    cases stage with
    | polling => cases coming <;> rfl
    | reporting reports last => cases reports <;> rfl
    | _ => rfl
  | _ => rfl

theorem reported_perform (s : Service) (act : Act) :
    (s.perform act).1.toList ++ (s.perform act).2.link.unreported =
      s.link.unreported ++ Tracker.reported (s.tracking? act).toList s.link.tracker := by
  cases act with
  | work =>
    obtain ⟨⟨tracker, silenced, stage⟩, coming⟩ := s
    cases stage with
    | polling => cases coming <;> rfl
    | taken notification => cases silenced <;> rfl
    | cleared notification => exact (List.append_nil _).symm
    | reporting reports last =>
      cases reports with
      | nil => cases last <;> rfl
      | cons report rest => exact (List.append_nil _).symm
    | ended => rfl
  | _ => exact (List.append_nil _).symm

theorem tracker_run (acts : List Act) (s : Service) :
    (run acts s).link.tracker = Tracker.run (history acts s) s.link.tracker := by
  induction acts generalizing s with
  | nil => rfl
  | cons act rest ih => rw [run, ih, history, Tracker.run_append, tracker_perform]

/-- What is reported, and what is left to be reported, are the translations of what is heard. -/
theorem delivered_append_unreported (acts : List Act) (s : Service) :
    delivered acts s ++ (run acts s).link.unreported =
      s.link.unreported ++ Tracker.reported (history acts s) s.link.tracker := by
  induction acts generalizing s with
  | nil => exact (List.append_nil _).symm
  | cons act rest ih =>
    rw [delivered, run, List.append_assoc, ih, ← List.append_assoc, reported_perform,
      List.append_assoc, history, Tracker.reported_append, tracker_perform]

/-! ### What is heard -/

/-- The notifications that the task may still observe. -/
def ahead (s : Service) : List Notification :=
  match s.link.stage with
  | .polling | .reporting .. => s.coming
  | .taken notification | .cleared notification => notification :: s.coming
  | .ended => []

theorem heard_perform (s : Service) (act : Act) :
    Tracker.heard (s.tracking? act).toList ++ (s.perform act).2.ahead = s.ahead ∨
      Tracker.heard (s.tracking? act).toList = [] ∧ (s.perform act).2.link.isEnded = true := by
  cases act with
  | work =>
    obtain ⟨⟨tracker, silenced, stage⟩, coming⟩ := s
    cases stage with
    | polling => cases coming <;> exact .inl rfl
    | taken notification =>
      cases silenced
      · exact .inl rfl
      · exact .inr ⟨rfl, rfl⟩
    | cleared notification => exact .inl rfl
    | reporting reports last =>
      cases reports with
      | nil =>
        cases last
        · exact .inl rfl
        · exact .inr ⟨rfl, rfl⟩
      | cons report rest => exact .inl rfl
    | ended => exact .inl rfl
  | _ => exact .inl rfl

theorem ahead_of_ended (ended : s.link.isEnded = true) : s.ahead = [] := by
  unfold Link.isEnded at ended
  unfold ahead
  split at ended
  next stage => rw [stage]
  next => cases ended

theorem isEnded_perform (ended : s.link.isEnded = true) (act : Act) :
    (s.perform act).2.link.isEnded = true := by
  obtain ⟨⟨tracker, silenced, stage⟩, coming⟩ := s
  cases stage with
  | ended => cases act <;> rfl
  | _ => cases ended

theorem isEnded_run (ended : s.link.isEnded = true) (acts : List Act) :
    (run acts s).link.isEnded = true := by
  induction acts generalizing s with
  | nil => exact ended
  | cons act rest ih => exact ih (isEnded_perform ended act)

theorem heard_prefix (acts : List Act) (s : Service) :
    Tracker.heard (history acts s) <+: s.ahead := by
  induction acts generalizing s with
  | nil => exact List.nil_prefix
  | cons act rest ih =>
    rw [history, Tracker.heard_append]
    rcases heard_perform s act with same | ⟨unheard, ended⟩
    · rw [← same]
      exact (List.prefix_append_right_inj _).mpr (ih _)
    · have later := ih (s.perform act).2
      rw [ahead_of_ended ended, List.prefix_nil] at later
      rw [unheard, later]
      exact List.nil_prefix

theorem heard_of_running (acts : List Act) (s : Service)
    (running : (run acts s).link.isEnded = false) :
    Tracker.heard (history acts s) ++ (run acts s).ahead = s.ahead := by
  induction acts generalizing s with
  | nil => rfl
  | cons act rest ih =>
    rw [history, Tracker.heard_append, List.append_assoc, run, ih _ running]
    refine (heard_perform s act).resolve_right fun ⟨_, ended⟩ => ?_
    have stopped : (run rest (s.perform act).2).link.isEnded = true := isEnded_run ended rest
    rw [run, stopped] at running
    cases running

theorem hears_perform {heard : List Notification} (hears : Hears s.link heard) (act : Act) :
    Hears (s.perform act).2.link (heard ++ Tracker.heard (s.tracking? act).toList) := by
  have unheard : heard ++ Tracker.heard [] = heard := List.append_nil heard
  cases act with
  | work =>
    obtain ⟨⟨tracker, silenced, stage⟩, coming⟩ := s
    cases stage with
    | polling =>
      rw [tracking?, Option.toList_none, unheard]
      cases coming <;> exact hears.of_same rfl id
    | taken notification =>
      rw [tracking?, Option.toList_none, unheard]
      have open' := hears.open_of_going rfl
      cases silenced
      · exact .goesOn rfl open'
      · exact .silenced rfl rfl open'
    | cleared notification =>
      have open' := hears.open_of_going rfl
      cases ends : endsConnection notification with
      | true => exact .closes ends heard notification rfl open' ends
      | false =>
        refine .goesOn ends (List.forall_mem_append.mpr ⟨open', ?_⟩)
        exact fun n member => (List.mem_singleton.mp member) ▸ ends
    | reporting reports last =>
      rw [tracking?, Option.toList_none, unheard]
      cases reports with
      | nil => cases last <;> exact hears.of_same rfl id
      | cons report rest => exact hears.of_same rfl id
    | ended =>
      rw [tracking?, Option.toList_none, unheard]
      exact hears.of_same rfl id
  | silence =>
    rw [tracking?, Option.toList_none, unheard]
    exact hears.of_same rfl fun _ => rfl
  | expect | forget =>
    change Hears _ (heard ++ Tracker.heard [])
    rw [unheard]
    exact hears.of_same rfl id

theorem hears_run {heard : List Notification} (hears : Hears s.link heard) (acts : List Act) :
    Hears (run acts s).link (heard ++ Tracker.heard (history acts s)) := by
  induction acts generalizing s heard with
  | nil =>
    rw [history, show heard ++ Tracker.heard [] = heard from List.append_nil heard]
    exact hears
  | cons act rest ih =>
    rw [history, Tracker.heard_append, ← List.append_assoc]
    exact ih (hears_perform hears act)

theorem hears_start (tracker : Tracker) (notifications : List Notification) (acts : List Act) :
    Hears (run acts (start tracker notifications)).link
      (Tracker.heard (history acts (start tracker notifications))) := by
  have fresh : Hears (start tracker notifications).link [] :=
    .goesOn rfl fun n member => absurd member List.not_mem_nil
  exact hears_run fresh acts

/-! ### Coming to the end -/

/-- How many steps it takes the task, at most, to hear everything that comes. -/
def patience (s : Service) : Nat :=
  match s.link.stage with
  | .polling => 6 * s.coming.length
  | .taken _ => 6 * s.coming.length + 5
  | .cleared _ => 6 * s.coming.length + 4
  | .reporting reports _ => 6 * s.coming.length + reports.length + 1
  | .ended => 0

theorem patience_work (s : Service) : (s.perform .work).2.patience ≤ s.patience - 1 := by
  obtain ⟨⟨tracker, silenced, stage⟩, coming⟩ := s
  cases stage with
  | polling =>
    cases coming with
    | nil => exact le_rfl
    | cons notification rest => simp [perform, patience, Link.take]; omega
  | taken notification => cases silenced <;> simp [perform, patience, Link.step]
  | cleared notification =>
    have few := tracker.length_observe_le notification
    simp only [perform, patience, Link.step]
    omega
  | reporting reports last =>
    cases reports with
    | nil => cases last <;> simp [perform, patience, Link.step]
    | cons report rest => simp [perform, patience, Link.step]
  | ended => exact le_rfl

theorem patience_run (acts : List Act) (s : Service) :
    (run acts s).patience ≤ s.patience - acts.count .work := by
  induction acts generalizing s with
  | nil => exact le_rfl
  | cons act rest ih =>
    have onward := ih (s.perform act).2
    cases act with
    | work =>
      have here := patience_work s
      rw [List.count_cons_self]
      exact onward.trans (by omega)
    | silence | expect | forget => exact onward

theorem silenced_perform (act : Act) (asked : act ≠ .silence) :
    (s.perform act).2.link.silenced = s.link.silenced := by
  obtain ⟨⟨tracker, silenced, stage⟩, coming⟩ := s
  cases act with
  | silence => exact absurd rfl asked
  | work =>
    cases stage with
    | polling => cases coming <;> rfl
    | reporting reports last => cases reports <;> rfl
    | _ => rfl
  | expect | forget => rfl

theorem silenced_run (acts : List Act) (s : Service) (unasked : .silence ∉ acts) :
    (run acts s).link.silenced = s.link.silenced := by
  induction acts generalizing s with
  | nil => rfl
  | cons act rest ih =>
    obtain ⟨here, later⟩ := not_or.mp (mt List.mem_cons.mpr unasked)
    rw [run, ih _ later, silenced_perform act (Ne.symm here)]

theorem rests_of_patience (spent : s.patience = 0) :
    s.link.isEnded = true ∨ s.link.isClosing = false ∧ s.ahead = [] := by
  obtain ⟨⟨tracker, silenced, stage⟩, coming⟩ := s
  cases stage with
  | polling =>
    have none : coming = [] := List.eq_nil_of_length_eq_zero (by simpa [patience] using spent)
    exact .inr ⟨rfl, none⟩
  | ended => exact .inl rfl
  | _ => simp [patience] at spent

theorem first_ending {b before rest : List Notification} {e ending : Notification}
    (part : b ++ [e] <+: before ++ ending :: rest) (bOpen : ∀ n ∈ b, endsConnection n = false)
    (bEnds : endsConnection e = true) (open' : ∀ n ∈ before, endsConnection n = false)
    (ends : endsConnection ending = true) : b = before ∧ e = ending := by
  have apart {n : Notification} (going : endsConnection n = false)
      (closing : endsConnection n = true) : False := by
    rw [going] at closing
    cases closing
  induction before generalizing b with
  | nil =>
    cases b with
    | nil => exact ⟨rfl, (List.cons_prefix_cons.mp part).1⟩
    | cons first b =>
      obtain ⟨rfl, -⟩ := List.cons_prefix_cons.mp part
      exact (apart (bOpen first List.mem_cons_self) ends).elim
  | cons next before ih =>
    cases b with
    | nil =>
      obtain ⟨rfl, -⟩ := List.cons_prefix_cons.mp part
      exact (apart (open' e List.mem_cons_self) bEnds).elim
    | cons first b =>
      obtain ⟨rfl, onward⟩ := List.cons_prefix_cons.mp part
      obtain ⟨rfl, rfl⟩ := ih onward (fun n member => bOpen n (List.mem_cons_of_mem first member))
        fun n member => open' n (List.mem_cons_of_mem first member)
      exact ⟨rfl, rfl⟩

/-- A task that is left to itself ends with the first ending. -/
theorem ended_of_patience (tracker : Tracker) (notifications : List Notification)
    {before rest : List Notification} {ending : Notification}
    (parts : notifications = before ++ ending :: rest)
    (open' : ∀ n ∈ before, endsConnection n = false) (ends : endsConnection ending = true)
    (unasked : .silence ∉ acts) (enough : 6 * notifications.length ≤ acts.count .work) :
    (run acts (start tracker notifications)).link.isEnded = true ∧
      Tracker.heard (history acts (start tracker notifications)) = before ++ [ending] := by
  have hears := hears_start tracker notifications acts
  have unsilenced : (run acts (start tracker notifications)).link.silenced = false :=
    silenced_run acts _ unasked
  have part : Tracker.heard (history acts (start tracker notifications)) <+: notifications :=
    heard_prefix acts (start tracker notifications)
  have ended : (run acts (start tracker notifications)).link.isEnded = true := by
    by_contra running
    rw [Bool.not_eq_true] at running
    have spent : (run acts (start tracker notifications)).patience = 0 := by
      have bound : (run acts (start tracker notifications)).patience ≤
          6 * notifications.length - acts.count .work :=
        patience_run acts (start tracker notifications)
      omega
    obtain ⟨going, nothing⟩ := (rests_of_patience spent).resolve_left (by simp [running])
    have whole := heard_of_running acts (start tracker notifications) running
    rw [nothing, List.append_nil] at whole
    have all := hears.open_of_going going
    rw [whole] at all
    have goes : endsConnection ending = false := all ending (by simp [start, ahead, parts])
    rw [ends] at goes
    cases goes
  refine ⟨ended, ?_⟩
  have closing := Link.isClosing_of_isEnded ended
  cases hears with
  | goesOn going =>
    rw [closing] at going
    cases going
  | silenced _ silenced =>
    rw [unsilenced] at silenced
    cases silenced
  | closes _ b e heard bOpen bEnds =>
    rw [heard, parts] at part
    obtain ⟨rfl, rfl⟩ := first_ending part bOpen bEnds open' ends
    exact heard

/-! ### The whole of it -/

theorem expect_of_history {kind : PacketKind} {number : UInt32}
    (expects : .expect kind number ∈ history acts s) : .expect kind number ∈ acts := by
  induction acts generalizing s with
  | nil => cases expects
  | cons act rest ih =>
    rcases List.mem_append.mp expects with here | later
    · have tracks : s.tracking? act = some (.expect kind number) := Option.mem_toList.mp here
      cases act with
      | expect =>
        cases tracks
        exact List.mem_cons_self
      | work =>
        obtain ⟨⟨tracker, silenced, stage⟩, coming⟩ := s
        cases stage <;> cases tracks
      | silence | forget => cases tracks
    · exact List.mem_cons_of_mem act (ih later)

theorem mem_dropLast_append {α : Type} {first : List α} (second : List α) {x : α}
    (member : x ∈ first.dropLast) : x ∈ (first ++ second).dropLast := by
  cases second with
  | nil => rwa [List.append_nil]
  | cons y rest =>
    rw [List.dropLast_append_of_ne_nil (List.cons_ne_nil y rest)]
    exact List.mem_append_left _ (List.mem_of_mem_dropLast member)

/-- How a run ends in which the task comes to an ending. -/
structure EndsWith (before : List Notification) (ending : Notification) (acts : List Act)
    (s : Service) : Prop where
  stopped : (run acts s).link.isEnded = true
  heard : Tracker.heard (history acts s) = before ++ [ending]
  /-- The end is reported once, and last. -/
  last : ∃ earlier, (∀ e ∈ earlier, reportsEnd e = false) ∧ delivered acts s =
    earlier ++ Tracker.parting ending ++ [.disconnect (Tracker.closingCode ending)]
  refused : ∀ code, ending = .error (.refused code) →
    ∃ earlier, delivered acts s = earlier ++ [.connack code.byte, .disconnect code.byte]
  /-- From the ending on the tracker holds what is expected after it. -/
  tracker : ∃ sooner later, history acts s = sooner ++ .observe ending :: later ∧
    Tracker.heard later = [] ∧ (run acts s).link.tracker = Tracker.run later {}
  emptied : (∀ kind number, .expect kind number ∉ acts) → (run acts s).link.tracker = {}

/-- What the task of a connection reports, whatever happens on other threads. -/
structure Reports (acts : List Act) (s : Service) : Prop where
  /-- The reports translate what was heard, in order. -/
  translated : delivered acts s ++ (run acts s).link.unreported =
    Tracker.reported (history acts s) s.link.tracker
  tracked : (run acts s).link.tracker = Tracker.run (history acts s) s.link.tracker
  heard : Tracker.heard (history acts s) <+: s.coming
  /-- Nothing is heard after an ending. -/
  unended : ∀ n ∈ (Tracker.heard (history acts s)).dropLast, endsConnection n = false
  /-- Nothing is reported after an end. -/
  once : ∀ e ∈ (delivered acts s).dropLast, reportsEnd e = false
  /-- A task that is not told to be silent, and that has time enough, comes to the first ending. -/
  ended : ∀ before ending rest, s.coming = before ++ ending :: rest →
    (∀ n ∈ before, endsConnection n = false) → endsConnection ending = true →
    .silence ∉ acts → 6 * s.coming.length ≤ acts.count .work → EndsWith before ending acts s

/-- A connection reports its end once and last. -/
theorem end_reported (tracker : Tracker) (notifications : List Notification) (acts : List Act) :
    Reports acts (start tracker notifications) := by
  have translated := delivered_append_unreported acts (start tracker notifications)
  have tracked := tracker_run acts (start tracker notifications)
  have hears := hears_start tracker notifications acts
  constructor
  case translated => exact translated
  case tracked => exact tracked
  case heard => exact heard_prefix acts (start tracker notifications)
  case unended => exact hears.open_dropLast
  case once =>
    intro e member
    have whole := mem_dropLast_append
      (run acts (start tracker notifications)).link.unreported member
    rw [translated] at whole
    exact hears.quiet_dropLast tracker e whole
  case ended =>
    intro before ending rest parts open' ends unasked enough
    obtain ⟨ended, heard⟩ :=
      ended_of_patience tracker notifications parts open' ends unasked enough
    obtain ⟨sooner, later, whole, -, silent⟩ := Tracker.heard_concat heard
    have settled : (run acts (start tracker notifications)).link.tracker =
        Tracker.run later {} := by
      rw [tracked, whole, Tracker.run_append, Tracker.run, Tracker.perform,
        Tracker.observe_of_ends ends]
    have reported : ∃ earlier, (∀ e ∈ earlier, reportsEnd e = false) ∧
        delivered acts (start tracker notifications) =
          earlier ++ Tracker.parting ending ++ [.disconnect (Tracker.closingCode ending)] := by
      rw [Link.unreported_of_isEnded ended, List.append_nil] at translated
      rw [translated]
      exact Tracker.reported_of_ends heard open' ends _
    constructor
    case stopped => exact ended
    case heard => exact heard
    case last => exact reported
    case refused =>
      rintro code rfl
      obtain ⟨earlier, -, same⟩ := reported
      exact ⟨earlier, by rw [same, List.append_assoc]; rfl⟩
    case tracker => exact ⟨sooner, later, whole, silent, settled⟩
    case emptied =>
      intro unexpected
      rw [settled]
      refine Tracker.run_withdrawals silent fun kind number member => ?_
      have expects : .expect kind number ∈ history acts (start tracker notifications) := by
        rw [whole]
        exact List.mem_append_right sooner (List.mem_cons_of_mem _ member)
      exact unexpected kind number (expect_of_history expects)

/-- A message arrives while a request waits for its packet, then the broker refuses the session. -/
def refusedService : Service :=
  start { unsent := [⟨.publish, 7⟩] }
    [.ok (.publish "t" .empty .atMostOnce false), .error (.refused .badCredentials)]

/-- The refusal is reported last, and nothing is expected any more. -/
theorem refusedService_ends :
    let acts : List Act := List.replicate 12 .work
    Act.silence ∉ acts ∧ 6 * refusedService.coming.length ≤ acts.count .work ∧
      (∃ earlier, delivered acts refusedService = earlier ++ [.connack 4, .disconnect 4]) ∧
      (run acts refusedService).link.tracker = {} := by
  intro acts
  have unasked : Act.silence ∉ acts := by decide
  have enough : 6 * refusedService.coming.length ≤ acts.count .work := by decide
  have reports : Reports acts refusedService := end_reported _ _ acts
  have ends := reports.ended [.ok (.publish "t" .empty .atMostOnce false)]
    (.error (.refused .badCredentials)) [] rfl (by simp [endsConnection]) rfl unasked enough
  refine ⟨unasked, enough, ends.refused .badCredentials rfl, ends.emptied ?_⟩
  intro kind number expects
  exact Act.noConfusion (List.eq_of_mem_replicate expects)

end Service

end DurableMqtt.Network
