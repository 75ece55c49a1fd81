import DurableMqtt.Proofs.Run.Answering

/-!
What is said of a request that leaves a session without its acknowledgment.

A request that the engine refuses for good, or that is lost with its session and cannot be parked,
has its callback told so. One that gives way in the queue, or that is still in flight when the end
of the session is dispatched after a disconnect of the application, leaves without a word.
-/

namespace DurableMqtt.Session

def settled? (m : Move) (s : Session) : Option Nat :=
  ((acknowledged? m s).bind s.pending.find?).bind PendingEntry.ticket?

def settledAlong : List Move → Session → List Nat
  | [], _ => []
  | m :: rest, s => (settled? m s).toList ++ settledAlong rest (s.after m)

def answersTo (ticket : Nat) (moves : List Move) (s : Session) : List Effect :=
  ((repliesAlong moves s).filter (·.ticket? == some ticket)).flatMap Reply.effects

variable {s : Session} {m : Move} {moves : List Move} {ticket : Nat} {callback : Callback}

theorem settled?_of_settles {ack : Ack} (settles : Settles m s ticket ack) :
    settled? m s = some ticket := by
  obtain ⟨e, entry, dispatched, of, found, keeps⟩ := settles
  have acknowledged : acknowledged? m s = some e.id := by
    rw [acknowledged?, dispatched, Option.bind_some, of, Option.map_some]
  rw [settled?, acknowledged, Option.bind_some, found, Option.bind_some, keeps]

theorem discarded_of_reply (moves : List Move) (custody : Custody s) (fresh : FreshAlong moves s)
    (unsettled : ticket ∉ settledAlong moves s) :
    ∀ r ∈ repliesAlong moves s, r.ticket? = some ticket → r.ack = .discarded := by
  induction moves generalizing s with
  | nil => exact fun r given => absurd given List.not_mem_nil
  | cons m rest ih =>
    have here : settled? m s ≠ some ticket :=
      fun settles => unsettled (List.mem_append_left _ (Option.mem_toList.mpr settles))
    have later : ticket ∉ settledAlong rest (s.after m) :=
      fun settles => unsettled (List.mem_append_right _ settles)
    intro r given of
    rcases List.mem_append.mp given with now | then'
    · by_contra other
      exact here (settled?_of_settles (settles_of_reply custody.kept now of other))
    · exact ih (custody.after m fresh.1) fresh.2 later r then' of

theorem effects_of_discarded {r : Reply} (heard : r.listener = some (.callback callback))
    (discarded : r.ack = .discarded) :
    r.effects = [.submitted (.acknowledge (.callback callback) r.id .discarded)] := by
  obtain ⟨for', id, responder, ack⟩ := r
  obtain ⟨responder, rfl, same⟩ := Option.map_eq_some_iff.mp heard
  cases responder with
  | pooled listener =>
    cases same
    cases discarded
    rfl
  | inline waiter => cases same

theorem answered_or_dropped (settings : Settings) (fresh : FreshAlong moves (start settings))
    (finished : (run moves (start settings)).Finished ticket) :
    ((repliesAlong moves (start settings)).filter (·.ticket? == some ticket)).length +
      (droppedAlong moves (start settings)).count ticket = 1 := by
  have custody := Custody.start settings
  have left : ticket ∈ leavingAlong moves (start settings) := by
    rcases leavingAlong_of_finished moves custody fresh finished with early | left
    · exact absurd early.1 (Nat.not_lt_zero ticket)
    · exact left
  have once := leavingAlong_once moves custody fresh
  calc ((repliesAlong moves (start settings)).filter (·.ticket? == some ticket)).length +
        (droppedAlong moves (start settings)).count ticket
    _ = (leavingAlong moves (start settings)).count ticket := (count_leavingAlong _ _ _).symm
    _ = 1 := List.count_eq_one_of_mem once left

/-- What the callback of a request is told in a run in which the request leaves without its
acknowledgment. -/
structure Farewell (moves : List Move) (s : Session) (ticket : Nat) (callback : Callback) :
    Prop where
  /-- All that anybody is told in the run is told by its answers. -/
  told : tellings (since s (run moves s)) = (repliesAlong moves s).flatMap Reply.effects
  /-- The callback is told of the discard, once and of nothing else, unless the request was
  dropped. -/
  discarded : (∃ id, answersTo ticket moves s =
      [.submitted (.acknowledge (.callback callback) id .discarded)]) ↔
    ticket ∉ droppedAlong moves s
  /-- Of a request that was dropped, nobody is told anything. -/
  silent : ticket ∈ droppedAlong moves s → answersTo ticket moves s = []

/-- The callback of an accepted request that leaves without its acknowledgment is told of the
discard just if the request did not give way in the queue and was not in flight when the session
ended by a disconnect of the application. -/
theorem departed_told (settings : Settings) (before rest : List Move) (request : Request)
    (callback : Callback) (engine : Engine)
    (fresh : FreshAlong (before ++ ⟨.request request (.notified (some callback)), engine⟩ :: rest)
      (start settings))
    (accepted :
      ((run before (start settings)).route engine request (.notified (some callback))).1.isOk)
    (finished : (run (before ++ ⟨.request request (.notified (some callback)), engine⟩ :: rest)
      (start settings)).Finished (run before (start settings)).nextTicket)
    (unsettled : (run before (start settings)).nextTicket ∉
      settledAlong (before ++ ⟨.request request (.notified (some callback)), engine⟩ :: rest)
        (start settings)) :
    Farewell (before ++ ⟨.request request (.notified (some callback)), engine⟩ :: rest)
      (start settings) (run before (start settings)).nextTicket callback := by
  have heard := heard_accepted settings before rest request _ engine fresh accepted
  have hears : (Caller.notified (some callback)).hears (run before (start settings)).phase =
      some (.callback callback) := ite_self _
  rw [hears] at heard
  generalize (run before (start settings)).nextTicket = ticket at heard finished unsettled ⊢
  generalize before ++ ⟨.request request _, engine⟩ :: rest = moves at *
  have balance := answered_or_dropped settings fresh finished
  have discards := discarded_of_reply moves (Custody.start settings) fresh unsettled
  have silent : ticket ∈ droppedAlong moves (start settings) →
      answersTo ticket moves (start settings) = [] := by
    intro dropped
    have one := List.count_pos_iff.mpr dropped
    have none : (repliesAlong moves (start settings)).filter (·.ticket? == some ticket) = [] :=
      List.length_eq_zero_iff.mp (by omega)
    rw [answersTo, none, List.flatMap_nil]
  -- What was not dropped was answered once, which leaves one reply to name.
  refine ⟨tellings_repliesAlong moves _, ⟨?_, fun kept => ?_⟩, silent⟩
  · rintro ⟨id, told⟩ dropped
    rw [silent dropped] at told
    cases told
  · have single : ((repliesAlong moves (start settings)).filter
        (·.ticket? == some ticket)).length = 1 := by
      rw [List.count_eq_zero.mpr kept] at balance
      exact balance
    obtain ⟨r, only⟩ := List.length_eq_one_iff.mp single
    have given : r ∈ (repliesAlong moves (start settings)).filter (·.ticket? == some ticket) := by
      rw [only]
      exact List.mem_singleton_self r
    obtain ⟨given, of⟩ := List.mem_filter.mp given
    have of : r.ticket? = some ticket := beq_iff_eq.mp of
    refine ⟨r.id, ?_⟩
    rw [answersTo, only, List.flatMap_cons, List.flatMap_nil, List.append_nil]
    exact effects_of_discarded (heard r given of) (discards r given of)

def lostRun : List Move := [⟨.report (.disconnect 0), numbering 2⟩, ⟨.dispatch 0, numbering 2⟩]

/-- Without a queue the request cannot be parked, and its callback is told. -/
theorem lostRun_told :
    let settings := { Settings.standard with queueCapacity := 0 }
    let moves := steadyRun ++ ⟨.request publishing (.notified (some ⟨"A"⟩)), numbering 1⟩ :: lostRun
    FreshAlong moves (start settings) ∧
      ((run steadyRun (start settings)).route (numbering 1) publishing
        (.notified (some ⟨"A"⟩))).1.isOk ∧
      (run moves (start settings)).Finished 0 ∧ 0 ∉ settledAlong moves (start settings) ∧
      ∃ id, answersTo 0 moves (start settings) =
        [.submitted (.acknowledge (.callback ⟨"A"⟩) id .discarded)] := by
  intro settings moves
  have fresh : FreshAlong moves (start settings) := by decide +kernel
  have accepted : ((run steadyRun (start settings)).route (numbering 1) publishing
      (.notified (some ⟨"A"⟩))).1.isOk := by decide +kernel
  have first : (run steadyRun (start settings)).nextTicket = 0 := by decide +kernel
  have finished : (run moves (start settings)).Finished 0 := by decide +kernel
  have unsettled : 0 ∉ settledAlong moves (start settings) := by decide +kernel
  have farewell := departed_told settings steadyRun lostRun publishing ⟨"A"⟩ (numbering 1) fresh
    accepted (by rwa [first]) (by rwa [first])
  rw [first] at farewell
  exact ⟨fresh, accepted, finished, unsettled, farewell.discarded.mpr (by decide +kernel)⟩

def displacingRun : List Move :=
  [⟨.connect (.notified none), numbering 1⟩,
   ⟨.request publishing (.notified (some ⟨"A"⟩)), numbering 1⟩,
   ⟨.request publishing (.notified (some ⟨"B"⟩)), numbering 1⟩]

/-- In a queue of one the first gives way to the second, and nobody is told. -/
theorem displacingRun_silent :
    let settings := { Settings.standard with queueCapacity := 1, dropPolicy := .dropOldest }
    FreshAlong displacingRun (start settings) ∧
      ((run (displacingRun.take 1) (start settings)).route (numbering 1) publishing
        (.notified (some ⟨"A"⟩))).1.isOk ∧
      (run displacingRun (start settings)).Finished
        (run (displacingRun.take 1) (start settings)).nextTicket ∧
      (run (displacingRun.take 1) (start settings)).nextTicket ∉
        settledAlong displacingRun (start settings) ∧
      (since (start settings) (run displacingRun (start settings))).filterMap Effect.listener? =
        [] := by
  decide +kernel

end DurableMqtt.Session
