import Mathlib
import DurableMqtt.Proofs.Network.Numbering
import DurableMqtt.Proofs.Network.Pairing
import DurableMqtt.Proofs.Network.Silence

/-!
What a client expects on its connection.

A request comes to be expected when the client takes it under the next number, and in no other way.
Everything else that is done with a client leaves its counter alone and can only have it expect
less. A request that finds no room uses up its number and leaves no trace, unless the number was in
use.
-/

namespace DurableMqtt.Network

/-! ### What a connection expects -/

namespace Tracker

variable {t t' : Tracker} {act : Act} {reports : List Event} {number : UInt32}

theorem mem_outstanding (t : Tracker) (number : UInt32) :
    number ∈ t.outstanding ↔
      number ∈ t.unsent.map (·.number) ∨ ∃ kind, number ∈ (t.numbers kind).map Prod.snd := by
  unfold outstanding
  simp only [List.mem_append]
  constructor
  · rintro (((unsent | publish) | subscribe) | unsubscribe)
    · exact .inl unsent
    · exact .inr ⟨.publish, publish⟩
    · exact .inr ⟨.subscribe, subscribe⟩
    · exact .inr ⟨.unsubscribe, unsubscribe⟩
  · rintro (unsent | ⟨kind, held⟩)
    · exact .inl (.inl (.inl unsent))
    · cases kind with
      | publish => exact .inl (.inl (.inr held))
      | subscribe => exact .inl (.inr held)
      | unsubscribe => exact .inr held

theorem outstanding_subset (unsent : t'.unsent ⊆ t.unsent)
    (numbers : ∀ kind, t'.numbers kind ⊆ t.numbers kind) : t'.outstanding ⊆ t.outstanding := by
  intro number waits
  rw [mem_outstanding] at waits ⊢
  exact waits.imp (fun here => List.map_subset _ unsent here)
    fun ⟨kind, held⟩ => ⟨kind, List.map_subset _ (numbers kind) held⟩

theorem forget_subset (t : Tracker) (number : UInt32) :
    (t.forget number).outstanding ⊆ t.outstanding :=
  outstanding_subset List.filter_sublist.subset fun _ => List.Subset.refl _

theorem mem_expect {kind : PacketKind} {other : UInt32}
    (waits : number ∈ (t.expect kind other).outstanding) :
    number ∈ t.outstanding ∨ number = other := by
  rw [mem_outstanding] at waits ⊢
  rcases waits with here | held
  · rw [expect, List.map_append] at here
    exact (List.mem_append.mp here).imp .inl List.mem_singleton.mp
  · exact .inl (.inr held)

theorem forget_expect_subset (t : Tracker) (kind : PacketKind) (number : UInt32) :
    ((t.expect kind number).forget number).outstanding ⊆ t.outstanding := by
  refine outstanding_subset ?_ fun _ => List.Subset.refl _
  rw [forget, expect, List.filter_append, List.filter_singleton, bne_self_eq_false, cond_false,
    List.append_nil]
  exact List.filter_sublist.subset

theorem written_subset {kind : PacketKind} (due : t.written? kind = some (number, t')) :
    ⟨kind, number⟩ ∈ t.unsent ∧ t'.unsent ⊆ t.unsent ∧ ∀ k, t'.numbers k ⊆ t.numbers k := by
  obtain ⟨early, late, unsent, -, rfl⟩ := written?_eq_some due
  rw [unsent]
  refine ⟨List.mem_append_right early List.mem_cons_self, ?_, fun k => ?_⟩
  · exact ((List.sublist_cons_self _ late).append_left early).subset
  · cases k <;> exact List.Subset.refl _

theorem mem_record {packet : UInt16} {request : Unsent}
    (waits : number ∈ (t.record packet request).outstanding) :
    number ∈ t.outstanding ∨ number = request.number := by
  rw [mem_outstanding] at waits ⊢
  rcases waits with here | ⟨kind, held⟩
  · rw [unsent_record] at here
    exact .inl (.inl here)
  · rw [numbers_record] at held
    split at held
    · rcases List.mem_cons.mp held with first | later
      · exact .inr first
      · exact .inl (.inr ⟨kind, List.map_subset _ List.filter_sublist.subset later⟩)
    · exact .inl (.inr ⟨kind, held⟩)

/-- Only a request that is expected comes to wait. -/
theorem Outcome.outstanding (outcome : Outcome t act reports t') (plain : act.expects? = none) :
    t'.outstanding ⊆ t.outstanding := by
  cases outcome with
  | expected kind number => cases plain
  | withdrawn number => exact t.forget_subset number
  | ended => exact List.nil_subset _
  | written awaits due =>
    -- The request moves from the line to its packet.
    obtain ⟨stood, unsent, numbers⟩ := written_subset due
    intro number waits
    rcases mem_record waits with other | rfl
    · exact outstanding_subset unsent numbers other
    · exact (mem_outstanding t _).mpr (.inl (List.mem_map_of_mem stood))
  | completed due =>
    obtain ⟨-, unsent, numbers⟩ := written_subset due
    exact outstanding_subset unsent numbers
  | acknowledged meaning found =>
    refine outstanding_subset ?_ fun k => ?_
    · rw [unsent_release]
      exact List.Subset.refl _
    · rw [numbers_release]
      split
      · exact List.filter_sublist.subset
      · exact List.Subset.refl _
  | unexpected | unknown | aside => exact List.Subset.refl _

end Tracker

theorem Link.outstanding_step (l : Link) :
    l.step.2.tracker.outstanding ⊆ l.tracker.outstanding := by
  obtain ⟨tracker, silenced, stage⟩ := l
  cases stage with
  | cleared notification => exact (tracker.outcome (.observe notification)).outstanding rfl
  | reporting reports last => cases reports <;> exact List.Subset.refl _
  | _ => exact List.Subset.refl _

theorem Link.tracker_take (l : Link) (notification : Notification) :
    (l.take notification).tracker = l.tracker := by
  obtain ⟨tracker, silenced, stage⟩ := l
  cases stage <;> rfl

/-! ### What a client expects -/

namespace Client

variable {c : Client} {call : EngineCall} {connection : Connection}

def outstanding (c : Client) : List UInt32 :=
  match c.connection with
  | none => []
  | some connection => connection.link.tracker.outstanding

theorem outstanding_of_active (active : c.connection = some connection) :
    c.outstanding = connection.link.tracker.outstanding := by
  rw [outstanding, active]

/-- No number is used up, and nothing new comes to be expected. -/
structure Idles (c c' : Client) : Prop where
  same : c'.lastNumber = c.lastNumber
  expects : c'.outstanding ⊆ c.outstanding

theorem Idles.refl (c : Client) : Idles c c := ⟨rfl, List.Subset.refl _⟩

theorem Idles.of_inactive {c' : Client} (same : c'.lastNumber = c.lastNumber)
    (inactive : c'.outstanding = []) : Idles c c' :=
  ⟨same, inactive ▸ List.nil_subset _⟩

theorem idles_connect (c : Client) (keepAlive : Duration) : Idles c (c.connect keepAlive).2 := by
  have same := c.lastNumber_connect keepAlive
  unfold connect at same ⊢
  split at same
  · exact .refl c
  · exact .of_inactive same rfl

theorem idles_disconnect (c : Client) : Idles c c.disconnect.2 := by
  unfold disconnect
  split
  · exact .refl c
  next connection active =>
    split
    · refine ⟨rfl, ?_⟩
      rw [outstanding_of_active active]
      exact List.Subset.refl _
    · exact .refl c

theorem idles_stop (c : Client) : Idles c c.stop := by
  unfold stop
  split
  · exact .refl c
  · exact .of_inactive rfl rfl

theorem idles_takeAt (c : Client) (place : Nat) (notification : Notification) :
    Idles c (c.takeAt place notification) := by
  unfold takeAt
  split
  · exact ⟨rfl, List.Subset.refl _⟩
  · split
    · refine ⟨rfl, ?_⟩
      unfold outstanding
      cases c.connection with
      | none => exact List.Subset.refl _
      | some connection =>
        simp only [Option.map_some, Link.tracker_take]
        exact List.Subset.refl _
    · exact .refl c

theorem idles_stepAt (c : Client) (place : Nat) : Idles c (c.stepAt place).2 := by
  unfold stepAt
  split
  · unfold stepRetired
    split
    · exact .refl c
    · exact ⟨rfl, List.Subset.refl _⟩
  · split
    · split
      · exact .refl c
      next connection active =>
        refine ⟨rfl, ?_⟩
        rw [outstanding_of_active active]
        exact connection.link.outstanding_step
    · exact .refl c

/-! ### Calls -/

/-- Whether the call gets a number. The line may be full for all that. -/
def isNumbered (c : Client) (call : EngineCall) : Bool :=
  hasWritableTopic call && (packetKind? call).isSome && c.isActive

inductive Called (c : Client) (call : EngineCall) : Except EngineError UInt32 → Client → Prop
  | unnumbered {answer : Except EngineError UInt32} {c' : Client}
    (unnumbered : c.isNumbered call = false)
    (plain : ∀ number, (answer.map fun number => call.id number) ≠ .ok (.packet number))
    (idles : Idles c c') : Called c call answer c'
  | taken {c' : Client} (numbered : c.isNumbered call = true)
    (packet : ∀ number, call.id number = .packet number)
    (next : c'.lastNumber = nextNumber c.lastNumber)
    (expects : ∀ number ∈ c'.outstanding,
      number ∈ c.outstanding ∨ number = nextNumber c.lastNumber) :
    Called c call (.ok (nextNumber c.lastNumber)) c'
  /-- The line is full. Unless the number is in use, no trace of the request is left. -/
  | refused {c' : Client} (numbered : c.isNumbered call = true)
    (next : c'.lastNumber = nextNumber c.lastNumber) (expects : c'.outstanding ⊆ c.outstanding)
    (restored : nextNumber c.lastNumber ∉ c.outstanding →
      c' = { c with lastNumber := nextNumber c.lastNumber }) :
    Called c call (.error lineFault) c'

theorem called_send {kind : PacketKind} (writable : hasWritableTopic call = true)
    (ofKind : packetKind? call = some kind) (packet : ∀ number, call.id number = .packet number) :
    Called c call (c.send call kind).1 (c.send call kind).2 := by
  cases active : c.connection with
  | none =>
    have unnumbered : c.isNumbered call = false := by simp [isNumbered, isActive, active]
    have same : c.send call kind = (.error .notConnected, c) := by
      unfold send
      rw [active]
    rw [same]
    exact .unnumbered unnumbered (fun _ => nofun) (.refl c)
  | some connection =>
    have numbered : c.isNumbered call = true := by
      simp [isNumbered, isActive, active, writable, ofKind]
    have expects := outstanding_of_active active
    -- The request is expected in either case. Only a full line has it taken back.
    cases room : c.hasRoom connection with
    | true =>
      have sent : c.send call kind =
          (.ok (nextNumber c.lastNumber),
            { c with
              lastNumber := nextNumber c.lastNumber
              connection := some
                { link := { connection.link with
                    tracker := connection.link.tracker.expect kind (nextNumber c.lastNumber) }
                  line := connection.line ++ [call] } }) := by
        unfold hasRoom at room
        simp [send, hasRoom, active, room]
      rw [sent]
      refine .taken numbered packet rfl fun number waits => ?_
      rw [expects]
      exact Tracker.mem_expect waits
    | false =>
      have sent : c.send call kind =
          (.error lineFault,
            { c with
              lastNumber := nextNumber c.lastNumber
              connection := some
                { connection with
                  link := { connection.link with
                    tracker := (connection.link.tracker.expect kind
                      (nextNumber c.lastNumber)).forget (nextNumber c.lastNumber) } } }) := by
        unfold hasRoom at room
        simp [send, hasRoom, active, room]
      have restored (fresh : nextNumber c.lastNumber ∉ c.outstanding) :
          c.send call kind = (.error lineFault, { c with lastNumber := nextNumber c.lastNumber }) :=
        send_of_full active room (expects ▸ fresh)
      rw [sent] at restored ⊢
      refine .refused numbered rfl ?_ fun fresh => (Prod.mk.inj (restored fresh)).2
      rw [expects]
      exact connection.link.tracker.forget_expect_subset kind _

theorem plain_of_id {answer : Except EngineError UInt32} (plain : ∀ m n, call.id m ≠ .packet n)
    (number : UInt32) : (answer.map fun number => call.id number) ≠ .ok (.packet number) := by
  cases answer with
  | error fault => exact nofun
  | ok m => exact fun same => plain m number (Except.ok.inj same)

theorem called (c : Client) (call : EngineCall) :
    Called c call (c.call call).1 (c.call call).2 := by
  unfold Client.call
  split
  next writable =>
    cases call with
    | connect keepAlive =>
      exact .unnumbered (by simp [isNumbered, packetKind?]) (plain_of_id fun _ _ => nofun)
        (c.idles_connect keepAlive)
    | disconnect =>
      exact .unnumbered (by simp [isNumbered, packetKind?]) (plain_of_id fun _ _ => nofun)
        c.idles_disconnect
    | publish topic payload qos retain => exact called_send writable rfl fun _ => rfl
    | subscribe topic qos => exact called_send writable rfl fun _ => rfl
    | unsubscribe topic => exact called_send writable rfl fun _ => rfl
  next unwritable =>
    refine .unnumbered ?_ (fun _ => nofun) (.refl c)
    rw [isNumbered, Bool.eq_false_of_not_eq_true unwritable, Bool.false_and, Bool.false_and]

theorem restored_of_refused {fault : EngineError} (numbered : c.isNumbered call = true)
    (refused : (c.call call).1 = .error fault)
    (unused : nextNumber c.lastNumber ∉ c.outstanding) :
    (c.call call).2 = { c with lastNumber := nextNumber c.lastNumber } := by
  have called := c.called call
  generalize (c.call call).1 = answer at called refused
  generalize (c.call call).2 = client at called ⊢
  cases called with
  | unnumbered unnumbered => cases unnumbered.symm.trans numbered
  | taken => cases refused
  | refused numbered next expects restored => exact restored unused

end Client

end DurableMqtt.Network
