import DurableMqtt.Network.Client

/-!
A client whose broker cannot be reached. Every connection that it opens is lost, and the loss
shows as soon as something is waited for.
-/

namespace DurableMqtt.Simulation

structure Unreachable where
  client : Network.Client
  /-- Reports that nobody has waited for yet, oldest first. -/
  reports : List Event := []

namespace Unreachable

def fault : Network.ConnectionFault := .io "Connection refused (os error 111)"

def wait (u : Unreachable) : Unreachable :=
  let (reports, client) := u.client.observe (.error fault)
  { client, reports := u.reports ++ reports }

def next (count : Nat) (u : Unreachable) : List Event × Unreachable :=
  let u := u.wait
  (u.reports.take count, { u with reports := u.reports.drop count })

end Unreachable

end DurableMqtt.Simulation
