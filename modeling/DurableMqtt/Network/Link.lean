import DurableMqtt.Network.Tracker

/-!
The task that serves one connection: it takes the notifications of the connection one by one and
reports what they mean, until the connection ends or the task is told to be silent. Between two
of its steps anything may happen elsewhere.
-/

namespace DurableMqtt.Network

def endsConnection : Notification → Bool
  | .error _ | .ok .sentDisconnect | .ok .disconnect => true
  | .ok _ => false

inductive LinkStage where
  | polling
  /-- A notification was taken and the task has yet to see whether it is to be silent. -/
  | taken (notification : Notification)
  /-- The task was not silenced when it looked. -/
  | cleared (notification : Notification)
  /-- Reports to make, and whether the connection is over after them. -/
  | reporting (reports : List Event) (last : Bool)
  | ended

structure Link where
  tracker : Tracker := {}
  silenced : Bool := false
  stage : LinkStage := .polling

namespace Link

def isEnded (l : Link) : Bool :=
  match l.stage with
  | .ended => true
  | _ => false

/-- Tells the task to report nothing more. It takes note before its next notification. -/
def silence (l : Link) : Link := { l with silenced := true }

def take (l : Link) (notification : Notification) : Link :=
  match l.stage with
  | .polling => { l with stage := .taken notification }
  | _ => l

/-- The next step of the task, with what it reports. A task that is polling waits for a
notification. -/
def step (l : Link) : Option Event × Link :=
  match l.stage with
  | .polling | .ended => (none, l)
  | .taken notification =>
    (none, { l with stage := if l.silenced then .ended else .cleared notification })
  | .cleared notification =>
    let (reports, tracker) := l.tracker.observe notification
    (none, { l with tracker, stage := .reporting reports (endsConnection notification) })
  | .reporting (report :: rest) last =>
    (some report, { l with stage := .reporting rest last })
  | .reporting [] last => (none, { l with stage := if last then .ended else .polling })

/-- How many steps it takes the task, at most, to wait for a notification again. -/
def stepsLeft (l : Link) : Nat :=
  match l.stage with
  | .polling | .ended => 0
  | .taken notification => (l.tracker.observe notification).1.length + 3
  | .cleared notification => (l.tracker.observe notification).1.length + 2
  | .reporting reports _ => reports.length + 1

def steps : Nat → Link → List Event × Link
  | 0, l => ([], l)
  | n + 1, l =>
    let (report, l) := l.step
    let (reports, l) := steps n l
    (report.toList ++ reports, l)

def serve (l : Link) (notification : Notification) : List Event × Link :=
  let l := l.take notification
  l.steps l.stepsLeft

end Link

end DurableMqtt.Network
