import DurableMqtt.Session.Basic

/-!
The supervisor: after the loss of a session it waits out the quiet time and connects again,
until a CONNECT is sent or something else has happened to the connection.

Each of its steps is atomic. The epoch tells it whether anything happened since the loss that
it was told of.
-/

namespace DurableMqtt.Session

/-- Takes all reconnects that are scheduled as one, with the newest epoch. -/
def collect (s : Session) : Session :=
  match s.supervisor, s.signals with
  | .idle, first :: rest =>
    { s with supervisor := .engaged (rest.foldl max first), signals := [] }
  | _, _ => s

def engage (s : Session) : Session :=
  match s.supervisor with
  | .engaged expected =>
    { s with supervisor := if s.phase = .userDisconnect then .idle else .cancelling expected }
  | _ => s

def fallQuiet (now : Instant) (s : Session) : Session :=
  match s.supervisor with
  | .cancelling expected =>
    let s := s.stopTimer
    let slept := s.backoff.current
    { s with supervisor := .quiet expected slept (now + slept.nanoseconds) }
  | _ => s

def wake (s : Session) : Session :=
  match s.supervisor with
  | .quiet expected slept _ =>
    { s with supervisor := .attempting expected slept, backoff := s.backoff.escalate }
  | _ => s

/-- Connects, if the epoch is still the expected one and the application has not closed the
session. A CONNECT that cannot be sent starts the next round. -/
def attempt (engine : Engine) (s : Session) : Session :=
  match s.supervisor with
  | .attempting expected _ =>
    if s.epoch = expected ∧ s.phase ≠ .userDisconnect then
      let s := { s.writePhase .connecting with epoch := s.epoch + 1 }
      match s.sendConnect engine none with
      | (.ok _, s) => { s with supervisor := .idle }
      | (.error _, s) => { s with supervisor := .engaged s.epoch }
    else { s with supervisor := .idle }
  | _ => s

/-- The supervisor's next step. It sleeps until its quiet time is over, and ends for good when
the session is taken down. -/
def supervise (engine : Engine) (now : Instant) (s : Session) : Session :=
  if s.interrupted then { s with supervisor := .stopped }
  else
    match s.supervisor with
    | .idle => s.collect
    | .engaged _ => s.engage
    | .cancelling _ => s.fallQuiet now
    | .quiet _ _ wakeAt => if wakeAt ≤ now then s.wake else s
    | .attempting .. => s.attempt engine
    | .stopped => s

end DurableMqtt.Session
