/-!
The phase of a session, and which writes of it take effect.
-/

namespace DurableMqtt

inductive Phase where
  | idle
  /-- A CONNECT was sent and not answered yet. -/
  | connecting
  /-- An accepted session was lost. -/
  | abnormalDisconnect
  /-- An accepted session is having its subscriptions sent again. -/
  | resubscribing
  /-- An accepted session is having its parked requests sent. -/
  | draining
  | stable
  /-- The application closed the session. -/
  | userDisconnect
deriving DecidableEq, Inhabited

namespace Phase

def name : Phase → String
  | idle => "Idle"
  | connecting => "Connecting"
  | abnormalDisconnect => "AbnormalDisconnect"
  | resubscribing => "Resubscribing"
  | draining => "Draining"
  | stable => "Stable"
  | userDisconnect => "UserDisconnect"

def all : List Phase :=
  [idle, connecting, abnormalDisconnect, resubscribing, draining, stable, userDisconnect]

def ofName? (text : String) : Option Phase := all.find? (·.name == text)

def isStable (p : Phase) : Bool := p == stable

/-- Whether requests are parked rather than sent. -/
def isRecovering : Phase → Bool
  | connecting | abnormalDisconnect | resubscribing | draining => true
  | _ => false

def isConnected : Phase → Bool
  | resubscribing | draining | stable => true
  | _ => false

def acceptsConnect : Phase → Bool
  | idle | abnormalDisconnect | userDisconnect => true
  | _ => false

/-- Whether a write of `next` takes effect. A session that the application closed is left only
by a new CONNECT, so nothing that arrives late revives it. -/
def accepts (p next : Phase) : Bool :=
  p != userDisconnect || next == connecting

def write (p next : Phase) : Phase := if p.accepts next then next else p

end Phase

end DurableMqtt
