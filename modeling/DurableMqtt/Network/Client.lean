import DurableMqtt.Engine
import DurableMqtt.Network.Link
import DurableMqtt.Network.Options
import DurableMqtt.Topic

/-!
An engine that speaks to a broker. Each CONNECT opens a connection of its own and gives up the
one before. Requests are numbered, handed to the connection through a line of limited length,
and matched with their packets by its tracker.

A connection that is given up has a task of its own, which is told to be silent but not waited
for, so its last steps fall among those of the next connection.
-/

namespace DurableMqtt.Network

structure Connection where
  link : Link := {}
  line : List EngineCall := []
deriving Inhabited

structure Client where
  options : Options
  capacity : Nat
  one_le_capacity : 1 ≤ capacity
  /-- Whether there is anyone to report to. -/
  bound : Bool := false
  connection : Option Connection := none
  /-- Links of the connections that were given up, oldest first. -/
  retired : List Link := []
  /-- The number of the last request. -/
  lastNumber : UInt32 := 0

/-- The number after the given one. Zero is no number. -/
def nextNumber (n : UInt32) : UInt32 := if n + 1 = 0 then 1 else n + 1

namespace Client

/-- A line has room for at least one request. -/
def ofOptions (options : Options) (capacity : Nat) : Client :=
  { options, capacity := max capacity 1, one_le_capacity := Nat.le_max_right _ _ }

def plain (clientId host : String) (port : UInt16) (capacity : Nat) :
    Except SessionError Client := do
  ClientId.check (.given clientId)
  pure (ofOptions { clientId := .given clientId, host, port } capacity)

def ofConfig (files : FileLookup) (config : TransportConfig) : Except SessionError Client := do
  pure (ofOptions (← Options.ofConfig files config) config.endpoint.requestCapacity.toNat)

def hasWritableTopic : EngineCall → Bool
  | .publish topic .. => Topic.isName topic
  | .subscribe topic _ | .unsubscribe topic => Topic.isFilter topic
  | .connect _ | .disconnect => true

def packetKind? : EngineCall → Option PacketKind
  | .publish .. => some .publish
  | .subscribe .. => some .subscribe
  | .unsubscribe _ => some .unsubscribe
  | .connect _ | .disconnect => none

def bind (c : Client) : Client := { c with bound := true }

/-- Gives up the connection, if there is one. Its task is told to be silent. -/
def stop (c : Client) : Client :=
  match c.connection with
  | none => c
  | some connection =>
    { c with connection := none, retired := c.retired ++ [connection.link.silence] }

/-- Why a connection with this keep-alive cannot be opened. The time is sent in seconds. -/
def connectFault? (c : Client) (keepAlive : Duration) : Option EngineError :=
  if !c.bound then some (.setup "engine is not bound to a session core")
  else if !keepAlive.isZero && keepAlive.nanoseconds < 1000000000 then
    some (.setup ("keep alive of " ++ keepAlive.text ++ " is below one second"))
  else none

def connect (c : Client) (keepAlive : Duration) : Except EngineError UInt32 × Client :=
  match c.connectFault? keepAlive with
  | some fault => (.error fault, c)
  | none => (.ok 0, { c.stop with connection := some {} })

/-- What is answered when the line is full or nobody takes from it any more. -/
def lineFault : EngineError := .busy "Failed to send mqtt requests to eventloop"

def hasRoom (c : Client) (connection : Connection) : Bool :=
  !connection.link.isEnded && connection.line.length < c.capacity

/-- Numbers a request, has it expected and puts it in the line. A request that finds no room
keeps its number but is not expected. -/
def send (c : Client) (call : EngineCall) (kind : PacketKind) :
    Except EngineError UInt32 × Client :=
  match c.connection with
  | none => (.error .notConnected, c)
  | some connection =>
    let number := nextNumber c.lastNumber
    let c := { c with lastNumber := number }
    let expecting := connection.link.tracker.expect kind number
    if c.hasRoom connection then
      (.ok number,
        { c with
          connection := some
            { link := { connection.link with tracker := expecting }
              line := connection.line ++ [call] } })
    else
      (.error lineFault,
        { c with
          connection := some
            { connection with
              link := { connection.link with tracker := expecting.forget number } } })

def disconnect (c : Client) : Except EngineError UInt32 × Client :=
  match c.connection with
  | none => (.error .notConnected, c)
  | some connection =>
    if c.hasRoom connection then
      (.ok 0,
        { c with connection := some { connection with line := connection.line ++ [.disconnect] } })
    else (.error lineFault, c)

def call (c : Client) (call : EngineCall) : Except EngineError UInt32 × Client :=
  if hasWritableTopic call then
    match call with
    | .connect keepAlive => c.connect keepAlive
    | .disconnect => c.disconnect
    | .publish .. => c.send call .publish
    | .subscribe .. => c.send call .subscribe
    | .unsubscribe _ => c.send call .unsubscribe
  else
    (.error (.rejected ("invalid topic " ++ Text.quoted (call.topic?.getD ""))), c)

def observe (c : Client) (notification : Notification) : List Event × Client :=
  match c.connection with
  | none => ([], c)
  | some connection =>
    let (reports, link) := connection.link.serve notification
    (reports, { c with connection := some { connection with link } })

def takeRetired (place : Nat) (notification : Notification) (c : Client) : Client :=
  { c with retired := c.retired.modify place (·.take notification) }

def stepRetired (place : Nat) (c : Client) : Option Event × Client :=
  match c.retired[place]? with
  | none => (none, c)
  | some link =>
    let (report, link) := link.step
    (report, { c with retired := c.retired.set place link })

def isActive (c : Client) : Bool := c.connection.isSome

def shown (clientId : String) (c : Client) : String :=
  Text.record "RumqttEngine"
    [⟨"broker", "(" ++ Text.quoted c.options.host ++ ", " ++ toString c.options.port.toNat ++ ")"⟩,
     ⟨"client_id", Text.quoted clientId⟩,
     ⟨"capacity", toString c.capacity⟩,
     ⟨"active", toString c.isActive⟩]

end Client

end DurableMqtt.Network
