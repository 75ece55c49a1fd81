import DurableMqtt.Engine
import DurableMqtt.Event

/-!
An engine that does as it is told: it numbers the requests that it takes, refuses those that a
rule tells it to, and can have the broker's answer ready before the call returns.
-/

namespace DurableMqtt.Simulation

structure Rule where
  kind : Option RequestKind
  topic : Option String
  error : EngineError
  /-- How many more calls are refused; a negative number never runs out. -/
  times : Int

def Rule.applies (rule : Rule) (call : EngineCall) : Bool :=
  rule.times != 0 && rule.kind.all (· == call.kind) &&
    rule.topic.all fun topic => call.topic? == some topic

def Rule.isEndless (rule : Rule) : Bool := rule.times < 0

inductive Grant where
  /-- With the guarantee that was asked for. -/
  | asRequested
  | fixed (answer : SubscribeReturn)

/-- The answers that come at once, each only where it is set. -/
structure Broker where
  connect : Option UInt8 := none
  disconnect : Option UInt8 := none
  publish : Bool := false
  subscribe : Option Grant := none
  unsubscribe : Bool := false

structure Script where
  rules : List Rule := []
  broker : Broker := {}
  /-- The number given to the last request. -/
  lastNumber : UInt32 := 0
  /-- How many CONNECTs were asked for, refused ones included. -/
  connects : Nat := 0

namespace Script

def ruleFor? (s : Script) (call : EngineCall) : Option Rule := s.rules.find? (·.applies call)

def engine (s : Script) : Engine := fun call =>
  match s.ruleFor? call with
  | some rule => .error rule.error
  | none => .ok (s.lastNumber + 1)

def countDown (call : EngineCall) : List Rule → List Rule
  | [] => []
  | rule :: rest =>
    if rule.applies call then
      { rule with times := if rule.isEndless then rule.times else rule.times - 1 } :: rest
    else rule :: countDown call rest

def takesNumber (call : EngineCall) : Bool :=
  match call with
  | .connect _ | .disconnect => false
  | _ => true

def after (s : Script) (call : EngineCall) : Script :=
  let s := if call.kind = .connect then { s with connects := s.connects + 1 } else s
  match s.ruleFor? call with
  | some _ => { s with rules := countDown call s.rules }
  | none => if takesNumber call then { s with lastNumber := s.lastNumber + 1 } else s

def events (s : Script) (call : EngineCall) : List Event :=
  match s.ruleFor? call with
  | some _ => []
  | none =>
    let number := s.lastNumber + 1
    match call with
    | .connect _ => s.broker.connect.toList.map .connack
    | .disconnect => s.broker.disconnect.toList.map .disconnect
    | .publish .. => if s.broker.publish then [.puback number] else []
    | .subscribe _ qos =>
      match s.broker.subscribe with
      | none => []
      | some .asRequested => [.suback number (.granted qos)]
      | some (.fixed answer) => [.suback number answer]
    | .unsubscribe _ => if s.broker.unsubscribe then [.unsuback number] else []

end Script

end DurableMqtt.Simulation
