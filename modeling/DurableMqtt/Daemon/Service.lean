import DurableMqtt.Daemon.Startup

/-!
What the daemon does with its session: it connects, subscribes to what it was configured for,
and says on its status topic that it is online.
-/

namespace DurableMqtt.Daemon

def onlineHook : Callback := ⟨"online"⟩
def offlineHook : Callback := ⟨"offline"⟩
def unhandledHook : Callback := ⟨"unhandled"⟩
def messageHandler : Callback := ⟨"message"⟩
def subscriptionAnswer : Callback := ⟨"answer"⟩

def installHooks (s : Session) : Session :=
  ((s.onOnline onlineHook).onOffline offlineHook).onUnhandledMessage unhandledHook

/-- Whether the daemon goes on after its attempt to connect. It does not wait for a broker that
has yet to answer. -/
def afterConnect (endpoint : EndpointConfig) :
    Except SessionError UInt8 → Record × Except UInt8 Unit
  | .ok code =>
    if code = 0 then
      ({ level := .info
         message := "Connected to " ++ endpoint.host ++ ":" ++ toString endpoint.port.toNat },
        .ok ())
    else
      ({ level := .error
         message := "Broker refused the connection (code " ++ toString code.toNat ++ ")" },
        .error failureCode)
  | .error fault =>
    if fault.isTimeout then
      ({ level := .warn, message := fault.message ++ ", still trying in the background" }, .ok ())
    else
      ({ level := .error, message := "Failed to connect: " ++ fault.message }, .error failureCode)

def subscribe (engine : Engine) (subscription : SubscriptionConfig) (s : Session) :
    Except SessionError RequestId × Session :=
  s.subscribe engine subscription.topic subscription.qos messageHandler
    (.notified (some subscriptionAnswer))

/-- Asks for all configured subscriptions once, in order, and says what became of each. The
engine may answer each of them differently: `engine i` is how it answers the one at place `i`. -/
def subscribeAll (engine : Nat → Engine) (subscriptions : List SubscriptionConfig)
    (s : Session) : List (Except SessionError RequestId) × Session :=
  subscriptions.zipIdx.foldl
    (fun (results, s) (subscription, i) =>
      let (result, s) := subscribe (engine i) subscription s
      (results ++ [result], s))
    ([], s)

def subscriptionRecord (topic : String) : Except SessionError RequestId → Record
  | .ok .queued => { level := .debug, message := "Subscription to " ++ topic ++ " queued" }
  | .ok id => { level := .debug, message := "Subscribing to " ++ topic ++ " as " ++ id.text }
  | .error fault =>
    { level := .error, message := "Failed to subscribe to " ++ topic ++ ": " ++ fault.message }

def announce (engine : Engine) (statusTopic : Option String) (s : Session) :
    Option (Except SessionError RequestId) × Session :=
  match statusTopic with
  | none => (none, s)
  | some topic =>
    let (result, s) :=
      s.publish engine topic "online".toUTF8 .atLeastOnce true (.notified none)
    (some result, s)

def messageRecord (m : Message) : Record where
  level := .info
  message :=
    match m.payloadText? with
    | some text => m.topic ++ ": " ++ text
    | none => m.topic ++ ": " ++ toString m.payload.size ++ " bytes"

end DurableMqtt.Daemon
