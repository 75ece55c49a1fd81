import DurableMqtt.Configuration.Checks

/-!
What can be set about a session.
-/

namespace DurableMqtt

structure Settings where
  /-- The pause between two requests sent while a session recovers. -/
  drainingInterval : Duration
  connectDisconnectTimeout : Duration
  /-- How long a caller waits for a publish, subscribe or unsubscribe. -/
  operationTimeout : Duration
  keepAlive : Duration
  callbackWorkers : Nat
  timing : Timing
  queueCapacity : Int
  dropPolicy : DropPolicy
deriving Inhabited

def Settings.standard : Settings where
  drainingInterval := ⟨500000000, by decide⟩
  connectDisconnectTimeout := ⟨30000000000, by decide⟩
  operationTimeout := ⟨5000000000, by decide⟩
  keepAlive := ⟨30000000000, by decide⟩
  callbackWorkers := 4
  timing := .standard
  queueCapacity := 20
  dropPolicy := .dropNewest

def Settings.ofConfig (files : FileLookup) (config : TransportConfig) :
    Except SessionError Settings := do
  let violations := config.violations files
  if !violations.isEmpty then throw (.configuration violations)
  let timing ← config.backoff.timing.mapError .timing
  pure
    { drainingInterval := .ofMilliseconds config.pacing.drainingInterval
      connectDisconnectTimeout := .ofSeconds config.pacing.connectDisconnectTimeout
      operationTimeout := .ofSeconds config.pacing.operationTimeout
      keepAlive := .ofSeconds config.endpoint.keepAlive
      callbackWorkers := config.endpoint.callbackWorkers.toNat
      timing
      queueCapacity := config.offlineQueue.capacity
      dropPolicy := config.offlineQueue.dropPolicy }

end DurableMqtt
