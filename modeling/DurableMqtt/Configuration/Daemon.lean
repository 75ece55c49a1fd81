import DurableMqtt.Configuration.Logging
import DurableMqtt.Configuration.Transport

/-!
The whole configuration of the daemon.
-/

namespace DurableMqtt

structure SubscriptionConfig where
  topic : String
  qos : Qos := .atMostOnce
deriving DecidableEq, Inhabited

structure DaemonConfig where
  /-- Where the daemon says that it is online. -/
  statusTopic : Option String := none
  /-- What the daemon subscribes to as soon as it is connected. -/
  subscriptions : List SubscriptionConfig := []
deriving DecidableEq, Inhabited

structure Config where
  log : LogConfig := {}
  transport : TransportConfig := {}
  daemon : DaemonConfig := {}
deriving DecidableEq, Inhabited

end DurableMqtt
