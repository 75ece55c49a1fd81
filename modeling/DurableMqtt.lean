import DurableMqtt.Decimal.Reading
import DurableMqtt.Main
import DurableMqtt.Simulation.Unreachable
import DurableMqtt.Simulation.World
import DurableMqtt.Proofs.Run.Outcome
import DurableMqtt.Proofs.Run.Sending
import DurableMqtt.Proofs.Pending
import DurableMqtt.Proofs.Run.Conservation
import DurableMqtt.Proofs.Run.Passage
import DurableMqtt.Proofs.Run.Acceptance
import DurableMqtt.Proofs.Run.Abandonment
import DurableMqtt.Proofs.Run.ConnectAnswer
import DurableMqtt.Proofs.Run.Turn
import DurableMqtt.Proofs.Run.Order
import DurableMqtt.Proofs.Run.Reconnect
import DurableMqtt.Proofs.Run.Decision
import DurableMqtt.Proofs.Run.Recovery
import DurableMqtt.Proofs.Run.Resubscription
import DurableMqtt.Proofs.Run.Departure
import DurableMqtt.Proofs.Run.Exclusion
import DurableMqtt.Proofs.Run.DisconnectAnswer
import DurableMqtt.Proofs.Run.Notification
import DurableMqtt.Proofs.Run.Routing
import DurableMqtt.Proofs.Run.Teardown
import DurableMqtt.Proofs.Run.Stability
import DurableMqtt.Proofs.Run.Loss
import DurableMqtt.Proofs.Run.Replay
import DurableMqtt.Proofs.Run.Admission
import DurableMqtt.Proofs.Backoff
import DurableMqtt.Proofs.StabilityTimer
import DurableMqtt.Proofs.Queue
import DurableMqtt.Proofs.Network.Tracker
import DurableMqtt.Proofs.Network.Pairing
import DurableMqtt.Proofs.Network.Transport
import DurableMqtt.Proofs.Network.Numbering
import DurableMqtt.Proofs.Network.Freshness
import DurableMqtt.Proofs.Registry
import DurableMqtt.Proofs.Matching
import DurableMqtt.Proofs.Run.Granting
import DurableMqtt.Proofs.Topic
import DurableMqtt.Proofs.Run.Vetting
import DurableMqtt.Proofs.Network.Ending
import DurableMqtt.Proofs.Network.Silence
import DurableMqtt.Proofs.Callback
import DurableMqtt.Proofs.Network.Preparation
import DurableMqtt.Proofs.Run.Delivery
import DurableMqtt.Proofs.Daemon.Subscribing
import DurableMqtt.Proofs.Run.Agenda
import DurableMqtt.Proofs.Run.Pacing
