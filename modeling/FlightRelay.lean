import FlightRelay.Main
import FlightRelay.Pool.Heap
import FlightRelay.Pool.Rest
import FlightRelay.Supervisor.Feed
import FlightRelay.Proofs.Router.Exclusivity
import FlightRelay.Proofs.Router.Privacy
import FlightRelay.Proofs.Registry.Sections
import FlightRelay.Proofs.Registry.Interleaving
import FlightRelay.Proofs.Router.Completion
import FlightRelay.Proofs.Router.Endings
import FlightRelay.Proofs.Router.Isolation
import FlightRelay.Proofs.Pipeline.Outflow
import FlightRelay.Proofs.Pipeline.LaneLoss
import FlightRelay.Proofs.Pipeline.Slots
import FlightRelay.Proofs.Pool.Order
import FlightRelay.Proofs.Pool.Waking
import FlightRelay.Proofs.Router.Repetition
import FlightRelay.Proofs.Router.Ledger
import FlightRelay.Proofs.Router.Addressees
import FlightRelay.Proofs.Router.Crossing
import FlightRelay.Proofs.Supervisor.Healing
import FlightRelay.Proofs.Pipeline.Framing
import FlightRelay.Proofs.Store.Transactions
import FlightRelay.Proofs.Message.RoundTrip
import FlightRelay.Proofs.Router.Requests
import FlightRelay.Proofs.Router.FanOut
import FlightRelay.Proofs.Router.Pictures
import FlightRelay.Proofs.Supervisor.Lifecycle
import FlightRelay.Proofs.Pipeline.Batching
import FlightRelay.Proofs.Registry.Removal
import FlightRelay.Proofs.Pool.Episodes
import FlightRelay.Proofs.Pipeline.Silence
import FlightRelay.Proofs.Pipeline.Intake
import FlightRelay.Proofs.Bandwidth
import FlightRelay.Proofs.Supervisor.Tenure
import FlightRelay.Proofs.Settings
import FlightRelay.Proofs.Pipeline.Refusals
import FlightRelay.Proofs.Supervisor.SignOff
import FlightRelay.Proofs.Pool.Precedence
import FlightRelay.Proofs.Worker.Units
