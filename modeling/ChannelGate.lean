import ChannelGate.Gateway.Rehearsal
import ChannelGate.LogTape
import ChannelGate.Proofs.Gateway.Routing
import ChannelGate.Proofs.Publisher.Order
import ChannelGate.Startup
import ChannelGate.StreamStore.Client
import ChannelGate.Proofs.Bus.Isolation
import ChannelGate.Proofs.Bus.Topics
import ChannelGate.Proofs.Publisher.StoreCalls
import ChannelGate.Proofs.Publisher.Turns
import ChannelGate.Proofs.Publisher.Closing
import ChannelGate.Proofs.Publisher.Lock
import ChannelGate.Proofs.Publisher.Deadline
import ChannelGate.Proofs.Publisher.PublishCall
import ChannelGate.Proofs.Event.Fields
import ChannelGate.Proofs.Publisher.Outcome
import ChannelGate.Proofs.Gateway.Vetting
import ChannelGate.Proofs.Gateway.Course
import ChannelGate.Proofs.Bus.Calls
import ChannelGate.Proofs.Bus.Coupled
import ChannelGate.Proofs.Bus.History
import ChannelGate.Proofs.Bus.Registry
import ChannelGate.Proofs.Tracing.Stack
import ChannelGate.Proofs.Tracing.Alike
import ChannelGate.Proofs.Tracing.Ledger
import ChannelGate.Proofs.Tracing.Deliveries
import ChannelGate.Proofs.Tracing.Additive
import ChannelGate.Proofs.Publisher.Scopes
import ChannelGate.Proofs.Policy.Directory
import ChannelGate.Proofs.Policy.Identity
import ChannelGate.Proofs.Publisher.Capacity
import ChannelGate.Proofs.Policy.Consultation
import ChannelGate.Proofs.Policy.Loading
import ChannelGate.Proofs.Policy.Remembering
import ChannelGate.Proofs.Json.Messages
import ChannelGate.Proofs.Results
import ChannelGate.Proofs.StreamStore.Address
import ChannelGate.Proofs.Config.Validity
import ChannelGate.Proofs.Number.Decimal
import ChannelGate.Proofs.Config.Variables
import ChannelGate.Proofs.StreamStore.Command
import ChannelGate.Proofs.Publisher.Shutdown
import ChannelGate.Proofs.Publisher.Cycle
import ChannelGate.Proofs.Publisher.Recovery
import ChannelGate.Proofs.Gateway.Presenting
import ChannelGate.Proofs.Tracing.Secrecy
import ChannelGate.Proofs.Gateway.Batch
import ChannelGate.Proofs.Gateway.Unnamed
import ChannelGate.Proofs.Startup.Readiness
import ChannelGate.Proofs.Event.Registration
import ChannelGate.Proofs.Startup.Leftovers
import ChannelGate.Proofs.Bus.Delivery
import ChannelGate.Proofs.Bus.Failures
import ChannelGate.Proofs.Gateway.Guards
import ChannelGate.Proofs.Gateway.FanOut
import ChannelGate.Proofs.Policy.Grants
import ChannelGate.Proofs.Config.Demands
import ChannelGate.Proofs.Topic.EmptySegments
import ChannelGate.Proofs.Event.Bound
import ChannelGate.Proofs.Publisher.Pace
import ChannelGate.Proofs.Text.Escapes
import ChannelGate.Proofs.Error.Chain
