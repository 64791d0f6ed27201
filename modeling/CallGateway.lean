import CallGateway.Main
import CallGateway.Proofs.Gateway.Mediation
import CallGateway.Proofs.Line
import CallGateway.Proofs.LogFeed.Delivery
import CallGateway.Proofs.Policy.Access
import CallGateway.Proofs.Exchange.Roll
import CallGateway.Proofs.StatsFeed.Tally
import CallGateway.Proofs.StatsFeed.Conservation
import CallGateway.Proofs.StatsFeed.Cadence
import CallGateway.Proofs.Exchange.Traffic
import CallGateway.Proofs.Exchange.Interleaving
import CallGateway.Proofs.OpenStream.Conversation
import CallGateway.Proofs.OpenStream.Shape
import CallGateway.Proofs.OpenStream.Completion
import CallGateway.Proofs.Gateway.Shut
import CallGateway.Proofs.Gateway.Draining
import CallGateway.Proofs.Line.Segments
import CallGateway.Proofs.Gateway.Probing
import CallGateway.Proofs.Gateway.Observation
import CallGateway.Proofs.Gateway.Balance
import CallGateway.Proofs.Exchange.Usage
import CallGateway.Proofs.Exchange.Senders
import CallGateway.Proofs.Exchange.Isolation
import CallGateway.Proofs.Policy.Malformed
import CallGateway.Proofs.Chain.Onion
import CallGateway.Proofs.Policy.Places
import CallGateway.Proofs.Lifecycle
import CallGateway.Proofs.Server.Course
import CallGateway.Proofs.Metrics.Rendering
import CallGateway.Proofs.LogFeed.Closing
import CallGateway.Proofs.Gauges
import CallGateway.Proofs.AdminStreams
import CallGateway.Proofs.Metrics.Sums
import CallGateway.Proofs.Line.ErrorLine
import CallGateway.Proofs.RequestBody
import CallGateway.Proofs.Gateway.Discretion
import CallGateway.Proofs.MethodName.Grammar
import CallGateway.Proofs.Exchange.Partition
import CallGateway.Proofs.Server.Startup
import CallGateway.Proofs.FrameStream.Transfer
import CallGateway.Proofs.Routes
