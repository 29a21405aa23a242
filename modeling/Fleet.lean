import Fleet.Http.Service
import Fleet.Proofs.Bundle.CommonWords
import Fleet.Proofs.Bundle.Ids
import Fleet.Proofs.Bundle.Lookups
import Fleet.Proofs.Bundle.Services
import Fleet.Proofs.Bundle.Summary
import Fleet.Proofs.Codec.Models
import Fleet.Proofs.Destination.Url
import Fleet.Proofs.Frame.Accounting
import Fleet.Proofs.Frame.Content
import Fleet.Proofs.Frame.Surplus
import Fleet.Proofs.Http.Refusals
import Fleet.Proofs.Http.Session
import Fleet.Proofs.Node.Identity
import Fleet.Proofs.Node.PortSources
import Fleet.Proofs.Node.Ports
import Fleet.Proofs.Port.NormalForm
import Fleet.Proofs.Port.Numbers
import Fleet.Proofs.Port.Rendering
import Fleet.Proofs.Report.Cleaned
import Fleet.Proofs.Report.Dependencies
import Fleet.Proofs.Report.OwnForm
import Fleet.Proofs.RouteTable.Order
import Fleet.Proofs.Store.Agreement
import Fleet.Proofs.Store.Associations
import Fleet.Proofs.Store.Connections
import Fleet.Proofs.Store.Destinations
import Fleet.Proofs.Store.Documents
import Fleet.Proofs.Store.Domains
import Fleet.Proofs.Store.Framing
import Fleet.Proofs.Store.Identity
import Fleet.Proofs.Store.Listeners
import Fleet.Proofs.Store.Malformed
import Fleet.Proofs.Store.Migrations
import Fleet.Proofs.Store.Outbox
import Fleet.Proofs.Store.Ports
import Fleet.Proofs.Store.Proxies
import Fleet.Proofs.Store.Repetition
import Fleet.Proofs.Store.Streams
import Fleet.Proofs.Store.Summaries
import Fleet.Proofs.Store.Writes
import Fleet.Proofs.Unit.Assignments
import Fleet.Proofs.Unit.Dependencies
import Fleet.Proofs.Unit.References
import Fleet.Proofs.Unit.Workload
import Fleet.Settings
