import EventSourcing.OrderedMap
import EventSourcing.Decimal.Binary64
import EventSourcing.Decimal.Shortest
import EventSourcing.Json.Basic
import EventSourcing.Json.Printer
import EventSourcing.Json.Reader
import EventSourcing.Json.Describe
import EventSourcing.Text.Visible
import EventSourcing.Text.Quoted
import EventSourcing.Timestamp.Basic
import EventSourcing.Timestamp.Reader
import EventSourcing.Identifier
import EventSourcing.Json.Decode
import EventSourcing.Metadata
import EventSourcing.Payload
import EventSourcing.Event
import EventSourcing.EventStream
import EventSourcing.Text.Blank
import EventSourcing.DomainError
import EventSourcing.Aggregate.Entity
import EventSourcing.Aggregate.Configuration
import EventSourcing.Aggregate.Guard
import EventSourcing.TrackingToken
import EventSourcing.Table
import EventSourcing.Document.Basic
import EventSourcing.Document.Serializer
import EventSourcing.Document.Upcaster
import EventSourcing.Storage.Entry
import EventSourcing.Storage.Criteria
import EventSourcing.Storage.EntryStore
import EventSourcing.Storage.Operation
import EventSourcing.Storage.Backend
import EventSourcing.EventStore.Error
import EventSourcing.EventStore.Config
import EventSourcing.EventStore.EventCodec
import EventSourcing.EventStore.Pages
import EventSourcing.EventStore.Basic
import EventSourcing.Listener.Error
import EventSourcing.Handler.Parameter
import EventSourcing.Handler.Resolver
import EventSourcing.Handler.Factory
import EventSourcing.Handler.Inspection
import EventSourcing.Listener.Basic
import EventSourcing.Monitor.Basic
import EventSourcing.Monitor.Multiplexer
import EventSourcing.Listener.Worker
import EventSourcing.Cluster.Basic
import EventSourcing.Cluster.Publication
import EventSourcing.Cluster.Selector
import EventSourcing.EventBus
import EventSourcing.LogSettings
import EventSourcing.Repository.Error
import EventSourcing.Repository.Decorator
import EventSourcing.Repository.Basic
import EventSourcing.Repository.Dispatcher
import EventSourcing.Json.Access
import EventSourcing.Interchange.Basic
import EventSourcing.Interchange.Failure
import EventSourcing.Interchange.Message
import EventSourcing.Interchange.Processing
import EventSourcing.Interchange.Aggregate
import EventSourcing.EventStream.Stage
import EventSourcing.Document.Rule
import EventSourcing.Repository.Sealing
import EventSourcing.Repository.Tracing
import EventSourcing.Cluster.Journal
import EventSourcing.Bank.State
import EventSourcing.Bank.Content
import EventSourcing.Bank.Codec
import EventSourcing.Bank.Model
import EventSourcing.Bank.Action
import EventSourcing.Aggregate.Trace
import EventSourcing.Interchange.Storage
import EventSourcing.Interchange.Handler
import EventSourcing.Interchange.Listener
import EventSourcing.EventStore.Excerpt
import EventSourcing.Interchange.StoredForm
import EventSourcing.Interchange.Repository
import EventSourcing.Proofs.Table
import EventSourcing.Proofs.Metadata
import EventSourcing.Proofs.EventStream.Accesses
import EventSourcing.Proofs.Aggregate.Attribution
import EventSourcing.Proofs.Aggregate.Meter
import EventSourcing.Proofs.Aggregate.Replay
import EventSourcing.Proofs.Aggregate.PartialReplay
import EventSourcing.Proofs.Aggregate.Numbering
import EventSourcing.Proofs.Monitor.Acknowledgements
import EventSourcing.Proofs.Monitor.Notifications
import EventSourcing.Proofs.Monitor.Balance
import EventSourcing.Proofs.Cluster.Execution
import EventSourcing.Proofs.Cluster.Queues
import EventSourcing.Proofs.Cluster.Places
import EventSourcing.Proofs.Cluster.Accounts
import EventSourcing.Proofs.Cluster.Settlement
import EventSourcing.Proofs.Cluster.Deliveries
import EventSourcing.Proofs.Cluster.Buses
import EventSourcing.Proofs.Cluster.Service
import EventSourcing.Proofs.Cluster.Ledgers
import EventSourcing.Proofs.Cluster.Bookkeeping
import EventSourcing.Proofs.Cluster.LostReports
import EventSourcing.Proofs.Cluster.LostFailures
import EventSourcing.Proofs.Storage.ConsistentLog
import EventSourcing.Proofs.Storage.Reliability
import EventSourcing.Proofs.Storage.AtomicBatches
import EventSourcing.Proofs.Storage.Tailing
import EventSourcing.Proofs.Document.RegisteredTypes
import EventSourcing.Proofs.Document.MeterSerializer
import EventSourcing.Proofs.Document.Registrations
import EventSourcing.Proofs.EventStore.PagedReading
import EventSourcing.Proofs.EventStore.RoundTrip
import EventSourcing.Proofs.EventStore.RangeReading
import EventSourcing.Proofs.EventStore.Appending
import EventSourcing.Proofs.EventStore.ForgetfulStore
import EventSourcing.Proofs.EventStore.HiddenEnds
import EventSourcing.Proofs.EventStore.Tracking
import EventSourcing.Proofs.Repository.Lifetimes
import EventSourcing.Proofs.Repository.Loading
import EventSourcing.Proofs.Repository.Decorators
import EventSourcing.Proofs.Repository.Archives
import EventSourcing.Proofs.Repository.Histories
import EventSourcing.Proofs.Repository.Saving
import EventSourcing.Proofs.Repository.Clients
import EventSourcing.Proofs.Repository.MeterRepository
import EventSourcing.Proofs.Repository.LostUpdates
import EventSourcing.Proofs.Repository.Retrying
import EventSourcing.Proofs.Repository.Ownership
import EventSourcing.Proofs.Repository.Publishing
import EventSourcing.Proofs.Repository.Remnants
import EventSourcing.Proofs.Repository.StoredSnapshots
import EventSourcing.Proofs.Repository.InvisibleSnapshots
import EventSourcing.Proofs.Repository.DecoratedRuns
import EventSourcing.Proofs.Repository.Envelopes
import EventSourcing.Proofs.EventStore.Visiting
import EventSourcing.Proofs.EventStore.SnapshotReading
import EventSourcing.Proofs.Repository.MissingAggregates
import EventSourcing.Proofs.Document.Upcasting
import EventSourcing.Proofs.Repository.SaveAnswers
import EventSourcing.Proofs.Cluster.Subscriptions
import EventSourcing.Proofs.Repository.BoundedReplay
import EventSourcing.Proofs.Repository.Batches
import EventSourcing.Proofs.Repository.ReversibleStacks
import EventSourcing.Proofs.Repository.MetadataStacks
import EventSourcing.Proofs.Handler.Priorities
import EventSourcing.Proofs.Handler.Arguments
import EventSourcing.Proofs.EventStore.SnapshotArchive
import EventSourcing.Proofs.EventStore.BoundedReading
import EventSourcing.Proofs.EventStore.SnapshotNoninterference
import EventSourcing.Proofs.Aggregate.Dispatch
