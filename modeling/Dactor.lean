import Dactor.Runs
import Dactor.Basic
import Dactor.Persistence
import Dactor.Recovery
import Dactor.SequenceIds
import Dactor.OutboundQueue
import Dactor.QueueRuns
import Dactor.Interceptor
import Dactor.CircuitBreaker
import Dactor.Pipeline
import Dactor.MessageLoop
import Dactor.HalfOpen
import Dactor.Adapters
import Dactor.Termination
import Dactor.Watch
import Dactor.Channels
import Dactor.Mailbox
import Dactor.WatchRegistries
import Dactor.StopSignal
import Dactor.MailboxBound
import Dactor.Outbound
import Dactor.Handover
import Dactor.RemoteTell
import Dactor.Batching
import Dactor.BatchedTransport
import Dactor.BatchOrder
import Dactor.ReduceDrain
import Dactor.ReduceBatched
import Dactor.ReduceEquiv
import Dactor.Codecs
import Dactor.Numerals
import Dactor.Version
import Dactor.Proto
import Dactor.Handshake
import Dactor.Pools
import Dactor.VirtualPool
import Dactor.PoolCalls
import Dactor.NameRegistry
import Dactor.RemoteSpawn
import Dactor.NodeDirectory
import Dactor.FailedRecovery
import Dactor.Tickets
import Dactor.DeadLetters
import Dactor.PersistBatch
import Dactor.Retries
import Dactor.RetryPolicy
import Dactor.FairLanes
import Dactor.QueueOrder
import Dactor.Peek
import Dactor.SharedBreaker
import Dactor.Delays
import Dactor.SlidingWindow
import Dactor.Supervision
import Dactor.Tumbling
import Dactor.WireRateLimit
import Dactor.Throttle
import Dactor.Metrics
import Dactor.LoadReadings
import Dactor.BatchDelay
import Dactor.StreamOutput
import Dactor.Cancellation
import Dactor.OnReply
import Dactor.TransformDrain
import Dactor.WordMixing
import Dactor.Splitmix
import Dactor.EnvelopeDisplay
import Dactor.BufferedNodes
import Dactor.Slots
import Dactor.Broadcast
import Dactor.Rekeying
import Dactor.HeaderTransport
import Dactor.Servers
import Dactor.SystemActors
import Dactor.SystemRouter
import Dactor.InMemoryTransport
import Dactor.Cascades
import Dactor.WirePipeline
import Dactor.Counters
import Dactor.StopHandles
import Dactor.ClusterEvents
import Dactor.WireMessages
import Dactor.DurableRuns
import Dactor.MockCluster
import Dactor.Timers
import Dactor.Onlookers
import Dactor.MetricsInterceptor
