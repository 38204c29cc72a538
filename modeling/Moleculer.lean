import Moleculer.Tcp.Parser
import Moleculer.Tcp.Reader
import Moleculer.Tcp.Writer
import Moleculer.Tcp.ParserLaws
import Moleculer.Base.OrderedMap
import Moleculer.Base.Run
import Moleculer.Base.Promise
import Moleculer.Cacher.Middleware
import Moleculer.Cacher.Lock
import Moleculer.Cacher.LockLaws
import Moleculer.Calls.Chain
import Moleculer.Calls.ChainLaws
import Moleculer.Calls.Retries
import Moleculer.Calls.RetriesLaws
import Moleculer.Transit.Streams
import Moleculer.Transit.StreamsLaws
import Moleculer.Registry.Catalog
import Moleculer.Registry.Registry
import Moleculer.Registry.Soundness
import Moleculer.Registry.WellFormed
import Moleculer.Registry.Stopping
import Moleculer.Base.Enlist
import Moleculer.Registry.Routing
import Moleculer.Registry.RoutingTable
import Moleculer.Registry.Acceptance
import Moleculer.Tcp.Gossip
import Moleculer.Tcp.GossipLaws
import Moleculer.Tcp.Records
import Moleculer.Tcp.Places
import Moleculer.Tcp.Defence
import Moleculer.Tcp.Monotone
import Moleculer.Tcp.Exchange
import Moleculer.Tcp.Convergence
import Moleculer.Registry.Balancer
import Moleculer.Events.Emit
import Moleculer.Events.EmitLaws
import Moleculer.Events.Broadcast
import Moleculer.Contexts.Context
import Moleculer.Contexts.MultiCall
import Moleculer.Contexts.Nested
import Moleculer.Contexts.Wire
import Moleculer.Breaker.Breaker
import Moleculer.Breaker.BreakerLaws
import Moleculer.Breaker.Timers
import Moleculer.Bulkhead.Bulkhead
import Moleculer.Bulkhead.BulkheadLaws
import Moleculer.Cacher.Fairness
import Moleculer.Cacher.Memory
import Moleculer.Cacher.TimedMap
import Moleculer.Cacher.Lookups
import Moleculer.Cacher.Sequential
import Moleculer.Cacher.SequentialLaws
import Moleculer.Tcp.Containment
import Moleculer.Tcp.PacketLimit
import Moleculer.Base.Glob
import Moleculer.Utils.Match
import Moleculer.Utils.MatchLaws
import Moleculer.Utils.SafetyObject
import Moleculer.Base.Json
import Moleculer.Base.JsonObject
import Moleculer.Base.JsonValue
import Moleculer.Base.ObjectGraph
import Moleculer.Errors.Errors
import Moleculer.Errors.Regenerator
import Moleculer.Base.Separated
import Moleculer.Cacher.Keygen
import Moleculer.Cacher.KeygenLaws
import Moleculer.Transit.Duplicates
import Moleculer.Transit.Host
import Moleculer.Transit.Reclaim
import Moleculer.Transit.Ping
import Moleculer.Registry.InfoOrder
import Moleculer.Registry.Advertising
import Moleculer.Registry.Numbering
import Moleculer.Registry.Neighbours
import Moleculer.Registry.Listing
import Moleculer.Registry.ListingLaws
import Moleculer.Registry.Places
import Moleculer.Registry.Heartbeats
import Moleculer.Discoverers.Collect
import Moleculer.Base.Layers
import Moleculer.Base.Defaults
import Moleculer.Services.Schema
import Moleculer.Services.MixinOrder
import Moleculer.Services.SecureSettings
import Moleculer.Services.ActionHooks
import Moleculer.Registry.Selecting
import Moleculer.Base.Lru
import Moleculer.Strategies.Shard
import Moleculer.Strategies.ShardLaws
import Moleculer.Strategies.Resharding
import Moleculer.Strategies.Sampling
import Moleculer.Strategies.Latency
import Moleculer.Strategies.Fairness
import Moleculer.Strategies.Members
import Moleculer.Base.Cached
import Moleculer.Base.Rank
import Moleculer.Tracing.RateLimiter
import Moleculer.Tracing.Tracer
import Moleculer.Metrics.Metric
import Moleculer.Metrics.Quantiles
import Moleculer.Metrics.Histogram
import Moleculer.Metrics.HistogramLaws
import Moleculer.Metrics.Snapshots
import Moleculer.Metrics.LabelKeys
import Moleculer.Metrics.Prometheus
import Moleculer.Registry.Grouping
import Moleculer.Cacher.FastPath
import Moleculer.Registry.FailureDetector
