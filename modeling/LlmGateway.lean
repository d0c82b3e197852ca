import LlmGateway.Library.Json.RoundTrip
import LlmGateway.Library.Runs
import LlmGateway.Library.Redis
import LlmGateway.Library.SlidingWindow
import LlmGateway.Library.Rounding
import LlmGateway.Library.PythonText
import LlmGateway.Library.Interpreter
import LlmGateway.Core.Exceptions
import LlmGateway.Core.Config
import LlmGateway.Models.Api
import LlmGateway.Models.Validation
import LlmGateway.Models.Provider
import LlmGateway.Services.Cache
import LlmGateway.Services.Gateway
import LlmGateway.Services.Streaming
import LlmGateway.Providers.Streams
import LlmGateway.Routers.Chat
import LlmGateway.Cluster.Machine
import LlmGateway.Cluster.Calls
import LlmGateway.Cluster.Coalescing
import LlmGateway.Cluster.InflightTable
import LlmGateway.Cluster.Flow
import LlmGateway.Cluster.Provenance
import LlmGateway.Cluster.Accounting
import LlmGateway.Cluster.Rows
import LlmGateway.Cluster.Bytes
import LlmGateway.Cluster.Discarding
import LlmGateway.Cluster.HandOver
import LlmGateway.Cluster.Cancellation
import LlmGateway.Limiter.Machine
import LlmGateway.Limiter.Verdicts
import LlmGateway.Cluster.Locking
import LlmGateway.Cluster.Timing
import LlmGateway.Spending.Cap
import LlmGateway.Spending.Counts
import LlmGateway.Leak.Containment
import LlmGateway.Streams.Lines
import LlmGateway.Streams.Replay
import LlmGateway.Outages.Streams
import LlmGateway.Administration.Audit
import LlmGateway.Services.PrometheusMetrics
import LlmGateway.Streams.Relaying
import LlmGateway.Streams.Passthrough
import LlmGateway.Streams.Billing
import LlmGateway.Streams.Statements
import LlmGateway.Streams.Translation
import LlmGateway.Streams.Usable
import LlmGateway.Streams.Serving
import LlmGateway.Streams.Completion
import LlmGateway.Streams.Blocks
import LlmGateway.Streams.Unbroken
import LlmGateway.Streams.Accounting
import LlmGateway.Streams.Complete
import LlmGateway.Engines.Policy
import LlmGateway.Engines.Malformed
import LlmGateway.Catalogue.Known
import LlmGateway.Catalogue.Owners
import LlmGateway.Streams.Tokens
import LlmGateway.Routers.Logs
import LlmGateway.Library.Potential
import LlmGateway.Cluster.Progress
import LlmGateway.Cluster.Releasing
import LlmGateway.Models.RoundTrip
import LlmGateway.Providers.Requests
import LlmGateway.Cluster.Freshness
import LlmGateway.Engines.Reports
import LlmGateway.Limiter.Outages
import LlmGateway.Library.History
import LlmGateway.Routers.Responses
import LlmGateway.Routers.Endpoint
import LlmGateway.Routers.Mediation
import LlmGateway.Routers.Exposure
import LlmGateway.Routers.Replies
import LlmGateway.Administration.Lifecycle
import LlmGateway.Library.Pipeline
import LlmGateway.Spending.Metering
import LlmGateway.Routers.Records
import LlmGateway.Library.Schema
import LlmGateway.Library.Walks
import LlmGateway.Storage.Migrations
import LlmGateway.Storage.Migrated
