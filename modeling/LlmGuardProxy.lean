import LlmGuardProxy.Machinery.Bytes
import LlmGuardProxy.Machinery.Utf8
import LlmGuardProxy.Machinery.Lines
import LlmGuardProxy.Machinery.SortedMap
import LlmGuardProxy.Machinery.Json
import LlmGuardProxy.Machinery.Machine
import LlmGuardProxy.Machinery.UrlPath
import LlmGuardProxy.Machinery.Framer
import LlmGuardProxy.Machinery.Text
import LlmGuardProxy.Machinery.Reads
import LlmGuardProxy.Machinery.Search
import LlmGuardProxy.Machinery.Words
import LlmGuardProxy.Machinery.Patch
import LlmGuardProxy.Machinery.Cuts
import LlmGuardProxy.Machinery.Fallible
import LlmGuardProxy.Machinery.Sql
import LlmGuardProxy.Machinery.Table
import LlmGuardProxy.Machinery.Tally
import LlmGuardProxy.Machinery.JsonRead
import LlmGuardProxy.Machinery.Suffix
import LlmGuardProxy.Relay.Pump
import LlmGuardProxy.Relay.Move
import LlmGuardProxy.Relay.Lossless
import LlmGuardProxy.Relay.Stall
import LlmGuardProxy.Upstream.Path
import LlmGuardProxy.Upstream.Failover
import LlmGuardProxy.Sse.Rewrite
import LlmGuardProxy.Sse.RewriteStream
import LlmGuardProxy.Sse.Framing
import LlmGuardProxy.Recovery.Coordinator
import LlmGuardProxy.Recovery.System
import LlmGuardProxy.Recovery.Ownership
import LlmGuardProxy.Recovery.Publication
import LlmGuardProxy.Recovery.Waiters
import LlmGuardProxy.Loop.Signal
import LlmGuardProxy.Loop.Channel
import LlmGuardProxy.Loop.Lines
import LlmGuardProxy.Loop.Metadata
import LlmGuardProxy.Loop.Detector
import LlmGuardProxy.Loop.Semantic
import LlmGuardProxy.Chat.LoopGuard
import LlmGuardProxy.Chat.Aggregation
import LlmGuardProxy.Chat.Salvage
import LlmGuardProxy.Chat.Invariant
import LlmGuardProxy.Chat.Render
import LlmGuardProxy.Chat.Replay
import LlmGuardProxy.Chat.Roundtrip
import LlmGuardProxy.Chat.ToolCalls
import LlmGuardProxy.Chat.Stream
import LlmGuardProxy.Shielded.Decision
import LlmGuardProxy.Shielded.Attempts
import LlmGuardProxy.Shielded.Commit
import LlmGuardProxy.Observability.Metrics
import LlmGuardProxy.Observability.Redaction
import LlmGuardProxy.Observability.Store
import LlmGuardProxy.Observability.Cache
import LlmGuardProxy.Observability.Retention
import LlmGuardProxy.Evidence.Redaction
import LlmGuardProxy.Evidence.Assignments
import LlmGuardProxy.Evidence.Words
import LlmGuardProxy.Evidence.Members
import LlmGuardProxy.Evidence.Bearer
import LlmGuardProxy.Evidence.Chunks
import LlmGuardProxy.Evidence.Store
import LlmGuardProxy.Evidence.RawRetention
import LlmGuardProxy.Evidence.Charges
import LlmGuardProxy.Thinking.Reads
import LlmGuardProxy.Guard.Refusal
import LlmGuardProxy.Settings.Config
import LlmGuardProxy.Settings.Reload
import LlmGuardProxy.Routing.Profiles
import LlmGuardProxy.Machinery.JsonText
import LlmGuardProxy.Reranker.Body
import LlmGuardProxy.Routing.ForcedAlias
import LlmGuardProxy.Guard.PreRequest
import LlmGuardProxy.Shielded.Release
import LlmGuardProxy.Routing.CallerPolicy
import LlmGuardProxy.Loop.Stuck
import LlmGuardProxy.Reranker.Endpoint
import LlmGuardProxy.Thinking.Disable
import LlmGuardProxy.Guardian.Populated
import LlmGuardProxy.Guardian.Continuity
import LlmGuardProxy.Settings.Source
import LlmGuardProxy.Guardian.Recovery
import LlmGuardProxy.Sse.DirectRelay
import LlmGuardProxy.Workflow.Ownership
import LlmGuardProxy.Recovery.Pins
import LlmGuardProxy.Recovery.Rate
import LlmGuardProxy.Routing.Scrub
import LlmGuardProxy.Watchdog.Chunking
import LlmGuardProxy.Watchdog.Verdict
import LlmGuardProxy.Loop.Cuts
import LlmGuardProxy.Loop.Copied
import LlmGuardProxy.Loop.Canonical
import LlmGuardProxy.Loop.Windows
import LlmGuardProxy.Loop.Suffix
import LlmGuardProxy.Thinking.Native
import LlmGuardProxy.Thinking.Answer
import LlmGuardProxy.Thinking.Capped
import LlmGuardProxy.Thinking.Settled
import LlmGuardProxy.Thinking.Again
import LlmGuardProxy.Machinery.Decimal
import LlmGuardProxy.Machinery.Calendar
import LlmGuardProxy.Budget.Dates
import LlmGuardProxy.Loop.Tools
import LlmGuardProxy.Replay.Runner
import LlmGuardProxy.Replay.Calibration
import LlmGuardProxy.Shielded.RateLimit
import LlmGuardProxy.Shielded.Hint
import LlmGuardProxy.Upstream.RoundRobin
import LlmGuardProxy.Machinery.Collector
import LlmGuardProxy.Prose.Scan
import LlmGuardProxy.Prose.Validate
import LlmGuardProxy.Prose.Repair
import LlmGuardProxy.Prose.Extraction
import LlmGuardProxy.Machinery.Numbered
import LlmGuardProxy.Upstream.Pass
import LlmGuardProxy.Upstream.Replay
import LlmGuardProxy.Shielded.Records
import LlmGuardProxy.Machinery.Sha256
import LlmGuardProxy.Evidence.Digest
import LlmGuardProxy.Guardian.Shed
import LlmGuardProxy.Relay.Observed
import LlmGuardProxy.Settings.Publish
import LlmGuardProxy.Settings.Strings
import LlmGuardProxy.Machinery.Like
import LlmGuardProxy.Observability.Loops
import LlmGuardProxy.Machinery.Ledger
import LlmGuardProxy.Admission.Protocol
import LlmGuardProxy.Admission.Safety
import LlmGuardProxy.Machinery.Notify
import LlmGuardProxy.Lifecycle.Shutdown
import LlmGuardProxy.Admission.Closing
