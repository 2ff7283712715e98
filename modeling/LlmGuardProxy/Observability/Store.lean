import LlmGuardProxy.Machinery.Fallible
import LlmGuardProxy.Machinery.Table
import LlmGuardProxy.Observability.Metrics
import LlmGuardProxy.Observability.Redaction
import Mathlib.Data.List.Sort

/-!
# Observability/Store — the tables and the writes of the observability store

`observability/store.rs`: the SQLite tables with their keys, the cascade and the counting triggers,
the statements of `record_request` and `record_attempt`, and the metrics cache beside them.  What
SQLite does with each statement is an input: it may fail, and a write may change the page count.
-/

namespace LlmGuardProxy.Observability

open Machinery

/-- `ObservabilityError`, the errors of writes. -/
inductive ObservabilityError where
  | config
  | sqlite (action : String)
  | serializeMetadata (field : String)
  | integerOutOfRange (field : String)
  | metricsRecoveryFailed (writeError recoveryError : ObservabilityError)

/-! ## Records -/

/-- `DownstreamMode`. -/
inductive DownstreamMode where
  | streaming
  | nonStreamJson
  | localMetadata

/-- `DownstreamMode::as_str`. -/
def DownstreamMode.asStr : DownstreamMode → String
  | .streaming => "streaming"
  | .nonStreamJson => "non-stream-json"
  | .localMetadata => "local-metadata"

/-- `UpstreamMode`. -/
inductive UpstreamMode where
  | streaming
  | nonStreamJson
  | notApplicable

/-- `UpstreamMode::as_str`. -/
def UpstreamMode.asStr : UpstreamMode → String
  | .streaming => "streaming"
  | .nonStreamJson => "non-stream-json"
  | .notApplicable => "not-applicable"

/-- `RequestStatus`. -/
inductive RequestStatus where
  | succeeded
  | failed
  | aborted

/-- `RequestStatus::as_str`. -/
def RequestStatus.asStr : RequestStatus → String
  | .succeeded => "succeeded"
  | .failed => "failed"
  | .aborted => "aborted"

/-- `AttemptStatus`. -/
inductive AttemptStatus where
  | succeeded
  | failed
  | retried
  | aborted

/-- `AttemptStatus::as_str`. -/
def AttemptStatus.asStr : AttemptStatus → String
  | .succeeded => "succeeded"
  | .failed => "failed"
  | .retried => "retried"
  | .aborted => "aborted"

/-- `TokenUsage`. -/
structure TokenUsage where
  inputTokens : Option UInt64 := none
  outputTokens : Option UInt64 := none
  cachedInputTokens : Option UInt64 := none
  reasoningTokens : Option UInt64 := none

/-- `RequestRecord`. -/
structure RequestRecord where
  requestId : String
  startedAtUnixMs : UInt64
  finishedAtUnixMs : Option UInt64
  downstreamMode : DownstreamMode
  upstreamMode : UpstreamMode
  modelId : Option Text
  inputFingerprint : Option Text
  status : RequestStatus
  httpStatus : Option UInt16
  errorReason : Option Text
  abortReason : Option Text
  requestMetadata : Metadata
  responseMetadata : Metadata
  rawPayloads : RawPayloads

/-- `AttemptRecord`. -/
structure AttemptRecord where
  attemptId : String
  requestId : String
  attemptNumber : UInt32
  startedAtUnixMs : UInt64
  finishedAtUnixMs : Option UInt64
  upstreamMode : UpstreamMode
  status : AttemptStatus
  httpStatus : Option UInt16
  errorReason : Option Text
  retryReason : Option Text
  abortReason : Option Text
  tokenUsage : TokenUsage
  requestMetadata : Metadata
  responseMetadata : Metadata
  rawPayloads : RawPayloads

/-! ## Rows -/

/-- `to_sqlite_i64`. -/
def toSqliteI64 (value : ℕ) (field : String) : Except ObservabilityError Int64 :=
  if value < 2 ^ 63 then .ok (Int64.ofNat value) else .error (.integerOutOfRange field)

/-- `optional_to_sqlite_i64`. -/
def optionalToSqliteI64 (value : Option UInt64) (field : String) :
    Except ObservabilityError (Option Int64) :=
  match value with
  | some value => (toSqliteI64 value.toNat field).map some
  | none => .ok none

/-- `duration_ms`. -/
def durationMs (startedAtUnixMs : UInt64) (finishedAtUnixMs : Option UInt64) : Option UInt64 :=
  finishedAtUnixMs.bind fun finished =>
    if startedAtUnixMs ≤ finished then some (finished - startedAtUnixMs) else none

/-- `redacted_metadata_json`. -/
def redactedMetadataJson (codec : MetadataCodec) (metadata : Metadata) (field : String) :
    Except ObservabilityError String :=
  match codec.toString (redactedMetadataMap metadata) with
  | some text => .ok text
  | none => .error (.serializeMetadata field)

/-- `add_len` and `add_optional_len`, one length after the other. -/
def addLens (lens : List ℕ) : ℕ := lens.foldl (saturatingAdd u64Max) 0

/-- The length of a text that may be missing. -/
def optionalLen (value : Option Text) : ℕ := value.elim 0 byteLen

/-- `add_payload_lens`. -/
def payloadLens (raw : RawPayloads) : List ℕ :=
  [optionalLen raw.input, optionalLen raw.output, optionalLen raw.reasoning,
    optionalLen raw.toolCalls]

/-- `add_optional_token_usage_bytes`. -/
def tokenUsageBytes (usage : TokenUsage) : ℕ :=
  8 * [usage.inputTokens, usage.outputTokens, usage.cachedInputTokens,
    usage.reasoningTokens].countP Option.isSome

/-- `estimate_request_bytes`. -/
def estimateRequestBytes (record : RequestRecord)
    (requestMetadataJson responseMetadataJson : String) (raw : RawPayloads) :
    Except ObservabilityError Int64 :=
  toSqliteI64 (addLens ([record.requestId.utf8ByteSize, record.downstreamMode.asStr.utf8ByteSize,
    record.upstreamMode.asStr.utf8ByteSize, optionalLen record.modelId,
    optionalLen record.inputFingerprint, record.status.asStr.utf8ByteSize,
    optionalLen record.errorReason, optionalLen record.abortReason,
    requestMetadataJson.utf8ByteSize, responseMetadataJson.utf8ByteSize] ++ payloadLens raw))
    "estimated_bytes"

/-- `estimate_attempt_bytes`. -/
def estimateAttemptBytes (record : AttemptRecord)
    (requestMetadataJson responseMetadataJson : String) (raw : RawPayloads) :
    Except ObservabilityError Int64 :=
  toSqliteI64 (addLens ([record.attemptId.utf8ByteSize, record.requestId.utf8ByteSize,
    record.upstreamMode.asStr.utf8ByteSize, record.status.asStr.utf8ByteSize,
    optionalLen record.errorReason, optionalLen record.retryReason,
    optionalLen record.abortReason, tokenUsageBytes record.tokenUsage,
    requestMetadataJson.utf8ByteSize, responseMetadataJson.utf8ByteSize] ++ payloadLens raw))
    "estimated_bytes"

/-- `PreparedRequest`: a row of `requests`. -/
structure PreparedRequest where
  requestId : String
  startedAtUnixMs : Int64
  finishedAtUnixMs : Option Int64
  durationMs : Option Int64
  downstreamMode : String
  upstreamMode : String
  modelId : Option Text
  inputFingerprint : Option Text
  status : String
  httpStatus : Option Int64
  errorReason : Option Text
  abortReason : Option Text
  requestMetadataJson : String
  responseMetadataJson : String
  rawPayloads : RawPayloads
  estimatedBytes : Int64

/-- `PreparedAttempt`: a row of `attempts`. -/
structure PreparedAttempt where
  attemptId : String
  requestId : String
  attemptNumber : Int64
  startedAtUnixMs : Int64
  finishedAtUnixMs : Option Int64
  durationMs : Option Int64
  upstreamMode : String
  status : String
  httpStatus : Option Int64
  errorReason : Option Text
  retryReason : Option Text
  abortReason : Option Text
  inputTokens : Option Int64
  outputTokens : Option Int64
  cachedInputTokens : Option Int64
  reasoningTokens : Option Int64
  requestMetadataJson : String
  responseMetadataJson : String
  rawPayloads : RawPayloads
  estimatedBytes : Int64

/-- `i64::from` on a status code. -/
def statusI64 (status : Option UInt16) : Option Int64 := status.map fun s => Int64.ofNat s.toNat

/-- `PreparedRequest::from_record`. -/
def PreparedRequest.fromRecord (codec : MetadataCodec) (record : RequestRecord)
    (captureRawPayloads : Bool) : Except ObservabilityError PreparedRequest := do
  let requestMetadataJson ← redactedMetadataJson codec record.requestMetadata "request"
  let responseMetadataJson ← redactedMetadataJson codec record.responseMetadata "response"
  let raw := sanitizeRawPayloads record.rawPayloads captureRawPayloads
  let estimatedBytes ← estimateRequestBytes record requestMetadataJson responseMetadataJson raw
  let startedAtUnixMs ← toSqliteI64 record.startedAtUnixMs.toNat "started_at_unix_ms"
  let finishedAtUnixMs ← optionalToSqliteI64 record.finishedAtUnixMs "finished_at_unix_ms"
  let duration ← optionalToSqliteI64
    (Observability.durationMs record.startedAtUnixMs record.finishedAtUnixMs) "duration_ms"
  return {
    requestId := record.requestId
    startedAtUnixMs := startedAtUnixMs
    finishedAtUnixMs := finishedAtUnixMs
    durationMs := duration
    downstreamMode := record.downstreamMode.asStr
    upstreamMode := record.upstreamMode.asStr
    modelId := sanitizeOptionalText record.modelId
    inputFingerprint := sanitizeOptionalText record.inputFingerprint
    status := record.status.asStr
    httpStatus := statusI64 record.httpStatus
    errorReason := sanitizeOptionalText record.errorReason
    abortReason := sanitizeOptionalText record.abortReason
    requestMetadataJson := requestMetadataJson
    responseMetadataJson := responseMetadataJson
    rawPayloads := raw
    estimatedBytes := estimatedBytes }

/-- `PreparedAttempt::from_record`. -/
def PreparedAttempt.fromRecord (codec : MetadataCodec) (record : AttemptRecord)
    (captureRawPayloads : Bool) : Except ObservabilityError PreparedAttempt := do
  let requestMetadataJson ← redactedMetadataJson codec record.requestMetadata "attempt request"
  let responseMetadataJson ← redactedMetadataJson codec record.responseMetadata "attempt response"
  let raw := sanitizeRawPayloads record.rawPayloads captureRawPayloads
  let estimatedBytes ← estimateAttemptBytes record requestMetadataJson responseMetadataJson raw
  let startedAtUnixMs ← toSqliteI64 record.startedAtUnixMs.toNat "started_at_unix_ms"
  let finishedAtUnixMs ← optionalToSqliteI64 record.finishedAtUnixMs "finished_at_unix_ms"
  let duration ← optionalToSqliteI64
    (Observability.durationMs record.startedAtUnixMs record.finishedAtUnixMs) "duration_ms"
  let inputTokens ← optionalToSqliteI64 record.tokenUsage.inputTokens "input_tokens"
  let outputTokens ← optionalToSqliteI64 record.tokenUsage.outputTokens "output_tokens"
  let cachedInputTokens ←
    optionalToSqliteI64 record.tokenUsage.cachedInputTokens "cached_input_tokens"
  let reasoningTokens ← optionalToSqliteI64 record.tokenUsage.reasoningTokens "reasoning_tokens"
  return {
    attemptId := record.attemptId
    requestId := record.requestId
    attemptNumber := Int64.ofNat record.attemptNumber.toNat
    startedAtUnixMs := startedAtUnixMs
    finishedAtUnixMs := finishedAtUnixMs
    durationMs := duration
    upstreamMode := record.upstreamMode.asStr
    status := record.status.asStr
    httpStatus := statusI64 record.httpStatus
    errorReason := sanitizeOptionalText record.errorReason
    retryReason := sanitizeOptionalText record.retryReason
    abortReason := sanitizeOptionalText record.abortReason
    inputTokens := inputTokens
    outputTokens := outputTokens
    cachedInputTokens := cachedInputTokens
    reasoningTokens := reasoningTokens
    requestMetadataJson := requestMetadataJson
    responseMetadataJson := responseMetadataJson
    rawPayloads := raw
    estimatedBytes := estimatedBytes }

/-- `PreparedRequest::metric_observation`, and `decode_request_metric_observation` on a row. -/
def PreparedRequest.metricObservation (codec : MetadataCodec) (row : PreparedRequest) :
    RequestMetricObservation :=
  .new codec {
    status := row.status
    downstreamMode := row.downstreamMode
    upstreamMode := row.upstreamMode
    httpStatus := row.httpStatus
    abortReason := row.abortReason.map String.ofList
    requestMetadataJson := row.requestMetadataJson
    responseMetadataJson := row.responseMetadataJson
    durationMs := row.durationMs }

/-- `PreparedAttempt::metric_observation`, and `decode_attempt_metric_observation` on a row. -/
def PreparedAttempt.metricObservation (codec : MetadataCodec) (row : PreparedAttempt) :
    AttemptMetricObservation :=
  .new codec {
    status := row.status
    upstreamMode := row.upstreamMode
    httpStatus := row.httpStatus
    retryReason := row.retryReason.map String.ofList
    abortReason := row.abortReason.map String.ofList
    responseMetadataJson := row.responseMetadataJson }

/-! ## Tables -/

/-- Two rows of `requests` have the same primary key. -/
def sameRequest (a b : PreparedRequest) : Bool := a.requestId == b.requestId

/-- Two rows of `attempts` have the same primary key, or the same request and attempt number. -/
def sameAttempt (a b : PreparedAttempt) : Bool :=
  a.attemptId == b.attemptId || (a.requestId == b.requestId && a.attemptNumber == b.attemptNumber)

theorem sameRequest_comm (a b : PreparedRequest) : sameRequest a b = sameRequest b a :=
  BEq.comm

theorem sameRequest_trans (a b c : PreparedRequest) (h : sameRequest a b = true) :
    sameRequest a c = sameRequest b c := by
  unfold sameRequest at h ⊢
  rw [beq_iff_eq.mp h]

theorem sameAttempt_comm (a b : PreparedAttempt) : sameAttempt a b = sameAttempt b a := by
  unfold sameAttempt
  rw [BEq.comm, @BEq.comm _ _ _ a.requestId, @BEq.comm _ _ _ a.attemptNumber]

/-- The row of `retention_pruning_stats`, with the counters that the triggers keep. -/
structure RetentionStatsRow where
  pruneEvents : ℤ := 0
  prunedRequests : ℤ := 0
  prunedAttempts : ℤ := 0
  lastPrunedAtUnixMs : Option Int64 := none
  requestCount : ℤ := 0
  attemptCount : ℤ := 0
  logicalBytes : ℤ := 0

/-- The database of the store. -/
structure Database where
  requests : Table PreparedRequest sameRequest rowLimit := .empty
  attempts : Table PreparedAttempt sameAttempt rowLimit := .empty
  stats : RetentionStatsRow := {}
  pageCount : Int64 := 0
  pageSize : Int64 := 4096

namespace RetentionStatsRow

/-- `requests_retention_count_insert`. -/
def requestInserted (stats : RetentionStatsRow) (row : PreparedRequest) : RetentionStatsRow :=
  { stats with
    requestCount := stats.requestCount + 1
    logicalBytes := stats.logicalBytes + row.estimatedBytes.toInt }

/-- `requests_retention_count_delete`. -/
def requestDeleted (stats : RetentionStatsRow) (row : PreparedRequest) : RetentionStatsRow :=
  { stats with
    requestCount := stats.requestCount - 1
    logicalBytes := stats.logicalBytes - row.estimatedBytes.toInt }

/-- `requests_retention_count_update`. -/
def requestUpdated (stats : RetentionStatsRow) (old row : PreparedRequest) : RetentionStatsRow :=
  { stats with
    logicalBytes := stats.logicalBytes - old.estimatedBytes.toInt + row.estimatedBytes.toInt }

/-- `attempts_retention_count_insert`. -/
def attemptInserted (stats : RetentionStatsRow) (row : PreparedAttempt) : RetentionStatsRow :=
  { stats with
    attemptCount := stats.attemptCount + 1
    logicalBytes := stats.logicalBytes + row.estimatedBytes.toInt }

/-- `attempts_retention_count_delete`. -/
def attemptDeleted (stats : RetentionStatsRow) (row : PreparedAttempt) : RetentionStatsRow :=
  { stats with
    attemptCount := stats.attemptCount - 1
    logicalBytes := stats.logicalBytes - row.estimatedBytes.toInt }

end RetentionStatsRow

namespace Database

/-- The statement of `insert_request`: an upsert, with its triggers. -/
def upsertRequest (db : Database) (row : PreparedRequest) : Option Database :=
  (db.requests.upsert sameRequest_comm sameRequest_trans row).map fun requests =>
    { db with
      requests := requests
      stats := match db.requests.rows.find? (sameRequest row) with
        | some old => db.stats.requestUpdated old row
        | none => db.stats.requestInserted row }

/-- The statement of `insert_attempt`: `INSERT OR REPLACE` under the foreign key, with recursive
triggers. -/
def replaceAttempt (db : Database) (row : PreparedAttempt) : Option Database :=
  if db.requests.rows.any (·.requestId == row.requestId) then
    (db.attempts.insertOrReplace sameAttempt_comm row).map fun attempts =>
      { db with
        attempts := attempts
        stats := ((db.attempts.replaced row).foldl RetentionStatsRow.attemptDeleted
          db.stats).attemptInserted row }
  else none

/-- The statement that prunes a request: the attempts go with it. -/
def deleteRequest (db : Database) (requestId : String) : Database :=
  { db with
    requests := db.requests.delete (·.requestId == requestId)
    attempts := db.attempts.delete (·.requestId == requestId)
    stats := (db.requests.rows.filter (·.requestId == requestId)).foldl
      RetentionStatsRow.requestDeleted
      ((db.attempts.rows.filter (·.requestId == requestId)).foldl RetentionStatsRow.attemptDeleted
        db.stats) }

/-- The statement of `record_pruning_outcome`. -/
def countPruning (db : Database) (requests attempts : ℕ) (now : Int64) : Database :=
  { db with stats := { db.stats with
      pruneEvents := db.stats.pruneEvents + 1
      prunedRequests := db.stats.prunedRequests + requests
      prunedAttempts := db.stats.prunedAttempts + attempts
      lastPrunedAtUnixMs := some now } }

/-- `ORDER BY started_at_unix_ms ASC, request_id ASC LIMIT 1`. -/
def oldestRequest (db : Database) : Option PreparedRequest :=
  (db.requests.rows.insertionSort fun a b =>
    a.startedAtUnixMs < b.startedAtUnixMs ∨
      (a.startedAtUnixMs = b.startedAtUnixMs ∧ a.requestId ≤ b.requestId)).head?

end Database

/-! ## Statements -/

/-- What SQLite does with a statement: it fails, or it is done and leaves so many pages. -/
inductive Outcome where
  | fails
  | done (pageCount : Int64)

/-- A connection with what SQLite is going to do.  After that every statement is done and leaves the
page count as it is. -/
structure Session where
  database : Database
  outcomes : List Outcome := []

/-- The computations of a connection. -/
abbrev Sql := Fallible Session ObservabilityError

/-- One statement; on a value that cannot be had it fails too. -/
def statement {α : Type} (action : String) (run : Database → Option (α × Database)) : Sql α :=
  fun s =>
    match s.outcomes, run s.database with
    | .fails :: outcomes, _ => (.error (.sqlite action), ⟨s.database, outcomes⟩)
    | outcomes, none => (.error (.sqlite action), ⟨s.database, outcomes.tail⟩)
    | .done pageCount :: outcomes, some (value, db) =>
        (.ok value, ⟨{ db with pageCount := pageCount }, outcomes⟩)
    | [], some (value, db) => (.ok value, ⟨db, []⟩)

/-- A statement that only reads. -/
def query {α : Type} (action : String) (read : Database → Option α) : Sql α := fun s =>
  match s.outcomes, read s.database with
  | .fails :: outcomes, _ => (.error (.sqlite action), ⟨s.database, outcomes⟩)
  | outcomes, none => (.error (.sqlite action), ⟨s.database, outcomes.tail⟩)
  | outcomes, some value => (.ok value, ⟨s.database, outcomes.tail⟩)

/-- A statement that writes. -/
def execute (action : String) (write : Database → Option Database) : Sql Unit :=
  statement action fun db => (write db).map fun db => ((), db)

/-- A statement without rows: `BEGIN`, the preparation of a query. -/
def prepare (action : String) : Sql Unit := query action fun _ => some ()

/-- `BEGIN … COMMIT`: a failure on the way leaves the database as it was. -/
def transaction {α : Type} (start commit : String) (body : Sql α) : Sql α := fun s =>
  match (do prepare start; let value ← body; execute commit some; return value : Sql α) s with
  | (.ok value, t) => (.ok value, t)
  | (.error e, t) => (.error e, ⟨s.database, t.outcomes⟩)

/-- `row.get::<i64>`: a counter beyond the integers of SQLite is a real number, and is refused. -/
def readI64 (value : ℤ) : Option UInt64 :=
  if -2 ^ 63 ≤ value ∧ value < 2 ^ 63 then some (UInt64.ofNat value.toNat) else none

/-! ## Reading -/

/-- `read_request_count`. -/
def readRequestCount : Sql UInt64 :=
  query "read observability request count" fun db => readI64 db.stats.requestCount

/-- `read_attempt_count`. -/
def readAttemptCount : Sql UInt64 :=
  query "read observability attempt count" fun db => readI64 db.stats.attemptCount

/-- `read_sqlite_storage_bytes`. -/
def readSqliteStorageBytes : Sql ℕ := do
  let pageCount ← query "read SQLite storage usage" fun db =>
    some (nonnegativeI64ToU64 db.pageCount)
  let pageSize ← query "read SQLite storage usage" fun db => some (nonnegativeI64ToU64 db.pageSize)
  return min (pageCount.toNat * pageSize.toNat) u64Max

/-- `read_retention_usage`. -/
def readRetentionUsage : Sql RetentionUsage := do
  let requestCount ← readRequestCount
  let attemptCount ← readAttemptCount
  let observedBytes ← readSqliteStorageBytes
  return ⟨requestCount, attemptCount,
    saturatingAdd u64Max requestCount.toNat attemptCount.toNat, observedBytes⟩

/-- `read_logical_observed_bytes`. -/
def readLogicalObservedBytes : Sql UInt64 :=
  query "read observability logical bytes" fun db => readI64 db.stats.logicalBytes

/-- `read_pruning_stats`. -/
def readPruningStats : Sql RetentionPruningStats :=
  query "read retention pruning stats" fun db => do
    let pruneEvents ← readI64 db.stats.pruneEvents
    let prunedRequests ← readI64 db.stats.prunedRequests
    let prunedAttempts ← readI64 db.stats.prunedAttempts
    return ⟨pruneEvents, prunedRequests, prunedAttempts,
      db.stats.lastPrunedAtUnixMs.map nonnegativeI64ToU64⟩

variable (codec : MetadataCodec)

/-- `read_request_metric_observation`. -/
def readRequestMetricObservation (requestId : String) : Sql (Option RequestMetricObservation) :=
  query "read request metric observation" fun db =>
    some ((db.requests.rows.find? (·.requestId == requestId)).map (·.metricObservation codec))

/-- `read_attempt_metric_observations` with a condition; `ORDER BY attempt_id`. -/
def readAttemptMetricObservations (action : String) (condition : PreparedAttempt → Bool) :
    Sql (List AttemptMetricObservation) := do
  prepare action
  query action fun db => some (((db.attempts.rows.filter condition).insertionSort fun a b =>
    a.attemptId ≤ b.attemptId).map (·.metricObservation codec))

/-- `read_replaced_attempt_metric_observations`. -/
def readReplacedAttemptMetricObservations (record : PreparedAttempt) :
    Sql (List AttemptMetricObservation) :=
  readAttemptMetricObservations codec "read replaced attempt metric observations"
    (sameAttempt record)

/-- `read_attempt_metric_observations_for_request`. -/
def readAttemptMetricObservationsForRequest (requestId : String) :
    Sql (List AttemptMetricObservation) :=
  readAttemptMetricObservations codec "read pruned attempt metric observations"
    (·.requestId == requestId)

/-- `reconstruct_metrics_accumulator`. -/
def reconstructMetricsAccumulator : Sql MetricsAccumulator := do
  let usage ← readRetentionUsage
  let pruning ← readPruningStats
  prepare "prepare request metrics reconstruction"
  prepare "query request metrics reconstruction"
  let requests ← query "decode request metrics reconstruction" fun db =>
    some (db.requests.rows.map (·.metricObservation codec))
  prepare "reconstruct attempt metrics"
  let attempts ← query "reconstruct attempt metrics" fun db =>
    some (db.attempts.rows.map (·.metricObservation codec))
  return attempts.foldl (fun metrics o => metrics.addAttempt o)
    (requests.foldl (fun metrics o => metrics.addRequest o) (.new usage pruning))

/-! ## Pruning -/

/-- `RetentionConfig`. -/
structure RetentionConfig where
  maxBytes : UInt64
  pruneToBytes : UInt64
  maxRecords : UInt64
  pruneToRecords : Option UInt64

/-- `default_prune_to_records`. -/
def defaultPruneToRecords (maxRecords : ℕ) : ℕ :=
  let gap := if maxRecords / 5 = 0 then 1 else maxRecords / 5
  if maxRecords - gap = 0 then 1 else maxRecords - gap

/-- `RetentionConfig::effective_prune_to_records`. -/
def RetentionConfig.effectivePruneToRecords (retention : RetentionConfig) : ℕ :=
  (retention.pruneToRecords.map UInt64.toNat).getD (defaultPruneToRecords retention.maxRecords.toNat)

/-- `RetentionPruneOutcome`. -/
structure RetentionPruneOutcome where
  deletedRequests : ℕ := 0
  deletedAttempts : ℕ := 0
  removedRequests : List RequestMetricObservation := []
  removedAttempts : List AttemptMetricObservation := []

/-- `RetentionPruneOutcome::deleted_any`. -/
def RetentionPruneOutcome.deletedAny (outcome : RetentionPruneOutcome) : Bool :=
  decide (0 < outcome.deletedRequests) || decide (0 < outcome.deletedAttempts)

/-- `RetentionPruneOutcome::add`. -/
def RetentionPruneOutcome.add (outcome other : RetentionPruneOutcome) : RetentionPruneOutcome where
  deletedRequests := saturatingAdd u64Max outcome.deletedRequests other.deletedRequests
  deletedAttempts := saturatingAdd u64Max outcome.deletedAttempts other.deletedAttempts
  removedRequests := outcome.removedRequests ++ other.removedRequests
  removedAttempts := outcome.removedAttempts ++ other.removedAttempts

/-- `oldest_request_id`. -/
def oldestRequestId : Sql (Option String) := do
  prepare "prepare oldest observability request query"
  prepare "query oldest observability request"
  prepare "read oldest observability request"
  query "decode oldest observability request" fun db => some (db.oldestRequest.map (·.requestId))

/-- The loop of `prune_retained_rows`.  Each turn deletes a request, so that the turns are bounded
by the requests there are. -/
def pruneLoop (maxRecords targetBytes : ℕ) : ℕ → RetentionPruneOutcome → RetentionUsage → UInt64 →
    Sql RetentionPruneOutcome
  | 0, outcome, _, _ => return outcome
  | turns + 1, outcome, usage, logicalBytes =>
      if usage.recordCount > maxRecords ∨ logicalBytes.toNat > targetBytes then do
        match ← oldestRequestId with
        | none => return outcome
        | some requestId => do
            let requestObservation ← readRequestMetricObservation codec requestId
            let attemptObservations ← readAttemptMetricObservationsForRequest codec requestId
            execute "prune oldest observability request" fun db => some (db.deleteRequest requestId)
            let outcome : RetentionPruneOutcome := {
              deletedRequests := saturatingAdd u64Max outcome.deletedRequests 1
              deletedAttempts :=
                saturatingAdd u64Max outcome.deletedAttempts attemptObservations.length
              removedRequests := outcome.removedRequests ++ requestObservation.toList
              removedAttempts := outcome.removedAttempts ++ attemptObservations }
            let usage ← readRetentionUsage
            let logicalBytes ← readLogicalObservedBytes
            pruneLoop maxRecords targetBytes turns outcome usage logicalBytes
      else return outcome

/-- The number of turns that suffice for a database. -/
def turnsFor (db : Database) : ℕ := db.requests.rows.length + 1

/-- `prune_retained_rows`. -/
def pruneRetainedRows (maxRecords targetBytes : ℕ) : Sql RetentionPruneOutcome :=
  transaction "start observability retention transaction"
    "commit observability retention transaction" do
      let usage ← readRetentionUsage
      let logicalBytes ← readLogicalObservedBytes
      fun s => pruneLoop codec maxRecords targetBytes (turnsFor s.database) {} usage logicalBytes s

/-- The loop of `enforce_retention`. -/
def enforceLoop (targetRecords targetBytes : ℕ) : ℕ → RetentionPruneOutcome → RetentionUsage →
    UInt64 → Sql RetentionPruneOutcome
  | 0, outcome, _, _ => return outcome
  | turns + 1, outcome, usage, logicalBytes =>
      if usage.recordCount > targetRecords ∨ logicalBytes.toNat > targetBytes then do
        let batch ← pruneRetainedRows codec targetRecords targetBytes
        if !batch.deletedAny then return outcome
        else do
          let outcome := outcome.add batch
          let usage ← readRetentionUsage
          let logicalBytes ← readLogicalObservedBytes
          if usage.recordCount = 0 then return outcome
          else enforceLoop targetRecords targetBytes turns outcome usage logicalBytes
      else return outcome

/-- `enforce_retention`. -/
def enforceRetention (retention : RetentionConfig) : Sql RetentionPruneOutcome := do
  let usage ← readRetentionUsage
  let logicalBytes ← readLogicalObservedBytes
  let targetBytes := if logicalBytes > retention.maxBytes then retention.pruneToBytes.toNat
    else retention.maxBytes.toNat
  let targetRecords := if usage.recordCount > retention.maxRecords.toNat then
    retention.effectivePruneToRecords else retention.maxRecords.toNat
  fun s => enforceLoop codec targetRecords targetBytes (turnsFor s.database) {} usage logicalBytes s

/-- `record_pruning_outcome`; `now` is the clock. -/
def recordPruningOutcome (outcome : RetentionPruneOutcome) (now : UInt64) : Sql Unit :=
  if !outcome.deletedAny then return ()
  else do
    let _ ← Fallible.ofExcept (toSqliteI64 outcome.deletedRequests "pruned_requests")
    let _ ← Fallible.ofExcept (toSqliteI64 outcome.deletedAttempts "pruned_attempts")
    let now ← Fallible.ofExcept (toSqliteI64 now.toNat "last_pruned_at_unix_ms")
    execute "record observability retention pruning stats" fun db =>
      some (db.countPruning outcome.deletedRequests outcome.deletedAttempts now)

/-! ## Writes -/

/-- `StoreMetricsUpdate`. -/
structure StoreMetricsUpdate where
  previousRequests : List RequestMetricObservation
  newRequest : Option RequestMetricObservation
  previousAttempts : List AttemptMetricObservation
  newAttempt : Option AttemptMetricObservation
  pruning : RetentionPruneOutcome
  retentionUsage : RetentionUsage
  pruningStats : RetentionPruningStats

/-- `StoreMetricsUpdate::apply`. -/
def StoreMetricsUpdate.apply (update : StoreMetricsUpdate) (metrics : MetricsAccumulator) :
    MetricsAccumulator :=
  let metrics := update.previousRequests.foldl (fun metrics o => metrics.removeRequest o) metrics
  let metrics := update.previousAttempts.foldl (fun metrics o => metrics.removeAttempt o) metrics
  let metrics := update.newRequest.elim metrics fun o => metrics.addRequest o
  let metrics := update.newAttempt.elim metrics fun o => metrics.addAttempt o
  let metrics := update.pruning.removedRequests.foldl (fun metrics o => metrics.removeRequest o)
    metrics
  let metrics := update.pruning.removedAttempts.foldl (fun metrics o => metrics.removeAttempt o)
    metrics
  metrics.setStoreState update.retentionUsage update.pruningStats

/-- `insert_request`. -/
def insertRequest (record : PreparedRequest) : Sql Unit :=
  transaction "start request observability transaction"
    "commit request observability transaction"
    (execute "write request observability row" (·.upsertRequest record))

/-- `insert_attempt`. -/
def insertAttempt (record : PreparedAttempt) : Sql Unit :=
  transaction "start attempt observability transaction"
    "commit attempt observability transaction"
    (execute "write attempt observability row" (·.replaceAttempt record))

/-- `observability` settings, as one call of the store reads them. -/
structure ObservabilitySettings where
  enabled : Bool
  captureRawPayloads : Bool
  retention : RetentionConfig

/-- What `record_request` does after it has read what the row replaces. -/
def writeRequest (settings : ObservabilitySettings) (now : UInt64) (prepared : PreparedRequest)
    (previous : Option RequestMetricObservation) : Sql StoreMetricsUpdate := do
  insertRequest prepared
  let pruning ← enforceRetention codec settings.retention
  recordPruningOutcome pruning now
  let retentionUsage ← readRetentionUsage
  let pruningStats ← readPruningStats
  return {
    previousRequests := previous.toList
    newRequest := some (prepared.metricObservation codec)
    previousAttempts := []
    newAttempt := none
    pruning := pruning
    retentionUsage := retentionUsage
    pruningStats := pruningStats }

/-- What `record_attempt` does after it has read what the row replaces. -/
def writeAttempt (settings : ObservabilitySettings) (now : UInt64) (prepared : PreparedAttempt)
    (previous : List AttemptMetricObservation) : Sql StoreMetricsUpdate := do
  insertAttempt prepared
  let pruning ← enforceRetention codec settings.retention
  recordPruningOutcome pruning now
  let retentionUsage ← readRetentionUsage
  let pruningStats ← readPruningStats
  return {
    previousRequests := []
    newRequest := none
    previousAttempts := previous
    newAttempt := some (prepared.metricObservation codec)
    pruning := pruning
    retentionUsage := retentionUsage
    pruningStats := pruningStats }

/-- `MetricsCache`. -/
structure MetricsCache where
  accumulator : MetricsAccumulator
  valid : Bool

/-- `StoreWrite`. -/
inductive StoreWrite where
  | written
  | disabled

/-- `ObservabilityStore`: the database and the metrics beside it. -/
structure ObservabilityStore where
  database : Database
  metrics : MetricsCache

/-- What a call of the store returns, and the store after it. -/
abbrev Called := Except ObservabilityError StoreWrite × ObservabilityStore

/-- `finish_write`, on the connection as the write has left it. -/
def finishWrite (cache : MetricsCache) (result : Except ObservabilityError StoreMetricsUpdate)
    (s : Session) : Called :=
  match result with
  | .ok update =>
      if cache.valid then
        (.ok .written, ⟨s.database, ⟨update.apply cache.accumulator, true⟩⟩)
      else
        match reconstructMetricsAccumulator codec s with
        | (.ok accumulator, t) => (.ok .written, ⟨t.database, ⟨accumulator, true⟩⟩)
        | (.error e, t) => (.error e, ⟨t.database, cache⟩)
  | .error writeError =>
      match reconstructMetricsAccumulator codec s with
      | (.ok accumulator, t) => (.error writeError, ⟨t.database, ⟨accumulator, true⟩⟩)
      | (.error e, t) =>
          (.error (.metricsRecoveryFailed writeError e),
            ⟨t.database, { cache with valid := false }⟩)

/-- A write after the settings and the prepared row are there: read what is replaced, write, and
bring the metrics up to date. -/
def writeWith {α : Type} (readPrevious : Sql α) (write : α → Sql StoreMetricsUpdate)
    (outcomes : List Outcome) (store : ObservabilityStore) : Called :=
  match readPrevious ⟨store.database, outcomes⟩ with
  | (.error e, s) => (.error e, ⟨s.database, store.metrics⟩)
  | (.ok previous, s) =>
      let (result, t) := write previous s
      finishWrite codec store.metrics result t

/-- `record_request`. -/
def recordRequest (settings : Except ObservabilityError ObservabilitySettings) (now : UInt64)
    (record : RequestRecord) (outcomes : List Outcome) (store : ObservabilityStore) : Called :=
  match settings with
  | .error e => (.error e, store)
  | .ok settings =>
      if !settings.enabled then (.ok .disabled, store)
      else
        match PreparedRequest.fromRecord codec record settings.captureRawPayloads with
        | .error e => (.error e, store)
        | .ok prepared =>
            writeWith codec (readRequestMetricObservation codec prepared.requestId)
              (writeRequest codec settings now prepared) outcomes store

/-- `record_attempt`. -/
def recordAttempt (settings : Except ObservabilityError ObservabilitySettings) (now : UInt64)
    (record : AttemptRecord) (outcomes : List Outcome) (store : ObservabilityStore) : Called :=
  match settings with
  | .error e => (.error e, store)
  | .ok settings =>
      if !settings.enabled then (.ok .disabled, store)
      else
        match PreparedAttempt.fromRecord codec record settings.captureRawPayloads with
        | .error e => (.error e, store)
        | .ok prepared =>
            writeWith codec (readReplacedAttemptMetricObservations codec prepared)
              (writeAttempt codec settings now prepared) outcomes store

/-- `ObservabilityStore::open`, once the schema is there. -/
def openStore (database : Database) (outcomes : List Outcome) :
    Except ObservabilityError ObservabilityStore :=
  match reconstructMetricsAccumulator codec ⟨database, outcomes⟩ with
  | (.ok accumulator, s) => .ok ⟨s.database, ⟨accumulator, true⟩⟩
  | (.error e, _) => .error e

/-- A call of the store: the settings at that time, the clock, the record, and what SQLite does with
the statements. -/
inductive StoreCall where
  | recordRequest (settings : Except ObservabilityError ObservabilitySettings) (now : UInt64)
      (record : RequestRecord) (outcomes : List Outcome)
  | recordAttempt (settings : Except ObservabilityError ObservabilitySettings) (now : UInt64)
      (record : AttemptRecord) (outcomes : List Outcome)

/-- The store after a call. -/
def ObservabilityStore.call (store : ObservabilityStore) : StoreCall → ObservabilityStore
  | .recordRequest settings now record outcomes =>
      (Observability.recordRequest codec settings now record outcomes store).2
  | .recordAttempt settings now record outcomes =>
      (Observability.recordAttempt codec settings now record outcomes store).2

end LlmGuardProxy.Observability
