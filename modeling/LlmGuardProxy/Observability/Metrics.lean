import LlmGuardProxy.Machinery.Json
import LlmGuardProxy.Machinery.Tally
import LlmGuardProxy.Machinery.Text
import Mathlib.Data.Prod.Lex
import Mathlib.Data.String.Basic

/-!
# Observability/Metrics — the metrics accumulator

`metrics_accumulator.rs`: what a stored row contributes to the metrics, and counters to which rows
are added and from which they are removed.

* `Accounts` — the counters say exactly what a multiset of requests and one of attempts contribute.
* `Accounts.addRequest`, `Accounts.removeRequest`, `Accounts.addAttempt`, `Accounts.removeAttempt`
  — kept by every change, in whatever order.
* `Accounts.unique` — the counters are determined by the rows.
-/

namespace LlmGuardProxy.Observability

open Machinery

/-! ## Observations -/

/-- `serde_json` on metadata: `to_string` of a map of strings, and `from_str`. -/
structure MetadataCodec where
  toString : Metadata → Option String
  fromStr : String → Option Json

/-- A codec on which every metadata is the empty object. -/
def emptyMetadataCodec : MetadataCodec := ⟨fun _ => some "\x7b\x7d", fun _ => some (.obj [])⟩

/-- `HISTOGRAM_BUCKETS_MS`. -/
def histogramBucketsMs : List ℕ := [10, 25, 50, 100, 250, 500, 1000, 2500, 5000, 10000, 30000, 60000]

/-- `u64::MAX`. -/
def u64Max : ℕ := 2 ^ 64 - 1

/-- `u128::MAX`. -/
def u128Max : ℕ := 2 ^ 128 - 1

/-- `nonnegative_i64_to_u64`. -/
def nonnegativeI64ToU64 (value : Int64) : UInt64 := if value < 0 then 0 else value.toUInt64

/-- `u16::try_from`. -/
def u16TryFrom (value : Int64) : Option ℕ :=
  if 0 ≤ value.toInt ∧ value.toInt ≤ 65535 then some value.toInt.toNat else none

/-- `http_status_class`. -/
def httpStatusClass (status : Option Int64) : String :=
  match status.bind u16TryFrom with
  | some code =>
      if 100 ≤ code ∧ code ≤ 199 then "1xx"
      else if 200 ≤ code ∧ code ≤ 299 then "2xx"
      else if 300 ≤ code ∧ code ≤ 399 then "3xx"
      else if 400 ≤ code ∧ code ≤ 499 then "4xx"
      else if 500 ≤ code ∧ code ≤ 599 then "5xx"
      else "other"
  | none => "none"

/-- `upstream_error_kind`. -/
def upstreamErrorKind (status : String) (httpStatus : Option Int64) : String :=
  match httpStatus.bind u16TryFrom with
  | none => "transport"
  | some code =>
      if 500 ≤ code ∧ code ≤ 599 then "http_5xx"
      else if code = 408 ∨ code = 429 then "http_retryable"
      else if status = "retried" then "retry"
      else "attempt_failed"

/-- `request_terminal_reason`. -/
def requestTerminalReason (status : String) : Option String → String
  | some reason =>
      if reason = "downstream_body_dropped_before_eof" ∨
        reason = "downstream_disconnected_while_queued" then "downstream_disconnect"
      else if reason = "server_shutdown" ∨ reason = "server_shutdown_while_queued" then
        "server_shutdown"
      else if reason = "loop_guard" then "loop_guard"
      else if reason = "upstream_stall" then "upstream_stall"
      else if reason = "hot_restart_timeout" ∨ reason = "hot_restart_error" then "hot_restart"
      else if reason = "shadow_timeout" then "shadow_timeout"
      else "other_abort"
  | none =>
      if status = "succeeded" then "succeeded"
      else if status = "failed" then "failed"
      else "none"

/-- `metadata_value`. -/
def metadataValue (codec : MetadataCodec) (metadataJson key : String) : Option String :=
  (codec.fromStr metadataJson).bind fun value =>
    value.asObject.bind fun members => (members.get key).bind Json.asStr

/-- `normalized_heartbeat_mode_label`, with the labels of `HeartbeatMode`. -/
def normalizedHeartbeatModeLabel (value : String) : String :=
  if value = "held" then "held"
  else if value = "sse" ∨ value = "json-whitespace" ∨ value = "disabled" then value
  else "other"

/-- `eq_ignore_ascii_case`. -/
def eqIgnoreAsciiCase (s t : Text) : Bool := s.map Char.toLower == t.map Char.toLower

/-- `find_ascii_case_insensitive`: whether there is an occurrence. -/
def hasAsciiCaseInsensitive (needle : Text) (haystack : Text) : Bool :=
  haystack.tails.any fun rest => eqIgnoreAsciiCase (rest.take needle.length) needle

/-- `find_sqlite_like_loop_detected`: the text after the first `loop`, any character and `detected`. -/
def findSqliteLikeLoopDetected : Text → Option Text
  | [] => none
  | c :: rest =>
      let candidate := c :: rest
      if eqIgnoreAsciiCase (candidate.take 4) "loop".toList ∧
          eqIgnoreAsciiCase ((candidate.drop 5).take 8) "detected".toList then
        some (candidate.drop 13)
      else findSqliteLikeLoopDetected rest

/-- `sqlite_like_loop_detected_true`. -/
def sqliteLikeLoopDetectedTrue (metadataJson : String) : Bool :=
  match findSqliteLikeLoopDetected metadataJson.toList with
  | some rest => hasAsciiCaseInsensitive "true".toList rest
  | none => false

/-- `str::parse::<u64>`: an optional plus sign and decimal digits. -/
def parseU64 (s : String) : Option UInt64 :=
  let digits := match s.toList with
    | '+' :: rest => rest
    | cs => cs
  if digits ≠ [] ∧ digits.all Char.isDigit then
    let n := digits.foldl (fun n c => 10 * n + (c.toNat - '0'.toNat)) 0
    if n ≤ u64Max then some (UInt64.ofNat n) else none
  else none

/-- Keys of three labels, in the order of tuples. -/
abbrev Key3 := String ×ₗ String ×ₗ String

/-- Keys of four labels. -/
abbrev Key4 := String ×ₗ Key3

/-- `LoopGuardAttemptMetricKey`. -/
abbrev LoopGuardAttemptMetricKey := String ×ₗ String ×ₗ Key4

/-- `bool_metric_label`. -/
def boolMetricLabel (value : Option String) : String :=
  if value.any (fun value => eqIgnoreAsciiCase value.toList "true".toList) then "true" else "false"

/-- `detector_class_metric_label`. -/
def detectorClassMetricLabel (value : Option String) : String :=
  match value with
  | some label => if label ∈ ["line", "token", "semantic", "embedding"] then label else "none"
  | none => "none"

/-- `ladder_rung_metric_label`. -/
def ladderRungMetricLabel (value : String) : String :=
  if value ≠ "" ∧ value.utf8ByteSize ≤ 64 ∧
      value.toList.all (fun c => c.isAlphanum || c == '_' || c == '-' || c == '.') then value
  else "other"

/-- `numeric_metric_label`. -/
def numericMetricLabel (value : Option String) : String :=
  match value with
  | some label =>
      if label = "unset" then "unset" else if (parseU64 label).isSome then label else "unknown"
  | none => "unknown"

/-- `loop_guard_attempt_metric_key`. -/
def loopGuardAttemptMetricKey (codec : MetadataCodec) (metadataJson : String) :
    Option LoopGuardAttemptMetricKey :=
  (codec.fromStr metadataJson).bind fun metadata => metadata.asObject.bind fun members =>
    let value (key : String) : Option String := (members.get key).bind Json.asStr
    (value "ladder_rung").map fun ladderRung =>
      toLex (boolMetricLabel (value "loop_detected"),
        toLex (detectorClassMetricLabel (value "loop_detector_class"),
          toLex (ladderRungMetricLabel ladderRung,
            toLex (boolMetricLabel (value "salvage_used"),
              toLex (numericMetricLabel (value "thinking_budget"),
                numericMetricLabel (value "max_tokens"))))))

/-- What a request row contributes. -/
structure RequestMetricObservation where
  requestKey : Key4
  terminalKey : Key3
  loopAborted : Bool
  durationMs : Option UInt64
  heartbeatMode : Option String

/-- The columns of a request row that count. -/
structure RequestMetricInput where
  status : String
  downstreamMode : String
  upstreamMode : String
  httpStatus : Option Int64
  abortReason : Option String
  requestMetadataJson : String
  responseMetadataJson : String
  durationMs : Option Int64

/-- `RequestMetricObservation::new`. -/
def RequestMetricObservation.new (codec : MetadataCodec) (input : RequestMetricInput) :
    RequestMetricObservation :=
  let statusClass := httpStatusClass input.httpStatus
  { requestKey := toLex (input.status,
      toLex (input.downstreamMode, toLex (input.upstreamMode, statusClass)))
    terminalKey := toLex (input.status,
      toLex (requestTerminalReason input.status input.abortReason, statusClass))
    loopAborted := input.abortReason == some "loop_guard" ||
      sqliteLikeLoopDetectedTrue input.responseMetadataJson
    durationMs := input.durationMs.map nonnegativeI64ToU64
    heartbeatMode :=
      ((metadataValue codec input.responseMetadataJson "downstream_liveness_mode").or
        (metadataValue codec input.requestMetadataJson "downstream_liveness_mode")).map
          normalizedHeartbeatModeLabel }

/-- What an attempt row contributes. -/
structure AttemptMetricObservation where
  attemptKey : Key3
  retried : Bool
  loopAborted : Bool
  upstreamErrorKey : Option (String ×ₗ String)
  loopGuardKey : Option LoopGuardAttemptMetricKey
  firstTokenLatencyMs : Option UInt64

/-- The columns of an attempt row that count. -/
structure AttemptMetricInput where
  status : String
  upstreamMode : String
  httpStatus : Option Int64
  retryReason : Option String
  abortReason : Option String
  responseMetadataJson : String

/-- `AttemptMetricObservation::new`. -/
def AttemptMetricObservation.new (codec : MetadataCodec) (input : AttemptMetricInput) :
    AttemptMetricObservation :=
  let statusClass := httpStatusClass input.httpStatus
  { attemptKey := toLex (input.status, toLex (input.upstreamMode, statusClass))
    retried := input.status == "retried" || input.retryReason.isSome
    loopAborted := input.abortReason == some "loop_guard" ||
      sqliteLikeLoopDetectedTrue input.responseMetadataJson
    upstreamErrorKey :=
      if input.status ≠ "succeeded" ∨ input.httpStatus.all (fun status => decide (500 ≤ status)) then
        some (toLex (upstreamErrorKind input.status input.httpStatus, statusClass))
      else none
    loopGuardKey := loopGuardAttemptMetricKey codec input.responseMetadataJson
    firstTokenLatencyMs :=
      (metadataValue codec input.responseMetadataJson "first_token_latency_ms").bind parseU64 }

/-! ## The accumulator -/

/-- `RetentionUsage`. -/
structure RetentionUsage where
  requestCount : UInt64
  attemptCount : UInt64
  recordCount : ℕ
  observedBytes : ℕ
deriving DecidableEq

/-- `RetentionPruningStats`. -/
structure RetentionPruningStats where
  pruneEvents : UInt64
  prunedRequests : UInt64
  prunedAttempts : UInt64
  lastPrunedAtUnixMs : Option UInt64
deriving DecidableEq

/-- `MetricsAccumulator`. -/
structure MetricsAccumulator where
  requestCounts : List (Key4 × ℕ)
  requestTerminalCounts : List (Key3 × ℕ)
  attemptCounts : List (Key3 × ℕ)
  loopGuardAttemptCounts : List (LoopGuardAttemptMetricKey × ℕ)
  retryCount : ℕ
  loopAbortCount : ℕ
  upstreamErrorCounts : List ((String ×ₗ String) × ℕ)
  firstTokenLatencyMs : Histogram
  totalLatencyMs : Histogram
  heartbeatModeCounts : List (String × ℕ)
  retentionUsage : RetentionUsage
  pruning : RetentionPruningStats

namespace MetricsAccumulator

/-- `MetricsAccumulator::new`. -/
def new (retentionUsage : RetentionUsage) (pruning : RetentionPruningStats) : MetricsAccumulator where
  requestCounts := []
  requestTerminalCounts := []
  attemptCounts := []
  loopGuardAttemptCounts := []
  retryCount := 0
  loopAbortCount := 0
  upstreamErrorCounts := []
  firstTokenLatencyMs := .empty histogramBucketsMs
  totalLatencyMs := .empty histogramBucketsMs
  heartbeatModeCounts := []
  retentionUsage := retentionUsage
  pruning := pruning

/-- A counter of flagged rows, one row more. -/
def countFlag (flag : Bool) (count : ℕ) : ℕ := if flag then saturatingAdd u64Max count 1 else count

/-- A counter of flagged rows, one row less. -/
def uncountFlag (flag : Bool) (count : ℕ) : ℕ := if flag then count - 1 else count

/-- `add_request`. -/
def addRequest (observation : RequestMetricObservation) (metrics : MetricsAccumulator) :
    MetricsAccumulator :=
  { metrics with
    requestCounts := increment u64Max observation.requestKey metrics.requestCounts
    requestTerminalCounts := increment u64Max observation.terminalKey metrics.requestTerminalCounts
    loopAbortCount := countFlag observation.loopAborted metrics.loopAbortCount
    totalLatencyMs := (observation.durationMs.map UInt64.toNat).elim metrics.totalLatencyMs fun ms =>
      metrics.totalLatencyMs.add histogramBucketsMs u64Max u128Max ms
    heartbeatModeCounts := observation.heartbeatMode.elim metrics.heartbeatModeCounts fun mode =>
      increment u64Max mode metrics.heartbeatModeCounts }

/-- `remove_request`. -/
def removeRequest (observation : RequestMetricObservation) (metrics : MetricsAccumulator) :
    MetricsAccumulator :=
  { metrics with
    requestCounts := decrement observation.requestKey metrics.requestCounts
    requestTerminalCounts := decrement observation.terminalKey metrics.requestTerminalCounts
    loopAbortCount := uncountFlag observation.loopAborted metrics.loopAbortCount
    totalLatencyMs := (observation.durationMs.map UInt64.toNat).elim metrics.totalLatencyMs fun ms =>
      metrics.totalLatencyMs.remove histogramBucketsMs ms
    heartbeatModeCounts := observation.heartbeatMode.elim metrics.heartbeatModeCounts fun mode =>
      decrement mode metrics.heartbeatModeCounts }

/-- `add_attempt`. -/
def addAttempt (observation : AttemptMetricObservation) (metrics : MetricsAccumulator) :
    MetricsAccumulator :=
  { metrics with
    attemptCounts := increment u64Max observation.attemptKey metrics.attemptCounts
    retryCount := countFlag observation.retried metrics.retryCount
    loopAbortCount := countFlag observation.loopAborted metrics.loopAbortCount
    upstreamErrorCounts := observation.upstreamErrorKey.elim metrics.upstreamErrorCounts fun key =>
      increment u64Max key metrics.upstreamErrorCounts
    loopGuardAttemptCounts := observation.loopGuardKey.elim metrics.loopGuardAttemptCounts fun key =>
      increment u64Max key metrics.loopGuardAttemptCounts
    firstTokenLatencyMs := (observation.firstTokenLatencyMs.map UInt64.toNat).elim
      metrics.firstTokenLatencyMs fun ms =>
        metrics.firstTokenLatencyMs.add histogramBucketsMs u64Max u128Max ms }

/-- `remove_attempt`. -/
def removeAttempt (observation : AttemptMetricObservation) (metrics : MetricsAccumulator) :
    MetricsAccumulator :=
  { metrics with
    attemptCounts := decrement observation.attemptKey metrics.attemptCounts
    retryCount := uncountFlag observation.retried metrics.retryCount
    loopAbortCount := uncountFlag observation.loopAborted metrics.loopAbortCount
    upstreamErrorCounts := observation.upstreamErrorKey.elim metrics.upstreamErrorCounts fun key =>
      decrement key metrics.upstreamErrorCounts
    loopGuardAttemptCounts := observation.loopGuardKey.elim metrics.loopGuardAttemptCounts fun key =>
      decrement key metrics.loopGuardAttemptCounts
    firstTokenLatencyMs := (observation.firstTokenLatencyMs.map UInt64.toNat).elim
      metrics.firstTokenLatencyMs fun ms =>
        metrics.firstTokenLatencyMs.remove histogramBucketsMs ms }

/-- `set_store_state`. -/
def setStoreState (retentionUsage : RetentionUsage) (pruning : RetentionPruningStats)
    (metrics : MetricsAccumulator) : MetricsAccumulator :=
  { metrics with retentionUsage := retentionUsage, pruning := pruning }

end MetricsAccumulator

/-- Steps that leave the store's counters alone leave them alone together. -/
theorem foldl_storeState {α : Type*} (step : MetricsAccumulator → α → MetricsAccumulator)
    (h : ∀ metrics item, (step metrics item).retentionUsage = metrics.retentionUsage ∧
      (step metrics item).pruning = metrics.pruning) (items : List α)
    (metrics : MetricsAccumulator) :
    (items.foldl step metrics).retentionUsage = metrics.retentionUsage ∧
      (items.foldl step metrics).pruning = metrics.pruning := by
  induction items generalizing metrics with
  | nil => exact ⟨rfl, rfl⟩
  | cons item items ih =>
    exact ⟨(ih _).1.trans (h metrics item).1, (ih _).2.trans (h metrics item).2⟩

/-! ## Snapshots -/

/-- `RequestMetricCount`. -/
structure RequestMetricCount where
  status : String
  downstreamMode : String
  upstreamMode : String
  httpStatusClass : String
  count : ℕ
deriving DecidableEq

/-- `RequestTerminalMetricCount`. -/
structure RequestTerminalMetricCount where
  status : String
  terminalReason : String
  httpStatusClass : String
  count : ℕ
deriving DecidableEq

/-- `AttemptMetricCount`. -/
structure AttemptMetricCount where
  status : String
  upstreamMode : String
  httpStatusClass : String
  count : ℕ
deriving DecidableEq

/-- `LoopGuardAttemptMetricCount`. -/
structure LoopGuardAttemptMetricCount where
  loopDetected : String
  detectorClass : String
  ladderRung : String
  salvageUsed : String
  thinkingBudget : String
  maxTokens : String
  count : ℕ
deriving DecidableEq

/-- `UpstreamErrorMetricCount`. -/
structure UpstreamErrorMetricCount where
  kind : String
  httpStatusClass : String
  count : ℕ
deriving DecidableEq

/-- `HeartbeatModeMetricCount`. -/
structure HeartbeatModeMetricCount where
  mode : String
  count : ℕ
deriving DecidableEq

/-- `HistogramBucket`. -/
structure HistogramBucket where
  leMs : ℕ
  count : ℕ
deriving DecidableEq

/-- `LatencyHistogram`. -/
structure LatencyHistogram where
  buckets : List HistogramBucket
  count : ℕ
  sumMs : ℕ
deriving DecidableEq

/-- `ObservabilityMetricsSnapshot`. -/
structure ObservabilityMetricsSnapshot where
  requestCounts : List RequestMetricCount
  requestTerminalCounts : List RequestTerminalMetricCount
  attemptCounts : List AttemptMetricCount
  loopGuardAttemptCounts : List LoopGuardAttemptMetricCount
  retryCount : ℕ
  loopAbortCount : ℕ
  upstreamErrorCounts : List UpstreamErrorMetricCount
  firstTokenLatencyMs : LatencyHistogram
  totalLatencyMs : LatencyHistogram
  heartbeatModeCounts : List HeartbeatModeMetricCount
  retentionUsage : RetentionUsage
  pruning : RetentionPruningStats
deriving DecidableEq

/-- `HistogramAccumulator::snapshot`. -/
def histogramSnapshot (histogram : Histogram) : LatencyHistogram where
  buckets := List.zipWith HistogramBucket.mk histogramBucketsMs histogram.buckets
  count := histogram.count
  sumMs := min histogram.sum u64Max

/-- `MetricsAccumulator::snapshot`. -/
def MetricsAccumulator.snapshot (metrics : MetricsAccumulator) : ObservabilityMetricsSnapshot where
  requestCounts := metrics.requestCounts.map fun ⟨key, count⟩ =>
    ⟨(ofLex key).1, (ofLex (ofLex key).2).1, (ofLex (ofLex (ofLex key).2).2).1,
      (ofLex (ofLex (ofLex key).2).2).2, count⟩
  requestTerminalCounts := metrics.requestTerminalCounts.map fun ⟨key, count⟩ =>
    ⟨(ofLex key).1, (ofLex (ofLex key).2).1, (ofLex (ofLex key).2).2, count⟩
  attemptCounts := metrics.attemptCounts.map fun ⟨key, count⟩ =>
    ⟨(ofLex key).1, (ofLex (ofLex key).2).1, (ofLex (ofLex key).2).2, count⟩
  loopGuardAttemptCounts := metrics.loopGuardAttemptCounts.map fun ⟨key, count⟩ =>
    let labels := ofLex (ofLex (ofLex key).2).2
    ⟨(ofLex key).1, (ofLex (ofLex key).2).1, labels.1, (ofLex labels.2).1,
      (ofLex (ofLex labels.2).2).1, (ofLex (ofLex labels.2).2).2, count⟩
  retryCount := metrics.retryCount
  loopAbortCount := metrics.loopAbortCount
  upstreamErrorCounts := metrics.upstreamErrorCounts.map fun ⟨key, count⟩ =>
    ⟨(ofLex key).1, (ofLex key).2, count⟩
  firstTokenLatencyMs := histogramSnapshot metrics.firstTokenLatencyMs
  totalLatencyMs := histogramSnapshot metrics.totalLatencyMs
  heartbeatModeCounts := metrics.heartbeatModeCounts.map fun ⟨mode, count⟩ => ⟨mode, count⟩
  retentionUsage := metrics.retentionUsage
  pruning := metrics.pruning

/-! ## What the counters account for -/

/-- The rows of a table fit the signed row ids of SQLite. -/
def rowLimit : ℕ := 2 ^ 63 - 1

/-- **The counters say what these requests and attempts contribute**, no more and no less. -/
structure Accounts (metrics : MetricsAccumulator) (requests : Multiset RequestMetricObservation)
    (attempts : Multiset AttemptMetricObservation) : Prop where
  requestCounts : Tallies metrics.requestCounts (requests.map (·.requestKey))
  requestTerminalCounts : Tallies metrics.requestTerminalCounts (requests.map (·.terminalKey))
  attemptCounts : Tallies metrics.attemptCounts (attempts.map (·.attemptKey))
  loopGuardAttemptCounts :
    Tallies metrics.loopGuardAttemptCounts (attempts.filterMap (·.loopGuardKey))
  retryCount : metrics.retryCount = attempts.countP (·.retried)
  loopAbortCount :
    metrics.loopAbortCount = requests.countP (·.loopAborted) + attempts.countP (·.loopAborted)
  upstreamErrorCounts :
    Tallies metrics.upstreamErrorCounts (attempts.filterMap (·.upstreamErrorKey))
  firstTokenLatencyMs : Histogram.Measures histogramBucketsMs metrics.firstTokenLatencyMs
    (attempts.filterMap fun o => o.firstTokenLatencyMs.map UInt64.toNat)
  totalLatencyMs : Histogram.Measures histogramBucketsMs metrics.totalLatencyMs
    (requests.filterMap fun o => o.durationMs.map UInt64.toNat)
  heartbeatModeCounts :
    Tallies metrics.heartbeatModeCounts (requests.filterMap (·.heartbeatMode))

namespace Accounts

open MetricsAccumulator

variable {metrics : MetricsAccumulator} {requests : Multiset RequestMetricObservation}
  {attempts : Multiset AttemptMetricObservation}

theorem new (usage : RetentionUsage) (pruning : RetentionPruningStats) :
    Accounts (.new usage pruning) 0 0 where
  requestCounts := tallies_nil
  requestTerminalCounts := tallies_nil
  attemptCounts := tallies_nil
  loopGuardAttemptCounts := tallies_nil
  retryCount := rfl
  loopAbortCount := rfl
  upstreamErrorCounts := tallies_nil
  firstTokenLatencyMs := Histogram.measures_empty _
  totalLatencyMs := Histogram.measures_empty _
  heartbeatModeCounts := tallies_nil

theorem setStoreState (h : Accounts metrics requests attempts) (usage : RetentionUsage)
    (pruning : RetentionPruningStats) :
    Accounts (metrics.setStoreState usage pruning) requests attempts :=
  { h with }

/-- **The counters are determined by the rows.** -/
theorem unique {other : MetricsAccumulator} (h : Accounts metrics requests attempts)
    (hother : Accounts other requests attempts)
    (husage : metrics.retentionUsage = other.retentionUsage)
    (hpruning : metrics.pruning = other.pruning) : metrics = other := by
  cases metrics
  cases other
  rw [MetricsAccumulator.mk.injEq]
  exact ⟨h.requestCounts.unique hother.requestCounts,
    h.requestTerminalCounts.unique hother.requestTerminalCounts,
    h.attemptCounts.unique hother.attemptCounts,
    h.loopGuardAttemptCounts.unique hother.loopGuardAttemptCounts,
    h.retryCount.trans hother.retryCount.symm, h.loopAbortCount.trans hother.loopAbortCount.symm,
    h.upstreamErrorCounts.unique hother.upstreamErrorCounts,
    h.firstTokenLatencyMs.unique hother.firstTokenLatencyMs,
    h.totalLatencyMs.unique hother.totalLatencyMs,
    h.heartbeatModeCounts.unique hother.heartbeatModeCounts, husage, hpruning⟩

theorem countFlag_eq (flag : Bool) {count : ℕ} (h : count < u64Max) :
    countFlag flag count = count + if flag then 1 else 0 := by
  cases flag with
  | false => rfl
  | true => exact saturatingAdd_of_le h

theorem uncountFlag_eq (flag : Bool) (count : ℕ) :
    uncountFlag flag (count + if flag then 1 else 0) = count := by
  cases flag with
  | false => rfl
  | true => exact Nat.add_sub_cancel count 1

theorem toNat_le_u64Max {ι : Type*} (value : ι → Option UInt64) (item : ι) (v : ℕ)
    (h : (value item).map UInt64.toNat = some v) : v ≤ u64Max := by
  obtain ⟨n, -, rfl⟩ := Option.map_eq_some_iff.mp h
  exact Nat.le_sub_one_of_lt n.toNat_lt

/-- No sum of durations reaches the limit. -/
theorem sum_le_u128Max {count : ℕ} (h : count < rowLimit) : (count + 1) * u64Max ≤ u128Max :=
  (Nat.mul_le_mul_right u64Max h).trans (by decide)

theorem lt_u64Max {count : ℕ} (h : count < rowLimit) : count < u64Max :=
  h.trans (by decide)

theorem loopAbortCount_lt (h : Accounts metrics requests attempts)
    (hroom : requests.card + attempts.card < 2 * rowLimit) : metrics.loopAbortCount < u64Max := by
  have hrequests := Multiset.countP_le_card (fun o => o.loopAborted = true) requests
  have hattempts := Multiset.countP_le_card (fun o => o.loopAborted = true) attempts
  have hlimit : 2 * rowLimit ≤ u64Max := by decide
  rw [h.loopAbortCount]
  omega

/-- One request more. -/
theorem addRequest (h : Accounts metrics requests attempts)
    (observation : RequestMetricObservation) (hrequests : requests.card < rowLimit)
    (hattempts : attempts.card ≤ rowLimit) :
    Accounts (metrics.addRequest observation) (observation ::ₘ requests) attempts where
  requestCounts := by
    rw [Multiset.map_cons]
    exact h.requestCounts.increment _ (by rw [Multiset.card_map]; exact lt_u64Max hrequests)
  requestTerminalCounts := by
    rw [Multiset.map_cons]
    exact h.requestTerminalCounts.increment _ (by rw [Multiset.card_map]; exact lt_u64Max hrequests)
  attemptCounts := h.attemptCounts
  loopGuardAttemptCounts := h.loopGuardAttemptCounts
  retryCount := h.retryCount
  loopAbortCount := by
    rw [MetricsAccumulator.addRequest, countFlag_eq _ (h.loopAbortCount_lt (by omega)),
      Multiset.countP_cons, h.loopAbortCount, add_right_comm]
  upstreamErrorCounts := h.upstreamErrorCounts
  firstTokenLatencyMs := h.firstTokenLatencyMs
  totalLatencyMs := h.totalLatencyMs.addSome observation (lt_u64Max hrequests)
    (toNat_le_u64Max _) (sum_le_u128Max hrequests)
  heartbeatModeCounts := h.heartbeatModeCounts.incrementSome observation (lt_u64Max hrequests)

/-- One request less. -/
theorem removeRequest {observation : RequestMetricObservation}
    (h : Accounts metrics (observation ::ₘ requests) attempts) :
    Accounts (metrics.removeRequest observation) requests attempts where
  requestCounts := by
    have hcounts := h.requestCounts
    rw [Multiset.map_cons] at hcounts
    exact hcounts.decrement
  requestTerminalCounts := by
    have hcounts := h.requestTerminalCounts
    rw [Multiset.map_cons] at hcounts
    exact hcounts.decrement
  attemptCounts := h.attemptCounts
  loopGuardAttemptCounts := h.loopGuardAttemptCounts
  retryCount := h.retryCount
  loopAbortCount := by
    rw [MetricsAccumulator.removeRequest, h.loopAbortCount, Multiset.countP_cons, add_right_comm,
      uncountFlag_eq]
  upstreamErrorCounts := h.upstreamErrorCounts
  firstTokenLatencyMs := h.firstTokenLatencyMs
  totalLatencyMs := h.totalLatencyMs.removeSome
  heartbeatModeCounts := h.heartbeatModeCounts.decrementSome

/-- One attempt more. -/
theorem addAttempt (h : Accounts metrics requests attempts)
    (observation : AttemptMetricObservation) (hrequests : requests.card ≤ rowLimit)
    (hattempts : attempts.card < rowLimit) :
    Accounts (metrics.addAttempt observation) requests (observation ::ₘ attempts) where
  requestCounts := h.requestCounts
  requestTerminalCounts := h.requestTerminalCounts
  attemptCounts := by
    rw [Multiset.map_cons]
    exact h.attemptCounts.increment _ (by rw [Multiset.card_map]; exact lt_u64Max hattempts)
  loopGuardAttemptCounts := h.loopGuardAttemptCounts.incrementSome observation (lt_u64Max hattempts)
  retryCount := by
    have hretry : metrics.retryCount < u64Max := by
      rw [h.retryCount]
      exact (Multiset.countP_le_card _ _).trans_lt (lt_u64Max hattempts)
    rw [MetricsAccumulator.addAttempt, countFlag_eq _ hretry, Multiset.countP_cons, h.retryCount]
  loopAbortCount := by
    rw [MetricsAccumulator.addAttempt, countFlag_eq _ (h.loopAbortCount_lt (by omega)),
      Multiset.countP_cons, h.loopAbortCount, add_assoc]
  upstreamErrorCounts := h.upstreamErrorCounts.incrementSome observation (lt_u64Max hattempts)
  firstTokenLatencyMs := h.firstTokenLatencyMs.addSome observation (lt_u64Max hattempts)
    (toNat_le_u64Max _) (sum_le_u128Max hattempts)
  totalLatencyMs := h.totalLatencyMs
  heartbeatModeCounts := h.heartbeatModeCounts

/-- One attempt less. -/
theorem removeAttempt {observation : AttemptMetricObservation}
    (h : Accounts metrics requests (observation ::ₘ attempts)) :
    Accounts (metrics.removeAttempt observation) requests attempts where
  requestCounts := h.requestCounts
  requestTerminalCounts := h.requestTerminalCounts
  attemptCounts := by
    have hcounts := h.attemptCounts
    rw [Multiset.map_cons] at hcounts
    exact hcounts.decrement
  loopGuardAttemptCounts := h.loopGuardAttemptCounts.decrementSome
  retryCount := by
    rw [MetricsAccumulator.removeAttempt, h.retryCount, Multiset.countP_cons, uncountFlag_eq]
  loopAbortCount := by
    rw [MetricsAccumulator.removeAttempt, h.loopAbortCount, Multiset.countP_cons, ← add_assoc,
      uncountFlag_eq]
  upstreamErrorCounts := h.upstreamErrorCounts.decrementSome
  firstTokenLatencyMs := h.firstTokenLatencyMs.removeSome
  totalLatencyMs := h.totalLatencyMs
  heartbeatModeCounts := h.heartbeatModeCounts

/-- Requests removed one after the other. -/
theorem removeRequests {observations : List RequestMetricObservation}
    (h : Accounts metrics ((observations : Multiset RequestMetricObservation) + requests) attempts) :
    Accounts (observations.foldl (fun metrics o => metrics.removeRequest o) metrics)
      requests attempts := by
  induction observations generalizing metrics with
  | nil => simpa using h
  | cons observation observations ih =>
    rw [← Multiset.cons_coe, Multiset.cons_add] at h
    exact ih h.removeRequest

/-- Attempts removed one after the other. -/
theorem removeAttempts {observations : List AttemptMetricObservation}
    (h : Accounts metrics requests ((observations : Multiset AttemptMetricObservation) + attempts)) :
    Accounts (observations.foldl (fun metrics o => metrics.removeAttempt o) metrics)
      requests attempts := by
  induction observations generalizing metrics with
  | nil => simpa using h
  | cons observation observations ih =>
    rw [← Multiset.cons_coe, Multiset.cons_add] at h
    exact ih h.removeAttempt

/-- Requests added one after the other. -/
theorem addRequests (h : Accounts metrics requests attempts)
    (observations : List RequestMetricObservation)
    (hrequests : observations.length + requests.card ≤ rowLimit)
    (hattempts : attempts.card ≤ rowLimit) :
    Accounts (observations.foldl (fun metrics o => metrics.addRequest o) metrics)
      ((observations : Multiset RequestMetricObservation) + requests) attempts := by
  induction observations generalizing metrics requests with
  | nil => simpa using h
  | cons observation observations ih =>
    rw [List.length_cons] at hrequests
    rw [← Multiset.cons_coe, Multiset.cons_add, ← Multiset.add_cons]
    exact ih (h.addRequest observation (by omega) hattempts) (by rw [Multiset.card_cons]; omega)

/-- Attempts added one after the other. -/
theorem addAttempts (h : Accounts metrics requests attempts)
    (observations : List AttemptMetricObservation) (hrequests : requests.card ≤ rowLimit)
    (hattempts : observations.length + attempts.card ≤ rowLimit) :
    Accounts (observations.foldl (fun metrics o => metrics.addAttempt o) metrics)
      requests ((observations : Multiset AttemptMetricObservation) + attempts) := by
  induction observations generalizing metrics attempts with
  | nil => simpa using h
  | cons observation observations ih =>
    rw [List.length_cons] at hattempts
    rw [← Multiset.cons_coe, Multiset.cons_add, ← Multiset.add_cons]
    exact ih (h.addAttempt observation hrequests (by omega)) (by rw [Multiset.card_cons]; omega)

end Accounts

end LlmGuardProxy.Observability
