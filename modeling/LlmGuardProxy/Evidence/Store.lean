import LlmGuardProxy.Evidence.Redaction
import LlmGuardProxy.Machinery.Sql
import LlmGuardProxy.Observability.Store

/-!
# Evidence/Store — the tables and the writes of the evidence store

`evidence/store.rs`: groups, attempts, chunks and raw artifacts with their keys, cascades and counting
triggers, the statements of `record_group` and `record_shadow_attempt`, and the retention after them.
Columns that no function reads back (the digest and the variant of an artifact, the ids of chunks) are
left out, and so is the opening of the database file.
-/

namespace LlmGuardProxy.Evidence

open Machinery SqlScript
open Observability (MetadataCodec RawPayloadChunk optionalLen addLens rowLimit u64Max
  nonnegativeI64ToU64 defaultPruneToRecords statusI64 readI64)

/-- `EvidenceError`. -/
inductive EvidenceError where
  | config
  | homeDirectoryUnavailable
  | createDirectory
  | inspectPath
  | unsafeStoragePath (reason : String)
  | restrictPermissions
  | sqlite (action : String)
  | unsupportedSchemaVersion (version : Int64)
  | serializeMetadata (field : String)
  | lockPoisoned
  | emptyIdentifier (kind : String)
  | integerOutOfRange (field : String)

/-! ## Records -/

/-- `EvidenceAttemptRole`. -/
inductive EvidenceAttemptRole where
  | primary
  | fallback
  | shadowContinued

/-- `EvidenceAttemptRole::as_str`. -/
def EvidenceAttemptRole.asStr : EvidenceAttemptRole → String
  | .primary => "primary"
  | .fallback => "fallback"
  | .shadowContinued => "shadow_continued"

/-- `EvidenceAttemptStatus`. -/
inductive EvidenceAttemptStatus where
  | accepted
  | rejected
  | failed
  | aborted
  | skipped
  | shadowTimeout

/-- `EvidenceAttemptStatus::as_str`. -/
def EvidenceAttemptStatus.asStr : EvidenceAttemptStatus → String
  | .accepted => "accepted"
  | .rejected => "rejected"
  | .failed => "failed"
  | .aborted => "aborted"
  | .skipped => "skipped"
  | .shadowTimeout => "shadow_timeout"

/-- `ShadowSkipReason`. -/
inductive ShadowSkipReason where
  | disabled
  | perRequestLimit
  | globalLimit
  | continuationUnavailable

/-- `ShadowSkipReason::as_str`. -/
def ShadowSkipReason.asStr : ShadowSkipReason → String
  | .disabled => "disabled"
  | .perRequestLimit => "per_request_limit"
  | .globalLimit => "global_limit"
  | .continuationUnavailable => "continuation_unavailable"

/-- `EvidenceRawArtifactKind`. -/
inductive EvidenceRawArtifactKind where
  | input
  | output
  | reasoning
  | toolCalls
deriving DecidableEq

/-- `EvidenceRawArtifactKind::as_str`. -/
def EvidenceRawArtifactKind.asStr : EvidenceRawArtifactKind → String
  | .input => "input"
  | .output => "output"
  | .reasoning => "reasoning"
  | .toolCalls => "tool_calls"

/-- `EvidenceGroupRecord`. -/
structure EvidenceGroupRecord where
  groupId : String
  requestId : String
  startedAtUnixMs : UInt64
  finishedAtUnixMs : Option UInt64
  modelId : Option Text
  status : String
  requestMetadata : Metadata
  responseMetadata : Metadata

/-- `EvidenceAttemptRecord`. -/
structure EvidenceAttemptRecord where
  attemptId : String
  groupId : String
  requestId : String
  attemptNumber : UInt32
  role : EvidenceAttemptRole
  shownToDownstream : Bool
  startedAtUnixMs : UInt64
  finishedAtUnixMs : Option UInt64
  upstreamProfile : Option Text
  modelId : Option Text
  thinkingMode : Option Text
  thinkingBudgetTokens : Option UInt32
  thinkingMaxTokens : Option UInt32
  detectorFeatures : Metadata
  status : EvidenceAttemptStatus
  httpStatus : Option UInt16
  errorReason : Option Text
  retryReason : Option Text
  abortReason : Option Text
  shadowSkipReason : Option ShadowSkipReason
  requestMetadata : Metadata
  responseMetadata : Metadata
  rawPayloads : Observability.RawPayloads

/-- `EvidencePairedComparisonConfig`. -/
structure EvidencePairedComparisonConfig where
  includeRawInput : Bool
  includeRawOutput : Bool
  includeRawReasoning : Bool
  maxRawInputBytes : UInt64
  maxRawOutputBytes : UInt64
  maxRawReasoningBytes : UInt64
  maxRetentionRecords : UInt64
  maxRetentionBytes : UInt64
  retentionDays : UInt64
deriving DecidableEq

/-- `EvidenceConfig`. -/
structure EvidenceConfig where
  enabled : Bool
  includeRawPayloads : Bool
  includeRequestHeaders : Bool
  maxBytes : UInt64
  pruneToBytes : UInt64
  maxRecords : UInt64
  pruneToRecords : Option UInt64
  pairedComparison : EvidencePairedComparisonConfig
deriving DecidableEq

/-- `EvidenceConfig::effective_prune_to_records`. -/
def EvidenceConfig.effectivePruneToRecords (config : EvidenceConfig) : ℕ :=
  (config.pruneToRecords.map UInt64.toNat).getD (defaultPruneToRecords config.maxRecords.toNat)

/-! ## Rows -/

/-- `to_sqlite_i64`. -/
def toSqliteI64 (value : ℕ) (field : String) : Except EvidenceError Int64 :=
  if value < 2 ^ 63 then .ok (Int64.ofNat value) else .error (.integerOutOfRange field)

/-- `optional_to_sqlite_i64`. -/
def optionalToSqliteI64 (value : Option UInt64) (field : String) :
    Except EvidenceError (Option Int64) :=
  match value with
  | some value => (toSqliteI64 value.toNat field).map some
  | none => .ok none

/-- `usize_to_i64_saturating`. -/
def usizeToI64Saturating (value : ℕ) : Int64 := Int64.ofNat (min value (2 ^ 63 - 1))

/-- `bool_to_sqlite_i64`. -/
def boolToSqliteI64 (value : Bool) : Int64 := if value then 1 else 0

/-- `require_nonempty`. -/
def requireNonempty (value kind : String) : Except EvidenceError Unit :=
  if value.isEmpty then .error (.emptyIdentifier kind) else .ok ()

/-- `metadata_json`. -/
def metadataJson (codec : MetadataCodec) (metadata : Metadata) (field : String) :
    Except EvidenceError String :=
  match codec.toString metadata with
  | some text => .ok text
  | none => .error (.serializeMetadata field)

/-- A row of `evidence_groups`, as `PreparedGroup` has it. -/
structure PreparedGroup where
  groupId : String
  requestId : String
  startedAtUnixMs : Int64
  finishedAtUnixMs : Option Int64
  modelId : Option Text
  status : String
  requestMetadataJson : String
  responseMetadataJson : String
  estimatedBytes : Int64

/-- `estimate_group_bytes`. -/
def estimateGroupBytes (record : EvidenceGroupRecord)
    (requestMetadataJson responseMetadataJson : String) : Except EvidenceError Int64 :=
  toSqliteI64 (addLens [record.groupId.utf8ByteSize, record.requestId.utf8ByteSize,
    optionalLen record.modelId, record.status.utf8ByteSize, requestMetadataJson.utf8ByteSize,
    responseMetadataJson.utf8ByteSize]) "estimated_bytes"

/-- `PreparedGroup::from_record`. -/
def PreparedGroup.fromRecord (codec : MetadataCodec) (record : EvidenceGroupRecord)
    (includeHeaders : Bool) : Except EvidenceError PreparedGroup := do
  requireNonempty record.groupId "group"
  let requestMetadataJson ← metadataJson codec
    (evidenceMetadataMap record.requestMetadata includeHeaders) "evidence group request"
  let responseMetadataJson ← metadataJson codec
    (evidenceMetadataMap record.responseMetadata includeHeaders) "evidence group response"
  let estimatedBytes ← estimateGroupBytes record requestMetadataJson responseMetadataJson
  let startedAtUnixMs ← toSqliteI64 record.startedAtUnixMs.toNat "started_at_unix_ms"
  let finishedAtUnixMs ← optionalToSqliteI64 record.finishedAtUnixMs "finished_at_unix_ms"
  return {
    groupId := record.groupId
    requestId := record.requestId
    startedAtUnixMs := startedAtUnixMs
    finishedAtUnixMs := finishedAtUnixMs
    modelId := scrubOptionalText record.modelId
    status := record.status
    requestMetadataJson := requestMetadataJson
    responseMetadataJson := responseMetadataJson
    estimatedBytes := estimatedBytes }

/-- `RawCaptureFieldPolicy`. -/
structure RawCaptureFieldPolicy where
  enabled : Bool
  maxBytes : Option UInt64

/-- `RawCaptureFieldPolicy::DISABLED`. -/
def RawCaptureFieldPolicy.disabled : RawCaptureFieldPolicy := ⟨false, none⟩

/-- `RawCaptureFieldPolicy::UNBOUNDED`. -/
def RawCaptureFieldPolicy.unbounded : RawCaptureFieldPolicy := ⟨true, none⟩

/-- `RawCaptureFieldPolicy::bounded`, when the field is included. -/
def RawCaptureFieldPolicy.boundedIf (included : Bool) (maxBytes : UInt64) : RawCaptureFieldPolicy :=
  if included then ⟨true, some maxBytes⟩ else .disabled

/-- `RawCapturePolicy`. -/
structure RawCapturePolicy where
  input : RawCaptureFieldPolicy
  output : RawCaptureFieldPolicy
  reasoning : RawCaptureFieldPolicy
  toolCalls : RawCaptureFieldPolicy
  includeChunks : Bool

/-- `is_paired_comparison_attempt`. -/
def isPairedComparisonAttempt (record : EvidenceAttemptRecord) : Bool :=
  ((record.requestMetadata.lookup "shadow_paired_comparison").or
    (record.responseMetadata.lookup "shadow_paired_comparison")) == some "true"

/-- `RawCapturePolicy::from_record`. -/
def RawCapturePolicy.fromRecord (record : EvidenceAttemptRecord) (config : EvidenceConfig) :
    RawCapturePolicy :=
  if config.includeRawPayloads then ⟨.unbounded, .unbounded, .unbounded, .unbounded, true⟩
  else if !isPairedComparisonAttempt record then ⟨.disabled, .disabled, .disabled, .disabled, false⟩
  else
    let paired := config.pairedComparison
    { input := .boundedIf paired.includeRawInput paired.maxRawInputBytes
      output := .boundedIf paired.includeRawOutput paired.maxRawOutputBytes
      reasoning := .boundedIf paired.includeRawReasoning paired.maxRawReasoningBytes
      toolCalls := .boundedIf paired.includeRawOutput paired.maxRawOutputBytes
      includeChunks := false }

/-- The loop of `truncate_utf8`: whole characters, as long as there is room. -/
def truncateLoop : ℕ → Text → Text
  | _, [] => []
  | room, c :: t => if c.utf8Size ≤ room then c :: truncateLoop (room - c.utf8Size) t else []

/-- `truncate_utf8`. -/
def truncateUtf8 (value : Text) (maxBytes : Option UInt64) : Text × Bool :=
  match maxBytes with
  | none => (value, false)
  | some maxBytes =>
      if byteLen value ≤ maxBytes.toNat then (value, false)
      else (truncateLoop maxBytes.toNat value, true)

/-- `PreparedRawArtifact`. -/
structure PreparedRawArtifact where
  kind : EvidenceRawArtifactKind
  content : Text
  bytesOriginal : Int64
  bytesStored : Int64
  truncated : Int64
  redacted : Int64

/-- `prepare_raw_artifact`. -/
def prepareRawArtifact (original sanitized : Option Text) (kind : EvidenceRawArtifactKind)
    (policy : RawCaptureFieldPolicy) : Option (Text × PreparedRawArtifact) :=
  if !policy.enabled then none
  else original.map fun original =>
    let sanitized := sanitized.getD original
    let (content, truncated) := truncateUtf8 sanitized policy.maxBytes
    (content, {
      kind := kind
      content := content
      bytesOriginal := usizeToI64Saturating (byteLen original)
      bytesStored := usizeToI64Saturating (byteLen content)
      truncated := boolToSqliteI64 truncated
      redacted := boolToSqliteI64 (original ≠ sanitized) })

/-- `prepare_raw_payloads`: the payloads and the artifacts. -/
def prepareRawPayloads (raw : Observability.RawPayloads) (policy : RawCapturePolicy) :
    Observability.RawPayloads × List PreparedRawArtifact :=
  let sanitized := sanitizeRawPayloads raw true
  let input := prepareRawArtifact raw.input sanitized.input .input policy.input
  let output := prepareRawArtifact raw.output sanitized.output .output policy.output
  let reasoning := prepareRawArtifact raw.reasoning sanitized.reasoning .reasoning policy.reasoning
  let toolCalls := prepareRawArtifact raw.toolCalls sanitized.toolCalls .toolCalls policy.toolCalls
  ({ input := input.map (·.1)
     output := output.map (·.1)
     reasoning := reasoning.map (·.1)
     toolCalls := toolCalls.map (·.1)
     chunks := if policy.includeChunks then sanitized.chunks else [] },
    (input.toList ++ output.toList ++ reasoning.toList ++ toolCalls.toList).map (·.2))

/-- A row of `evidence_attempts`. -/
structure AttemptRow where
  attemptId : String
  groupId : String
  requestId : String
  attemptNumber : Int64
  role : String
  shownToDownstream : Int64
  startedAtUnixMs : Int64
  finishedAtUnixMs : Option Int64
  upstreamProfile : Option Text
  modelId : Option Text
  thinkingMode : Option Text
  thinkingBudgetTokens : Option Int64
  thinkingMaxTokens : Option Int64
  detectorFeaturesJson : String
  status : String
  httpStatus : Option Int64
  errorReason : Option Text
  retryReason : Option Text
  abortReason : Option Text
  shadowSkipReason : Option String
  requestMetadataJson : String
  responseMetadataJson : String
  rawInput : Option Text
  rawOutput : Option Text
  rawReasoning : Option Text
  rawToolCalls : Option Text
  estimatedBytes : Int64

/-- `PreparedAttempt`: the row of an attempt, its payloads and its artifacts. -/
structure PreparedAttempt extends AttemptRow where
  rawPayloads : Observability.RawPayloads
  rawArtifacts : List PreparedRawArtifact

/-- `estimate_attempt_bytes`. -/
def estimateAttemptBytes (record : EvidenceAttemptRecord)
    (requestMetadataJson responseMetadataJson detectorFeaturesJson : String)
    (raw : Observability.RawPayloads) : Except EvidenceError Int64 :=
  toSqliteI64 (addLens ([record.attemptId.utf8ByteSize, record.groupId.utf8ByteSize,
    record.requestId.utf8ByteSize, optionalLen record.upstreamProfile, optionalLen record.modelId,
    optionalLen record.thinkingMode, requestMetadataJson.utf8ByteSize,
    responseMetadataJson.utf8ByteSize, detectorFeaturesJson.utf8ByteSize] ++
      (rawChunks raw).map fun chunk => byteLen chunk.text)) "estimated_bytes"

/-- `i64::from` on a number of tokens. -/
def tokensI64 (tokens : Option UInt32) : Option Int64 := tokens.map fun t => Int64.ofNat t.toNat

/-- `PreparedAttempt::from_record`. -/
def PreparedAttempt.fromRecord (codec : MetadataCodec) (record : EvidenceAttemptRecord)
    (config : EvidenceConfig) : Except EvidenceError PreparedAttempt := do
  requireNonempty record.groupId "group"
  let requestMetadataJson ← metadataJson codec
    (evidenceMetadataMap record.requestMetadata config.includeRequestHeaders)
    "evidence attempt request"
  let responseMetadataJson ← metadataJson codec
    (evidenceMetadataMap record.responseMetadata config.includeRequestHeaders)
    "evidence attempt response"
  let detectorFeaturesJson ← metadataJson codec
    (evidenceMetadataMap record.detectorFeatures false) "evidence detector"
  let raw := prepareRawPayloads record.rawPayloads (.fromRecord record config)
  let estimatedBytes ← estimateAttemptBytes record requestMetadataJson responseMetadataJson
    detectorFeaturesJson raw.1
  let startedAtUnixMs ← toSqliteI64 record.startedAtUnixMs.toNat "started_at_unix_ms"
  let finishedAtUnixMs ← optionalToSqliteI64 record.finishedAtUnixMs "finished_at_unix_ms"
  return {
    attemptId := record.attemptId
    groupId := record.groupId
    requestId := record.requestId
    attemptNumber := Int64.ofNat record.attemptNumber.toNat
    role := record.role.asStr
    shownToDownstream := boolToSqliteI64 record.shownToDownstream
    startedAtUnixMs := startedAtUnixMs
    finishedAtUnixMs := finishedAtUnixMs
    upstreamProfile := scrubOptionalText record.upstreamProfile
    modelId := scrubOptionalText record.modelId
    thinkingMode := scrubOptionalText record.thinkingMode
    thinkingBudgetTokens := tokensI64 record.thinkingBudgetTokens
    thinkingMaxTokens := tokensI64 record.thinkingMaxTokens
    detectorFeaturesJson := detectorFeaturesJson
    status := record.status.asStr
    httpStatus := statusI64 record.httpStatus
    errorReason := scrubOptionalText record.errorReason
    retryReason := scrubOptionalText record.retryReason
    abortReason := scrubOptionalText record.abortReason
    shadowSkipReason := record.shadowSkipReason.map ShadowSkipReason.asStr
    requestMetadataJson := requestMetadataJson
    responseMetadataJson := responseMetadataJson
    rawInput := raw.1.input
    rawOutput := raw.1.output
    rawReasoning := raw.1.reasoning
    rawToolCalls := raw.1.toolCalls
    estimatedBytes := estimatedBytes
    rawPayloads := raw.1
    rawArtifacts := raw.2 }

/-! ## Tables -/

/-- A row of `evidence_chunks`. -/
structure ChunkRow where
  attemptId : String
  channel : String
  sequenceNumber : Int64
  chunkText : Text
  chunkBytes : Int64

/-- A row of `evidence_raw_artifacts`. -/
structure ArtifactRow where
  artifactId : ℕ
  attemptId : String
  groupId : String
  requestId : String
  role : String
  artifactKind : String
  createdAtUnixMs : Int64
  contentText : Option Text
  bytesOriginal : Int64
  bytesStored : Int64
  truncated : Int64
  redacted : Int64
  prunedAtUnixMs : Option Int64

/-- `bytes_stored`, as it is read. -/
def ArtifactRow.storedBytes (row : ArtifactRow) : ℕ := (nonnegativeI64ToU64 row.bytesStored).toNat

/-- Two groups have the same primary key. -/
def sameGroup (a b : PreparedGroup) : Bool := a.groupId == b.groupId

/-- Two attempts have the same primary key. -/
def sameAttempt (a b : AttemptRow) : Bool := a.attemptId == b.attemptId

/-- Two artifacts have the same primary key, or are of one kind and one attempt. -/
def sameArtifact (a b : ArtifactRow) : Bool :=
  a.artifactId == b.artifactId || (a.attemptId == b.attemptId && a.artifactKind == b.artifactKind)

theorem sameGroup_comm (a b : PreparedGroup) : sameGroup a b = sameGroup b a := BEq.comm

theorem sameGroup_trans (a b c : PreparedGroup) (h : sameGroup a b = true) :
    sameGroup a c = sameGroup b c := by
  unfold sameGroup at h ⊢
  rw [beq_iff_eq.mp h]

theorem sameAttempt_comm (a b : AttemptRow) : sameAttempt a b = sameAttempt b a := BEq.comm

theorem sameAttempt_trans (a b c : AttemptRow) (h : sameAttempt a b = true) :
    sameAttempt a c = sameAttempt b c := by
  unfold sameAttempt at h ⊢
  rw [beq_iff_eq.mp h]

/-- The size of the largest database file. -/
def fileLimit : ℕ := 2 ^ 48

/-- The artifacts, with contents that fit into a database file. -/
structure Artifacts where
  table : Table ArtifactRow sameArtifact rowLimit
  bytes_le : (table.rows.map ArtifactRow.storedBytes).sum ≤ fileLimit

namespace Artifacts

/-- `DELETE`. -/
def delete (artifacts : Artifacts) (p : ArtifactRow → Bool) : Artifacts where
  table := artifacts.table.delete p
  bytes_le := by
    have hsum := Table.sum_filter_add ArtifactRow.storedBytes p artifacts.table.rows
    have hle := artifacts.bytes_le
    simp only [Table.delete]
    omega

/-- `INSERT`, when there is room in the file. -/
def insert (artifacts : Artifacts) (row : ArtifactRow) : Option Artifacts :=
  (artifacts.table.insert row).bind fun table =>
    if h : (table.rows.map ArtifactRow.storedBytes).sum ≤ fileLimit then some ⟨table, h⟩ else none

/-- The columns that the pruning of a content sets, for one artifact that has a content. -/
def cleared (artifactId : ℕ) (prunedAt : Int64) (row : ArtifactRow) : ArtifactRow :=
  if row.artifactId = artifactId ∧ row.contentText ≠ none then
    { row with contentText := none, bytesStored := 0, prunedAtUnixMs := some prunedAt }
  else row

theorem sameArtifact_cleared (artifactId : ℕ) (prunedAt : Int64) (a b : ArtifactRow) :
    sameArtifact (cleared artifactId prunedAt a) (cleared artifactId prunedAt b) =
      sameArtifact a b := by
  have hkeys : ∀ row, (cleared artifactId prunedAt row).artifactId = row.artifactId ∧
      (cleared artifactId prunedAt row).attemptId = row.attemptId ∧
      (cleared artifactId prunedAt row).artifactKind = row.artifactKind := by
    intro row
    unfold cleared
    split <;> exact ⟨rfl, rfl, rfl⟩
  unfold sameArtifact
  rw [(hkeys a).1, (hkeys a).2.1, (hkeys a).2.2, (hkeys b).1, (hkeys b).2.1, (hkeys b).2.2]

theorem storedBytes_cleared_le (artifactId : ℕ) (prunedAt : Int64) (row : ArtifactRow) :
    (cleared artifactId prunedAt row).storedBytes ≤ row.storedBytes := by
  unfold cleared
  split
  · exact Nat.zero_le _
  · exact le_rfl

/-- `UPDATE … SET content_text = NULL, bytes_stored = 0` for one artifact. -/
def clear (artifacts : Artifacts) (artifactId : ℕ) (prunedAt : Int64) : Artifacts where
  table := artifacts.table.modify (cleared artifactId prunedAt)
    (sameArtifact_cleared artifactId prunedAt)
  bytes_le := by
    refine le_trans ?_ artifacts.bytes_le
    simp only [Table.modify, List.map_map]
    exact List.sum_le_sum fun row _ => storedBytes_cleared_le artifactId prunedAt row

end Artifacts

/-- The row of `evidence_pruning_stats`, with the counters that the triggers keep. -/
structure PruningStatsRow where
  pruneEvents : ℤ := 0
  prunedGroups : ℤ := 0
  prunedAttempts : ℤ := 0
  prunedChunks : ℤ := 0
  lastPrunedAtUnixMs : Option Int64 := none
  groupCount : ℤ := 0
  attemptCount : ℤ := 0
  chunkCount : ℤ := 0
  logicalBytes : ℤ := 0

/-- The database of the store, with the last id that an artifact was given. -/
structure Database where
  groups : Table PreparedGroup sameGroup rowLimit := .empty
  attempts : Table AttemptRow sameAttempt rowLimit := .empty
  chunks : List ChunkRow := []
  artifacts : Artifacts := ⟨.empty, Nat.zero_le _⟩
  lastArtifactId : ℕ := 0
  stats : PruningStatsRow := {}

namespace PruningStatsRow

variable (stats : PruningStatsRow)

/-- A number of bytes more, or fewer. -/
def charge (bytes : ℤ) : PruningStatsRow := { stats with logicalBytes := stats.logicalBytes + bytes }

/-- `evidence_groups_retention_count_insert`. -/
def groupInserted (row : PreparedGroup) : PruningStatsRow :=
  { stats with groupCount := stats.groupCount + 1 }.charge row.estimatedBytes.toInt

/-- `evidence_groups_retention_count_delete`. -/
def groupDeleted (row : PreparedGroup) : PruningStatsRow :=
  { stats with groupCount := stats.groupCount - 1 }.charge (-row.estimatedBytes.toInt)

/-- `evidence_groups_retention_count_update`. -/
def groupUpdated (old row : PreparedGroup) : PruningStatsRow :=
  stats.charge (-old.estimatedBytes.toInt + row.estimatedBytes.toInt)

/-- `evidence_attempts_retention_count_insert`. -/
def attemptInserted (row : AttemptRow) : PruningStatsRow :=
  { stats with attemptCount := stats.attemptCount + 1 }.charge row.estimatedBytes.toInt

/-- `evidence_attempts_retention_count_delete`. -/
def attemptDeleted (row : AttemptRow) : PruningStatsRow :=
  { stats with attemptCount := stats.attemptCount - 1 }.charge (-row.estimatedBytes.toInt)

/-- `evidence_attempts_retention_count_update`. -/
def attemptUpdated (old row : AttemptRow) : PruningStatsRow :=
  stats.charge (-old.estimatedBytes.toInt + row.estimatedBytes.toInt)

/-- `evidence_chunks_retention_count_insert`. -/
def chunkInserted (row : ChunkRow) : PruningStatsRow :=
  { stats with chunkCount := stats.chunkCount + 1 }.charge row.chunkBytes.toInt

/-- `evidence_chunks_retention_count_delete`. -/
def chunkDeleted (row : ChunkRow) : PruningStatsRow :=
  { stats with chunkCount := stats.chunkCount - 1 }.charge (-row.chunkBytes.toInt)

/-- `evidence_raw_artifacts_retention_count_insert`. -/
def artifactInserted (row : ArtifactRow) : PruningStatsRow := stats.charge row.bytesStored.toInt

/-- `evidence_raw_artifacts_retention_count_delete`. -/
def artifactDeleted (row : ArtifactRow) : PruningStatsRow := stats.charge (-row.bytesStored.toInt)

/-- `evidence_raw_artifacts_retention_count_update`. -/
def artifactUpdated (old row : ArtifactRow) : PruningStatsRow :=
  stats.charge (-old.bytesStored.toInt + row.bytesStored.toInt)

end PruningStatsRow

/-- `null_attempt_raw_column`: the column of a kind is emptied. -/
def AttemptRow.withoutColumn (row : AttemptRow) (kind : String) : AttemptRow :=
  if kind = "input" then { row with rawInput := none }
  else if kind = "output" then { row with rawOutput := none }
  else if kind = "reasoning" then { row with rawReasoning := none }
  else if kind = "tool_calls" then { row with rawToolCalls := none }
  else row

/-- The column of a kind is emptied in the row of one attempt. -/
def AttemptRow.emptied (attemptId kind : String) (row : AttemptRow) : AttemptRow :=
  if row.attemptId = attemptId then row.withoutColumn kind else row

theorem AttemptRow.attemptId_emptied (attemptId kind : String) (row : AttemptRow) :
    (row.emptied attemptId kind).attemptId = row.attemptId := by
  unfold AttemptRow.emptied AttemptRow.withoutColumn
  split_ifs <;> rfl

theorem sameAttempt_emptied (attemptId kind : String) (a b : AttemptRow) :
    sameAttempt (a.emptied attemptId kind) (b.emptied attemptId kind) = sameAttempt a b := by
  unfold sameAttempt
  rw [AttemptRow.attemptId_emptied, AttemptRow.attemptId_emptied]

namespace Database

variable (db : Database)

/-- The statement of `insert_group_in_transaction`: an upsert, with its triggers. -/
def upsertGroup (row : PreparedGroup) : Option Database :=
  (db.groups.upsert sameGroup_comm sameGroup_trans row).map fun groups =>
    { db with
      groups := groups
      stats := match db.groups.rows.find? (sameGroup row) with
        | some old => db.stats.groupUpdated old row
        | none => db.stats.groupInserted row }

/-- The statement of `insert_attempt_in_transaction`: an upsert under the foreign key. -/
def upsertAttempt (row : AttemptRow) : Option Database :=
  if db.groups.rows.any (·.groupId == row.groupId) then
    (db.attempts.upsert sameAttempt_comm sameAttempt_trans row).map fun attempts =>
      { db with
        attempts := attempts
        stats := match db.attempts.rows.find? (sameAttempt row) with
          | some old => db.stats.attemptUpdated old row
          | none => db.stats.attemptInserted row }
  else none

/-- `DELETE FROM evidence_chunks`. -/
def deleteChunks (p : ChunkRow → Bool) : Database :=
  { db with
    chunks := db.chunks.filter fun row => !p row
    stats := (db.chunks.filter p).foldl PruningStatsRow.chunkDeleted db.stats }

/-- `INSERT INTO evidence_chunks`, under the foreign key. -/
def insertChunk (row : ChunkRow) : Option Database :=
  if db.attempts.rows.any (·.attemptId == row.attemptId) then
    some { db with chunks := db.chunks ++ [row], stats := db.stats.chunkInserted row }
  else none

/-- `DELETE FROM evidence_raw_artifacts`. -/
def deleteArtifacts (p : ArtifactRow → Bool) : Database :=
  { db with
    artifacts := db.artifacts.delete p
    stats := (db.artifacts.table.rows.filter p).foldl PruningStatsRow.artifactDeleted db.stats }

/-- `INSERT INTO evidence_raw_artifacts`, under the foreign key; the id is the next one. -/
def insertArtifact (row : ℕ → ArtifactRow) : Option Database :=
  let row := row (db.lastArtifactId + 1)
  if db.attempts.rows.any (·.attemptId == row.attemptId) then
    (db.artifacts.insert row).map fun artifacts =>
      { db with
        artifacts := artifacts
        lastArtifactId := db.lastArtifactId + 1
        stats := db.stats.artifactInserted row }
  else none

/-- The statement that prunes the content of an artifact, and the number of rows it updates. -/
def clearArtifact (artifactId : ℕ) (prunedAt : Int64) : ℕ × Database :=
  let updated := db.artifacts.table.rows.filter fun row =>
    row.artifactId = artifactId ∧ row.contentText ≠ none
  (updated.length, { db with
    artifacts := db.artifacts.clear artifactId prunedAt
    stats := updated.foldl (fun stats old =>
      stats.artifactUpdated old (Artifacts.cleared artifactId prunedAt old)) db.stats })

/-- The statement of `null_attempt_raw_column`; no trigger looks at these columns. -/
def nullRawColumn (attemptId kind : String) : Database :=
  { db with
    attempts := db.attempts.modify (AttemptRow.emptied attemptId kind)
      (sameAttempt_emptied attemptId kind) }

/-- The attempts of a group. -/
def ofGroup (groupId attemptId : String) : Bool :=
  db.attempts.rows.any fun row => row.groupId == groupId && row.attemptId == attemptId

/-- The statement that prunes a group: its attempts go with it, and with them their chunks and
artifacts. -/
def deleteGroup (groupId : String) : Database :=
  let db := (db.deleteChunks fun row => db.ofGroup groupId row.attemptId).deleteArtifacts
    fun row => db.ofGroup groupId row.attemptId
  { db with
    groups := db.groups.delete (·.groupId == groupId)
    attempts := db.attempts.delete (·.groupId == groupId)
    stats := (db.groups.rows.filter (·.groupId == groupId)).foldl PruningStatsRow.groupDeleted
      ((db.attempts.rows.filter (·.groupId == groupId)).foldl PruningStatsRow.attemptDeleted
        db.stats) }

/-- The statement of `record_pruning_outcome`. -/
def countPruning (groups attempts chunks : ℕ) (now : Int64) : Database :=
  { db with stats := { db.stats with
      pruneEvents := db.stats.pruneEvents + 1
      prunedGroups := db.stats.prunedGroups + groups
      prunedAttempts := db.stats.prunedAttempts + attempts
      prunedChunks := db.stats.prunedChunks + chunks
      lastPrunedAtUnixMs := some now } }

/-- `ORDER BY started_at_unix_ms ASC, group_id ASC LIMIT 1`. -/
def oldestGroup : Option PreparedGroup :=
  (db.groups.rows.insertionSort fun a b => a.startedAtUnixMs < b.startedAtUnixMs ∨
    (a.startedAtUnixMs = b.startedAtUnixMs ∧ a.groupId ≤ b.groupId)).head?

end Database

/-! ## Insertion -/

/-- The computations of the store's connection. -/
abbrev Script := SqlScript Database EvidenceError

/-- A statement that writes, under the name of its action. -/
def write (action : String) (run : Database → Option Database) : Script Unit :=
  execute (.sqlite action) run

/-- A statement that reads, under the name of its action. -/
def read {α : Type} (action : String) (run : Database → Option α) : Script α :=
  query (.sqlite action) run

/-- `insert_group_in_transaction`. -/
def insertGroupInTransaction (group : PreparedGroup) : Script Unit :=
  write "write evidence group row" (·.upsertGroup group)

/-- A turn of the loop of `insert_raw_chunks_in_transaction`. -/
def insertRawChunk (attemptId : String) (chunk : RawPayloadChunk × ℕ) : Script Unit := do
  let sequenceNumber ← Fallible.ofExcept (toSqliteI64 chunk.2 "sequence_number")
  let chunkBytes ← Fallible.ofExcept (toSqliteI64 (byteLen chunk.1.text) "chunk_bytes")
  write "write evidence raw chunk"
    (·.insertChunk ⟨attemptId, chunk.1.channel, sequenceNumber, chunk.1.text, chunkBytes⟩)

/-- `insert_raw_chunks_in_transaction`. -/
def insertRawChunksInTransaction (attempt : PreparedAttempt) : Script Unit := do
  write "replace evidence raw chunks" fun db =>
    some (db.deleteChunks (·.attemptId == attempt.attemptId))
  each (insertRawChunk attempt.attemptId) (rawChunks attempt.rawPayloads).zipIdx

/-- The row of an artifact of an attempt. -/
def PreparedRawArtifact.row (artifact : PreparedRawArtifact) (attempt : PreparedAttempt)
    (createdAtUnixMs : Int64) (artifactId : ℕ) : ArtifactRow where
  artifactId := artifactId
  attemptId := attempt.attemptId
  groupId := attempt.groupId
  requestId := attempt.requestId
  role := attempt.role
  artifactKind := artifact.kind.asStr
  createdAtUnixMs := createdAtUnixMs
  contentText := some artifact.content
  bytesOriginal := artifact.bytesOriginal
  bytesStored := artifact.bytesStored
  truncated := artifact.truncated
  redacted := artifact.redacted
  prunedAtUnixMs := none

/-- `insert_raw_artifacts_in_transaction`; `now` is the clock. -/
def insertRawArtifactsInTransaction (attempt : PreparedAttempt) (now : UInt64) : Script Unit := do
  write "replace evidence raw artifacts" fun db =>
    some (db.deleteArtifacts (·.attemptId == attempt.attemptId))
  let createdAtUnixMs ← Fallible.ofExcept (toSqliteI64 now.toNat "created_at_unix_ms")
  each (fun artifact => write "write evidence raw artifact"
    (·.insertArtifact (artifact.row attempt createdAtUnixMs))) attempt.rawArtifacts

/-- `insert_attempt_in_transaction`. -/
def insertAttemptInTransaction (attempt : PreparedAttempt) (now : UInt64) : Script Unit := do
  write "write evidence attempt row" (·.upsertAttempt attempt.toAttemptRow)
  insertRawChunksInTransaction attempt
  insertRawArtifactsInTransaction attempt now

/-- `insert_group_and_attempts`; the clock is read for each attempt. -/
def insertGroupAndAttempts (group : PreparedGroup) (attempts : List PreparedAttempt)
    (clock : ℕ → UInt64) : Script Unit :=
  transaction (.sqlite "start evidence group transaction") (.sqlite "commit evidence group transaction") do
    insertGroupInTransaction group
    each (fun attempt => insertAttemptInTransaction attempt.1 (clock attempt.2)) attempts.zipIdx

/-- `insert_attempt`. -/
def insertAttempt (attempt : PreparedAttempt) (now : UInt64) : Script Unit :=
  transaction (.sqlite "start evidence attempt transaction")
    (.sqlite "commit evidence attempt transaction") (insertAttemptInTransaction attempt now)

/-! ## Retention -/

/-- `RetentionPruneOutcome`. -/
structure RetentionPruneOutcome where
  groups : ℕ := 0
  attempts : ℕ := 0
  chunks : ℕ := 0
  rawArtifacts : ℕ := 0

/-- `RetentionPruneOutcome::deleted_any`. -/
def RetentionPruneOutcome.deletedAny (outcome : RetentionPruneOutcome) : Bool :=
  decide (0 < outcome.groups) || decide (0 < outcome.attempts) || decide (0 < outcome.chunks) ||
    decide (0 < outcome.rawArtifacts)

/-- `RetentionPruneOutcome::add`. -/
def RetentionPruneOutcome.add (outcome other : RetentionPruneOutcome) : RetentionPruneOutcome where
  groups := saturatingAdd u64Max outcome.groups other.groups
  attempts := saturatingAdd u64Max outcome.attempts other.attempts
  chunks := saturatingAdd u64Max outcome.chunks other.chunks
  rawArtifacts := saturatingAdd u64Max outcome.rawArtifacts other.rawArtifacts

/-- `RawArtifactPointer`. -/
structure RawArtifactPointer where
  artifactId : ℕ
  attemptId : String
  kind : String
  createdAtUnixMs : ℕ
  bytesStored : ℕ

/-- What `read_content_raw_artifacts` reads of a row. -/
def ArtifactRow.pointer (row : ArtifactRow) : RawArtifactPointer where
  artifactId := row.artifactId
  attemptId := row.attemptId
  kind := row.artifactKind
  createdAtUnixMs := (nonnegativeI64ToU64 row.createdAtUnixMs).toNat
  bytesStored := row.storedBytes

/-- `ORDER BY created_at_unix_ms, artifact_id`. -/
abbrev createdBefore (a b : ArtifactRow) : Prop :=
  a.createdAtUnixMs < b.createdAtUnixMs ∨
    (a.createdAtUnixMs = b.createdAtUnixMs ∧ a.artifactId ≤ b.artifactId)

/-- The artifacts that have a content, oldest first. -/
def Database.contentArtifacts (db : Database) : List ArtifactRow :=
  (db.artifacts.table.rows.filter (·.contentText.isSome)).insertionSort createdBefore

/-- `read_content_raw_artifacts`. -/
def readContentRawArtifacts : Script (List RawArtifactPointer) := do
  prepare (.sqlite "prepare raw artifact retention query")
  prepare (.sqlite "read raw artifacts for retention")
  read "decode raw artifact retention row" fun db =>
    some (db.contentArtifacts.map ArtifactRow.pointer)

/-- `null_attempt_raw_column`. -/
def nullAttemptRawColumn (attemptId kind : String) : Script Unit :=
  if ["input", "output", "reasoning", "tool_calls"].contains kind then
    write "clear retained raw attempt column" fun db => some (db.nullRawColumn attemptId kind)
  else return ()

/-- The loop of `prune_raw_artifact_contents`: the artifacts pruned, and their attempts. -/
def clearContents (prunedAt : Int64) : ℕ → List String → List RawArtifactPointer →
    Script (ℕ × List String)
  | pruned, affected, [] => return (pruned, affected)
  | pruned, affected, artifact :: artifacts => do
      let updated ← statement (.sqlite "prune raw artifact content") fun db =>
        some (db.clearArtifact artifact.artifactId prunedAt)
      if 0 < updated then do
        nullAttemptRawColumn artifact.attemptId artifact.kind
        clearContents prunedAt (saturatingAdd u64Max pruned 1) (affected ++ [artifact.attemptId])
          artifacts
      else clearContents prunedAt pruned affected artifacts

/-- `delete_chunks_for_attempts`. -/
def deleteChunksForAttempts : ℕ → List String → Script ℕ
  | deleted, [] => return deleted
  | deleted, attemptId :: attemptIds => do
      let count ← read "count raw chunks before pruning" fun db =>
        some (db.chunks.countP (·.attemptId == attemptId))
      write "prune raw chunks for attempt" fun db =>
        some (db.deleteChunks (·.attemptId == attemptId))
      deleteChunksForAttempts (saturatingAdd u64Max deleted count) attemptIds

/-- `prune_raw_artifact_contents`; `now` is the clock.  Sorted and without repetitions, each attempt
comes once. -/
def pruneRawArtifactContents (artifacts : List RawArtifactPointer) (now : UInt64) :
    Script RetentionPruneOutcome :=
  if artifacts = [] then return {}
  else
    transaction (.sqlite "start raw artifact retention transaction")
      (.sqlite "commit raw artifact retention transaction") do
        let prunedAt ← Fallible.ofExcept (toSqliteI64 now.toNat "raw_artifact.pruned_at_unix_ms")
        let (prunedArtifacts, affected) ← clearContents prunedAt 0 [] artifacts
        let prunedChunks ← deleteChunksForAttempts 0 (affected.insertionSort (· ≤ ·)).dedup
        return ⟨0, 0, prunedChunks, prunedArtifacts⟩

/-- `SECONDS_PER_DAY`. -/
def secondsPerDay : ℕ := 86400

/-- `u64::saturating_mul`. -/
def saturatingMul (a b : ℕ) : ℕ := min (a * b) u64Max

/-- When an artifact must have been created to stay. -/
def expireBefore (paired : EvidencePairedComparisonConfig) (now : UInt64) : ℕ :=
  now.toNat - saturatingMul (saturatingMul paired.retentionDays.toNat secondsPerDay) 1000

/-- The loop of `enforce_raw_artifact_retention`, with what remains. -/
def selectArtifacts (expireBefore maxRecords maxBytes : ℕ) :
    ℕ → ℕ → List RawArtifactPointer → List RawArtifactPointer
  | _, _, [] => []
  | remainingRecords, remainingBytes, artifact :: artifacts =>
      if artifact.createdAtUnixMs < expireBefore ∨ remainingRecords > maxRecords ∨
          remainingBytes > maxBytes then
        artifact :: selectArtifacts expireBefore maxRecords maxBytes (remainingRecords - 1)
          (remainingBytes - artifact.bytesStored) artifacts
      else selectArtifacts expireBefore maxRecords maxBytes remainingRecords remainingBytes artifacts

/-- The artifacts that `enforce_raw_artifact_retention` prunes. -/
def artifactsToPrune (paired : EvidencePairedComparisonConfig) (now : UInt64)
    (artifacts : List RawArtifactPointer) : List RawArtifactPointer :=
  selectArtifacts (expireBefore paired now) paired.maxRetentionRecords.toNat
    paired.maxRetentionBytes.toNat artifacts.length
    (artifacts.foldl (fun total artifact => saturatingAdd u64Max total artifact.bytesStored) 0)
    artifacts

/-- `enforce_raw_artifact_retention`, on a database that has the table; the clock is read before the
selection and before the pruning. -/
def enforceRawArtifactRetention (config : EvidenceConfig) (now prunedAt : UInt64) :
    Script RetentionPruneOutcome := do
  prepare (.sqlite "check evidence table existence")
  let artifacts ← readContentRawArtifacts
  if artifacts.isEmpty then return {}
  else pruneRawArtifactContents (artifactsToPrune config.pairedComparison now artifacts) prunedAt

/-- `EvidenceRetentionUsage`, as the retention looks at it. -/
structure EvidenceRetentionUsage where
  groupCount : UInt64
  attemptCount : UInt64
  chunkCount : UInt64
  recordCount : ℕ

/-- `read_retention_usage`; the size of the file is read and not looked at. -/
def readRetentionUsage : Script EvidenceRetentionUsage := do
  let usage ← read "read evidence retention counters" fun db => do
    let groupCount ← readI64 db.stats.groupCount
    let attemptCount ← readI64 db.stats.attemptCount
    let chunkCount ← readI64 db.stats.chunkCount
    return EvidenceRetentionUsage.mk groupCount attemptCount chunkCount
      (saturatingAdd u64Max (saturatingAdd u64Max groupCount.toNat attemptCount.toNat)
        chunkCount.toNat)
  prepare (.sqlite "read SQLite evidence page count")
  prepare (.sqlite "read SQLite evidence page size")
  return usage

/-- `read_logical_observed_bytes`. -/
def readLogicalObservedBytes : Script UInt64 :=
  read "read evidence logical bytes" fun db => readI64 db.stats.logicalBytes

/-- `oldest_group_id`. -/
def oldestGroupId : Script (Option String) := do
  prepare (.sqlite "prepare oldest evidence group query")
  prepare (.sqlite "query oldest evidence group")
  prepare (.sqlite "read oldest evidence group")
  read "decode oldest evidence group" fun db => some (db.oldestGroup.map (·.groupId))

/-- The loop of `prune_retained_groups`.  Each turn deletes a group, so that the turns are bounded by
the groups there are. -/
def pruneLoop (maxRecords targetBytes : ℕ) : ℕ → RetentionPruneOutcome → EvidenceRetentionUsage →
    UInt64 → Script RetentionPruneOutcome
  | 0, outcome, _, _ => return outcome
  | turns + 1, outcome, usage, logicalBytes =>
      if usage.recordCount > maxRecords ∨ logicalBytes.toNat > targetBytes then do
        match ← oldestGroupId with
        | none => return outcome
        | some groupId => do
            let attemptCount ← read "read evidence attempt count for pruned group" fun db =>
              some (db.attempts.rows.countP (·.groupId == groupId))
            let chunkCount ← read "read evidence chunk count for pruned group" fun db =>
              some (db.chunks.countP fun row => db.ofGroup groupId row.attemptId)
            write "prune oldest evidence group" fun db => some (db.deleteGroup groupId)
            let outcome : RetentionPruneOutcome := { outcome with
              groups := saturatingAdd u64Max outcome.groups 1
              attempts := saturatingAdd u64Max outcome.attempts attemptCount
              chunks := saturatingAdd u64Max outcome.chunks chunkCount }
            let usage ← readRetentionUsage
            let logicalBytes ← readLogicalObservedBytes
            pruneLoop maxRecords targetBytes turns outcome usage logicalBytes
      else return outcome

/-- The number of turns that suffice for a database. -/
def turnsFor (db : Database) : ℕ := db.groups.rows.length + 1

/-- `prune_retained_groups`. -/
def pruneRetainedGroups (maxRecords targetBytes : ℕ) : Script RetentionPruneOutcome :=
  transaction (.sqlite "start evidence retention transaction")
    (.sqlite "commit evidence retention transaction") do
      let usage ← readRetentionUsage
      let logicalBytes ← readLogicalObservedBytes
      fun s => pruneLoop maxRecords targetBytes (turnsFor s.database) {} usage logicalBytes s

/-- The loop of `enforce_retention`. -/
def enforceLoop (targetRecords targetBytes : ℕ) : ℕ → RetentionPruneOutcome →
    EvidenceRetentionUsage → UInt64 → Script RetentionPruneOutcome
  | 0, outcome, _, _ => return outcome
  | turns + 1, outcome, usage, logicalBytes =>
      if usage.recordCount > targetRecords ∨ logicalBytes.toNat > targetBytes then do
        let batch ← pruneRetainedGroups targetRecords targetBytes
        if !batch.deletedAny then return outcome
        else do
          let outcome := outcome.add batch
          let usage ← readRetentionUsage
          let logicalBytes ← readLogicalObservedBytes
          if usage.recordCount = 0 then return outcome
          else enforceLoop targetRecords targetBytes turns outcome usage logicalBytes
      else return outcome

/-- What `enforce_retention` does after the raw artifacts. -/
def enforceGroupRetention (config : EvidenceConfig) (outcome : RetentionPruneOutcome) :
    Script RetentionPruneOutcome := do
  let usage ← readRetentionUsage
  let logicalBytes ← readLogicalObservedBytes
  let targetBytes := if logicalBytes > config.maxBytes then config.pruneToBytes.toNat
    else config.maxBytes.toNat
  let targetRecords := if usage.recordCount > config.maxRecords.toNat then
    config.effectivePruneToRecords else config.maxRecords.toNat
  fun s => enforceLoop targetRecords targetBytes (turnsFor s.database) outcome usage logicalBytes s

/-- `enforce_retention`. -/
def enforceRetention (config : EvidenceConfig) (now prunedAt : UInt64) :
    Script RetentionPruneOutcome := do
  let outcome ← enforceRawArtifactRetention config now prunedAt
  enforceGroupRetention config outcome

/-- `record_pruning_outcome`; `now` is the clock. -/
def recordPruningOutcome (outcome : RetentionPruneOutcome) (now : UInt64) : Script Unit :=
  if !outcome.deletedAny then return ()
  else do
    let now ← Fallible.ofExcept (toSqliteI64 now.toNat "last_pruned_at_unix_ms")
    let _ ← Fallible.ofExcept (toSqliteI64 outcome.groups "pruned_groups")
    let _ ← Fallible.ofExcept (toSqliteI64 outcome.attempts "pruned_attempts")
    let _ ← Fallible.ofExcept (toSqliteI64 outcome.chunks "pruned_chunks")
    write "record evidence retention pruning stats" fun db =>
      some (db.countPruning outcome.groups outcome.attempts outcome.chunks now)

/-! ## Calls -/

/-- `EvidenceStoreWrite`. -/
inductive EvidenceStoreWrite where
  | written
  | disabled

/-- The readings of the clock during a call. -/
structure CallTimes where
  created : ℕ → UInt64
  retention : UInt64
  pruned : UInt64
  recorded : UInt64

/-- What a call does after the rows are there: the retention, for a store that is enabled. -/
def finishCall (config : Option EvidenceConfig) (times : CallTimes) : Script EvidenceStoreWrite :=
  match config with
  | none => return .disabled
  | some config => do
      let pruning ← enforceRetention config times.retention times.pruned
      recordPruningOutcome pruning times.recorded
      return .written

/-- A call of the store: the settings at that time, whether the database can be opened, the clock,
the records, and which statements fail. -/
inductive EvidenceCall where
  | recordGroup (settings : Except EvidenceError EvidenceConfig) (opened : Except EvidenceError Unit)
      (times : CallTimes) (group : EvidenceGroupRecord) (attempts : List EvidenceAttemptRecord)
      (failures : List Bool)
  | recordShadowAttempt (settings : Except EvidenceError EvidenceConfig)
      (opened : Except EvidenceError Unit) (times : CallTimes) (attempt : EvidenceAttemptRecord)
      (failures : List Bool)

variable (codec : MetadataCodec)

/-- `record_group` up to the retention, with the settings of a store that is enabled. -/
def writeGroup (settings : Except EvidenceError EvidenceConfig) (opened : Except EvidenceError Unit)
    (times : CallTimes) (group : EvidenceGroupRecord) (attempts : List EvidenceAttemptRecord) :
    Script (Option EvidenceConfig) := do
  let config ← Fallible.ofExcept settings
  if !config.enabled then return none
  else do
    let group ← Fallible.ofExcept (PreparedGroup.fromRecord codec group config.includeRequestHeaders)
    let attempts ← Fallible.ofExcept
      (attempts.mapM fun attempt => PreparedAttempt.fromRecord codec attempt config)
    Fallible.ofExcept opened
    insertGroupAndAttempts group attempts times.created
    return some config

/-- `record_group`. -/
def recordGroup (settings : Except EvidenceError EvidenceConfig) (opened : Except EvidenceError Unit)
    (times : CallTimes) (group : EvidenceGroupRecord) (attempts : List EvidenceAttemptRecord) :
    Script EvidenceStoreWrite := do
  let config ← writeGroup codec settings opened times group attempts
  finishCall config times

/-- `record_shadow_attempt` up to the retention, with the settings of a store that is enabled. -/
def writeShadowAttempt (settings : Except EvidenceError EvidenceConfig)
    (opened : Except EvidenceError Unit) (times : CallTimes) (attempt : EvidenceAttemptRecord) :
    Script (Option EvidenceConfig) := do
  let config ← Fallible.ofExcept settings
  if !config.enabled then return none
  else do
    let attempt ← Fallible.ofExcept (PreparedAttempt.fromRecord codec attempt config)
    Fallible.ofExcept opened
    insertAttempt attempt (times.created 0)
    return some config

/-- `record_shadow_attempt`. -/
def recordShadowAttempt (settings : Except EvidenceError EvidenceConfig)
    (opened : Except EvidenceError Unit) (times : CallTimes) (attempt : EvidenceAttemptRecord) :
    Script EvidenceStoreWrite := do
  let config ← writeShadowAttempt codec settings opened times attempt
  finishCall config times

/-- What a call returns, and the database after it. -/
def EvidenceCall.run (call : EvidenceCall) (db : Database) :
    Except EvidenceError EvidenceStoreWrite × Database :=
  match call with
  | .recordGroup settings opened times group attempts failures =>
      let (result, s) := Evidence.recordGroup codec settings opened times group attempts
        ⟨db, failures⟩
      (result, s.database)
  | .recordShadowAttempt settings opened times attempt failures =>
      let (result, s) := Evidence.recordShadowAttempt codec settings opened times attempt
        ⟨db, failures⟩
      (result, s.database)

end LlmGuardProxy.Evidence
