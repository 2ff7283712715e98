import LlmGuardProxy.Evidence.RawRetention
import Mathlib.Tactic.Ring

/-!
# Evidence/Charges — the bytes that rows are charged with and the bytes they contain

`logical_bytes` is kept by the triggers from what each row was charged with when it was written.  The
charge of an attempt is never looked at again, and so it stays when its raw columns are emptied.

* `Balanced` — the counter is the sum of the charges, whatever the store does.
* `Faithful` — each row is charged with what it contains.
* `Followed` — both; the runs that keep it are those whose steps meet `EvidenceStep.Meets`.
-/

namespace LlmGuardProxy.Evidence

open Machinery SqlScript Fallible
open Observability (MetadataCodec optionalLen addLens)

/-! ## Bytes -/

/-- The texts and the metadata of a group, as `estimate_group_bytes` counts them. -/
def PreparedGroup.bytes (row : PreparedGroup) : ℕ :=
  row.groupId.utf8ByteSize + row.requestId.utf8ByteSize + optionalLen row.modelId +
    row.status.utf8ByteSize + row.requestMetadataJson.utf8ByteSize +
    row.responseMetadataJson.utf8ByteSize

/-- The raw columns of an attempt. -/
def AttemptRow.rawBytes (row : AttemptRow) : ℕ :=
  optionalLen row.rawInput + optionalLen row.rawOutput + optionalLen row.rawReasoning +
    optionalLen row.rawToolCalls

/-- The texts, the metadata and the raw columns of an attempt, as `estimate_attempt_bytes` counts
them. -/
def AttemptRow.bytes (row : AttemptRow) : ℕ :=
  row.attemptId.utf8ByteSize + row.groupId.utf8ByteSize + row.requestId.utf8ByteSize +
    optionalLen row.upstreamProfile + optionalLen row.modelId + optionalLen row.thinkingMode +
    row.requestMetadataJson.utf8ByteSize + row.responseMetadataJson.utf8ByteSize +
    row.detectorFeaturesJson.utf8ByteSize + row.rawBytes

/-- The text of a chunk. -/
def ChunkRow.bytes (row : ChunkRow) : ℕ := byteLen row.chunkText

/-- The content of an artifact. -/
def ArtifactRow.bytes (row : ArtifactRow) : ℕ := optionalLen row.contentText

/-- **The bytes that the rows contain.** -/
def Database.bytes (db : Database) : ℕ :=
  (db.groups.rows.map PreparedGroup.bytes).sum + (db.attempts.rows.map AttemptRow.bytes).sum +
    (db.chunks.map ChunkRow.bytes).sum + (db.artifacts.table.rows.map ArtifactRow.bytes).sum

/-- The bytes that the rows are charged with. -/
def Database.charged (db : Database) : ℤ :=
  (db.groups.rows.map (·.estimatedBytes.toInt)).sum +
    (db.attempts.rows.map (·.estimatedBytes.toInt)).sum +
    (db.chunks.map (·.chunkBytes.toInt)).sum +
    (db.artifacts.table.rows.map (·.bytesStored.toInt)).sum

/-- The counter is the sum of the charges. -/
def Balanced (db : Database) : Prop := db.stats.logicalBytes = db.charged

/-- **Each row is charged with what it contains.** -/
structure Faithful (db : Database) : Prop where
  groups : ∀ row ∈ db.groups.rows, row.estimatedBytes.toInt = row.bytes
  attempts : ∀ row ∈ db.attempts.rows, row.estimatedBytes.toInt = row.bytes
  chunks : ∀ row ∈ db.chunks, row.chunkBytes.toInt = row.bytes
  artifacts : ∀ row ∈ db.artifacts.table.rows, row.bytesStored.toInt = row.bytes

/-- The counter follows what is stored, row by row. -/
structure Followed (db : Database) : Prop where
  balanced : Balanced db
  faithful : Faithful db

theorem sum_toInt {ρ : Type} {charge : ρ → ℤ} {bytes : ρ → ℕ} {rows : List ρ}
    (h : ∀ row ∈ rows, charge row = bytes row) :
    (rows.map charge).sum = ((rows.map bytes).sum : ℕ) := by
  rw [List.map_congr_left h]
  induction rows with
  | nil => rfl
  | cons row rows ih =>
    have htail := ih fun other hother => h other (List.mem_cons_of_mem row hother)
    simp only [List.map_cons, List.sum_cons, htail]
    push_cast
    rfl

theorem Followed.logicalBytes {db : Database} (h : Followed db) :
    db.stats.logicalBytes = db.bytes := by
  have hbalanced := h.balanced
  unfold Balanced Database.charged at hbalanced
  rw [hbalanced, sum_toInt h.faithful.groups, sum_toInt h.faithful.attempts,
    sum_toInt h.faithful.chunks, sum_toInt h.faithful.artifacts]
  unfold Database.bytes
  push_cast
  rfl

theorem followed_empty : Followed {} where
  balanced := rfl
  faithful := by constructor <;> exact fun row hrow => by cases hrow

/-! ## Triggers -/

/-- A trigger that fires once for each row. -/
theorem logicalBytes_foldl {ρ : Type} (trigger : PruningStatsRow → ρ → PruningStatsRow) (f : ρ → ℤ)
    (h : ∀ stats row, (trigger stats row).logicalBytes = stats.logicalBytes - f row) (rows : List ρ)
    (stats : PruningStatsRow) :
    (rows.foldl trigger stats).logicalBytes = stats.logicalBytes - (rows.map f).sum := by
  induction rows generalizing stats with
  | nil => simp
  | cons row rows ih =>
    rw [List.foldl_cons, ih, h, List.map_cons, List.sum_cons, sub_sub]

/-- A sum over rows some of which are changed. -/
theorem sum_map_change {ρ : Type} (f : ρ → ℤ) (change : ρ → ρ) (p : ρ → Bool)
    (h : ∀ row, p row = false → change row = row) (rows : List ρ) :
    ((rows.map change).map f).sum =
      (rows.map f).sum - ((rows.filter p).map fun row => f row - f (change row)).sum := by
  induction rows with
  | nil => rfl
  | cons row rows ih =>
    cases hp : p row with
    | false =>
      rw [List.filter_cons_of_neg (by simp [hp]), List.map_cons, List.map_cons, List.sum_cons, ih,
        h row hp, List.map_cons, List.sum_cons]
      omega
    | true =>
      rw [List.filter_cons_of_pos hp, List.map_cons, List.map_cons, List.sum_cons, ih, List.map_cons,
        List.sum_cons, List.map_cons, List.sum_cons]
      omega

theorem toInt_usizeToI64Saturating (value : ℕ) :
    (usizeToI64Saturating value).toInt = (min value (2 ^ 63 - 1) : ℕ) := by
  unfold usizeToI64Saturating
  exact Int64.toInt_ofNat_of_lt (by omega)

/-- Emptying a column takes away what it contains. -/
theorem AttemptRow.bytes_emptied {row : AttemptRow} {attemptId kind : String}
    (h : row.attemptId = attemptId → optionalLen (row.column kind) = 0) :
    (row.emptied attemptId kind).bytes = row.bytes := by
  unfold AttemptRow.emptied
  split
  case isFalse => rfl
  case isTrue hid =>
    have hempty := h hid
    unfold AttemptRow.column at hempty
    unfold AttemptRow.withoutColumn AttemptRow.bytes AttemptRow.rawBytes
    split_ifs at hempty ⊢ <;> simp only [hempty] <;> rfl

namespace Followed

variable {db after : Database}

theorem upsertGroup (h : Followed db) {row : PreparedGroup} (hafter : db.upsertGroup row = some after)
    (hrow : row.estimatedBytes.toInt = row.bytes) : Followed after := by
  obtain ⟨groups, hgroups, rfl⟩ := Option.map_eq_some_iff.mp hafter
  have hsum := Table.sum_upsert (fun row : PreparedGroup => row.estimatedBytes.toInt) hgroups
  refine ⟨?_, ?_, h.faithful.attempts, h.faithful.chunks, h.faithful.artifacts⟩
  · have hbalanced := h.balanced
    unfold Balanced Database.charged at hbalanced ⊢
    dsimp only
    cases hfind : db.groups.rows.find? (sameGroup row) with
    | none =>
      rw [hfind, Option.elim_none] at hsum
      simp only [PruningStatsRow.groupInserted, PruningStatsRow.charge]
      omega
    | some old =>
      rw [hfind, Option.elim_some] at hsum
      simp only [PruningStatsRow.groupUpdated, PruningStatsRow.charge]
      omega
  · intro other hother
    rcases Table.mem_upsert hgroups hother with rfl | hold
    · exact hrow
    · exact h.faithful.groups other hold

theorem upsertAttempt (h : Followed db) {row : AttemptRow} (hafter : db.upsertAttempt row = some after)
    (hrow : row.estimatedBytes.toInt = row.bytes) : Followed after := by
  unfold Database.upsertAttempt at hafter
  split at hafter
  case isFalse => cases hafter
  case isTrue =>
    obtain ⟨attempts, hattempts, rfl⟩ := Option.map_eq_some_iff.mp hafter
    have hsum := Table.sum_upsert (fun row : AttemptRow => row.estimatedBytes.toInt) hattempts
    refine ⟨?_, h.faithful.groups, ?_, h.faithful.chunks, h.faithful.artifacts⟩
    · have hbalanced := h.balanced
      unfold Balanced Database.charged at hbalanced ⊢
      dsimp only
      cases hfind : db.attempts.rows.find? (sameAttempt row) with
      | none =>
        rw [hfind, Option.elim_none] at hsum
        simp only [PruningStatsRow.attemptInserted, PruningStatsRow.charge]
        omega
      | some old =>
        rw [hfind, Option.elim_some] at hsum
        simp only [PruningStatsRow.attemptUpdated, PruningStatsRow.charge]
        omega
    · intro other hother
      rcases Table.mem_upsert hattempts hother with rfl | hold
      · exact hrow
      · exact h.faithful.attempts other hold

theorem deleteChunks (h : Followed db) (p : ChunkRow → Bool) : Followed (db.deleteChunks p) := by
  have hsum := Table.sum_filter_add (fun row : ChunkRow => row.chunkBytes.toInt) p db.chunks
  have hfold := logicalBytes_foldl PruningStatsRow.chunkDeleted
    (fun row => row.chunkBytes.toInt) (fun _ _ => rfl) (db.chunks.filter p) db.stats
  refine ⟨?_, h.faithful.groups, h.faithful.attempts, ?_, h.faithful.artifacts⟩
  · have hbalanced := h.balanced
    unfold Balanced Database.charged at hbalanced ⊢
    simp only [Database.deleteChunks, hfold]
    omega
  · exact fun row hrow => h.faithful.chunks row (List.mem_of_mem_filter hrow)

theorem insertChunk (h : Followed db) {row : ChunkRow} (hafter : db.insertChunk row = some after)
    (hrow : row.chunkBytes.toInt = row.bytes) : Followed after := by
  unfold Database.insertChunk at hafter
  split at hafter
  case isFalse => cases hafter
  case isTrue =>
    rw [← Option.some.inj hafter]
    refine ⟨?_, h.faithful.groups, h.faithful.attempts, ?_, h.faithful.artifacts⟩
    · have hbalanced := h.balanced
      unfold Balanced Database.charged at hbalanced ⊢
      simp only [PruningStatsRow.chunkInserted, PruningStatsRow.charge, List.map_append,
        List.sum_append, List.map_cons, List.map_nil, List.sum_singleton]
      omega
    · intro other hother
      rcases List.mem_append.mp hother with hold | hnew
      · exact h.faithful.chunks other hold
      · rw [List.mem_singleton.mp hnew]
        exact hrow

theorem deleteArtifacts (h : Followed db) (p : ArtifactRow → Bool) :
    Followed (db.deleteArtifacts p) := by
  have hsum := Table.sum_filter_add (fun row : ArtifactRow => row.bytesStored.toInt) p
    db.artifacts.table.rows
  have hfold := logicalBytes_foldl PruningStatsRow.artifactDeleted
    (fun row => row.bytesStored.toInt) (fun _ _ => rfl) (db.artifacts.table.rows.filter p) db.stats
  refine ⟨?_, h.faithful.groups, h.faithful.attempts, h.faithful.chunks, ?_⟩
  · have hbalanced := h.balanced
    unfold Balanced Database.charged at hbalanced ⊢
    simp only [Database.deleteArtifacts, Artifacts.delete, Table.delete, hfold]
    omega
  · exact fun row hrow => h.faithful.artifacts row (List.mem_of_mem_filter hrow)

/-- An artifact whose content fits into the file is charged without saturation. -/
theorem insertArtifact (h : Followed db) {row : ℕ → ArtifactRow}
    (hafter : db.insertArtifact row = some after)
    (hrow : ∀ id, (row id).bytesStored = usizeToI64Saturating (row id).bytes) : Followed after := by
  unfold Database.insertArtifact at hafter
  generalize row (db.lastArtifactId + 1) = new, hrow (db.lastArtifactId + 1) = hnew at hafter
  dsimp only at hafter
  split at hafter
  case isFalse => cases hafter
  case isTrue =>
    obtain ⟨artifacts, hartifacts, rfl⟩ := Option.map_eq_some_iff.mp hafter
    obtain ⟨table, htable, hfits⟩ := Option.bind_eq_some_iff.mp hartifacts
    have hrows := Table.rows_insert htable
    have htables : artifacts.table = table := by
      split at hfits
      · rw [← Option.some.inj hfits]
      · cases hfits
    have hexact : new.bytesStored.toInt = new.bytes := by
      have hle := artifacts.bytes_le
      rw [htables, hrows, List.map_append, List.sum_append, List.map_singleton,
        List.sum_singleton, ArtifactRow.storedBytes, toNat_nonnegativeI64ToU64, hnew,
        toInt_usizeToI64Saturating] at hle
      rw [hnew, toInt_usizeToI64Saturating]
      unfold fileLimit at hle
      omega
    refine ⟨?_, h.faithful.groups, h.faithful.attempts, h.faithful.chunks, ?_⟩
    · have hbalanced := h.balanced
      unfold Balanced Database.charged at hbalanced ⊢
      simp only [PruningStatsRow.artifactInserted, PruningStatsRow.charge, htables, hrows,
        List.map_append, List.sum_append, List.map_cons, List.map_nil, List.sum_singleton]
      omega
    · intro other hother
      dsimp only at hother
      rw [htables, hrows] at hother
      rcases List.mem_append.mp hother with hold | hlast
      · exact h.faithful.artifacts other hold
      · rw [List.mem_singleton.mp hlast]
        exact hexact

/-- The trigger releases what a content was charged with. -/
theorem clearArtifact (h : Followed db) (artifactId : ℕ) (prunedAt : Int64) :
    Followed (db.clearArtifact artifactId prunedAt).2 := by
  refine ⟨?_, h.faithful.groups, h.faithful.attempts, h.faithful.chunks, ?_⟩
  · have hsum := sum_map_change (fun row : ArtifactRow => row.bytesStored.toInt)
      (Artifacts.cleared artifactId prunedAt)
      (fun row => decide (row.artifactId = artifactId ∧ row.contentText ≠ none))
      (fun row hrow => if_neg (of_decide_eq_false hrow)) db.artifacts.table.rows
    have hfold := logicalBytes_foldl (fun stats old =>
        stats.artifactUpdated old (Artifacts.cleared artifactId prunedAt old))
      (fun row => row.bytesStored.toInt - (Artifacts.cleared artifactId prunedAt row).bytesStored.toInt)
      (fun stats row => by
        simp only [PruningStatsRow.artifactUpdated, PruningStatsRow.charge]
        omega)
      (db.artifacts.table.rows.filter fun row =>
        decide (row.artifactId = artifactId ∧ row.contentText ≠ none)) db.stats
    have hbalanced := h.balanced
    unfold Balanced Database.charged at hbalanced ⊢
    simp only [Database.clearArtifact, Artifacts.clear, Table.modify, hfold]
    omega
  · intro row hrow
    obtain ⟨old, hold, rfl⟩ := List.mem_map.mp hrow
    unfold Artifacts.cleared
    split
    · rfl
    · exact h.faithful.artifacts old hold

/-- The charge of an attempt stays, so that it is right only where there was nothing to empty. -/
theorem nullRawColumn (h : Followed db) {attemptId kind : String}
    (hempty : ∀ row ∈ db.attempts.rows, row.attemptId = attemptId → optionalLen (row.column kind) = 0) :
    Followed (db.nullRawColumn attemptId kind) := by
  have hsame : ∀ row, (AttemptRow.emptied attemptId kind row).estimatedBytes = row.estimatedBytes := by
    intro row
    unfold AttemptRow.emptied AttemptRow.withoutColumn
    split_ifs <;> rfl
  refine ⟨?_, h.faithful.groups, ?_, h.faithful.chunks, h.faithful.artifacts⟩
  · have hbalanced := h.balanced
    unfold Balanced Database.charged at hbalanced ⊢
    simp only [Database.nullRawColumn, Table.modify, List.map_map, Function.comp_def, hsame]
    exact hbalanced
  · intro row hrow
    obtain ⟨old, hold, rfl⟩ := List.mem_map.mp hrow
    rw [hsame, h.faithful.attempts old hold, AttemptRow.bytes_emptied (hempty old hold)]

theorem deleteGroup (h : Followed db) (groupId : String) : Followed (db.deleteGroup groupId) := by
  have hinner := (h.deleteChunks fun row => db.ofGroup groupId row.attemptId).deleteArtifacts
    fun row => db.ofGroup groupId row.attemptId
  unfold Database.deleteGroup
  generalize (db.deleteChunks fun row => db.ofGroup groupId row.attemptId).deleteArtifacts
    (fun row => db.ofGroup groupId row.attemptId) = inner at hinner ⊢
  have hgroups := Table.sum_filter_add (fun row : PreparedGroup => row.estimatedBytes.toInt)
    (·.groupId == groupId) inner.groups.rows
  have hattempts := Table.sum_filter_add (fun row : AttemptRow => row.estimatedBytes.toInt)
    (·.groupId == groupId) inner.attempts.rows
  refine ⟨?_, ?_, ?_, hinner.faithful.chunks, hinner.faithful.artifacts⟩
  · have hbalanced := hinner.balanced
    unfold Balanced Database.charged at hbalanced ⊢
    simp only [Table.delete]
    rw [logicalBytes_foldl PruningStatsRow.groupDeleted (fun row => row.estimatedBytes.toInt)
      (fun _ _ => rfl), logicalBytes_foldl PruningStatsRow.attemptDeleted
      (fun row => row.estimatedBytes.toInt) (fun _ _ => rfl)]
    omega
  · exact fun row hrow => hinner.faithful.groups row (List.mem_of_mem_filter hrow)
  · exact fun row hrow => hinner.faithful.attempts row (List.mem_of_mem_filter hrow)

theorem countPruning (h : Followed db) (groups attempts chunks : ℕ) (now : Int64) :
    Followed (db.countPruning groups attempts chunks now) :=
  ⟨h.balanced, h.faithful.groups, h.faithful.attempts, h.faithful.chunks, h.faithful.artifacts⟩

end Followed

/-! ## Records -/

/-- Scrubbing leaves texts, taken together, as long as they were. -/
def KeepsLength (texts : List (Option Text)) : Prop :=
  (texts.map fun text => optionalLen (scrubOptionalText text)).sum = (texts.map optionalLen).sum

/-- The payloads of an attempt, as they are stored. -/
def EvidenceAttemptRecord.payloads (record : EvidenceAttemptRecord) (config : EvidenceConfig) :
    Observability.RawPayloads := (prepareRawPayloads record.rawPayloads (.fromRecord record config)).1

/-- Stream chunks, which are charged in the place of the raw columns, are as long as these. -/
def ChunksMatch (raw : Observability.RawPayloads) : Prop :=
  raw.chunks ≠ [] → (raw.chunks.map fun chunk => byteLen chunk.text).sum =
    optionalLen raw.output + optionalLen raw.reasoning + optionalLen raw.toolCalls

/-- **A record whose charge is what is stored of it.** -/
structure EvidenceAttemptRecord.Meets (record : EvidenceAttemptRecord) (config : EvidenceConfig) :
    Prop where
  texts : KeepsLength [record.upstreamProfile, record.modelId, record.thinkingMode]
  chunks : ChunksMatch (record.payloads config)

theorem toInt_of_toSqliteI64 {value : ℕ} {field : String} {stored : Int64}
    (h : toSqliteI64 value field = .ok stored) : value < 2 ^ 63 ∧ stored.toInt = value := by
  unfold toSqliteI64 at h
  split at h
  case isTrue hlt =>
    rw [← Except.ok.inj h]
    exact ⟨hlt, Int64.toInt_ofNat_of_lt hlt⟩
  case isFalse => cases h

/-- An estimate that is accepted has not saturated. -/
theorem toInt_of_addLens {lens : List ℕ} {field : String} {stored : Int64}
    (h : toSqliteI64 (addLens lens) field = .ok stored) : stored.toInt = lens.sum := by
  obtain ⟨hlt, hstored⟩ := toInt_of_toSqliteI64 h
  unfold addLens at hlt hstored
  rw [foldl_saturatingAdd] at hlt hstored
  rw [hstored]
  unfold Observability.u64Max at hlt ⊢
  omega

theorem sum_rawChunks {raw : Observability.RawPayloads} (h : ChunksMatch raw) :
    ((rawChunks raw).map fun chunk => byteLen chunk.text).sum = optionalLen raw.input +
      optionalLen raw.output + optionalLen raw.reasoning + optionalLen raw.toolCalls := by
  have hchannel : ∀ (text : Option Text) (channel : String),
      ((text.toList.map (Observability.RawPayloadChunk.mk channel)).map
        fun chunk => byteLen chunk.text).sum = optionalLen text := by
    intro text channel
    cases text <;> simp [optionalLen]
  unfold rawChunks
  dsimp only
  split
  case isTrue hchunks =>
    rw [List.map_append, List.sum_append, hchannel, h hchunks]
    omega
  case isFalse =>
    simp only [List.map_append, List.sum_append, hchannel]

theorem estimatedBytes_fromRecord {codec : MetadataCodec} {record : EvidenceGroupRecord}
    {includeHeaders : Bool} {row : PreparedGroup}
    (h : PreparedGroup.fromRecord codec record includeHeaders = .ok row)
    (hlength : KeepsLength [record.modelId]) : row.estimatedBytes.toInt = row.bytes := by
  obtain ⟨-, -, h⟩ := bind_eq_ok h
  obtain ⟨requestMetadataJson, -, h⟩ := bind_eq_ok h
  obtain ⟨responseMetadataJson, -, h⟩ := bind_eq_ok h
  obtain ⟨estimatedBytes, hestimate, h⟩ := bind_eq_ok h
  obtain ⟨startedAtUnixMs, -, h⟩ := bind_eq_ok h
  obtain ⟨finishedAtUnixMs, -, h⟩ := bind_eq_ok h
  have hsum := toInt_of_addLens hestimate
  simp only [KeepsLength, List.map_cons, List.map_nil, List.sum_cons, List.sum_nil] at hlength hsum
  rw [← Except.ok.inj h]
  dsimp only [PreparedGroup.bytes]
  rw [hsum]
  omega

/-- An artifact is charged with its content. -/
theorem bytesStored_prepareRawPayloads {raw : Observability.RawPayloads} {policy : RawCapturePolicy}
    {artifact : PreparedRawArtifact} (h : artifact ∈ (prepareRawPayloads raw policy).2) :
    artifact.bytesStored = usizeToI64Saturating (byteLen artifact.content) := by
  have hone : ∀ {original sanitized : Option Text} {kind : EvidenceRawArtifactKind}
      {policy : RawCaptureFieldPolicy} {prepared : Text × PreparedRawArtifact},
      prepared ∈ (prepareRawArtifact original sanitized kind policy).toList →
        prepared.2.bytesStored = usizeToI64Saturating (byteLen prepared.2.content) := by
    intro original sanitized kind policy prepared hprepared
    rw [Option.mem_toList, prepareRawArtifact] at hprepared
    split at hprepared
    · cases hprepared
    · obtain ⟨text, -, rfl⟩ := Option.map_eq_some_iff.mp hprepared
      rfl
  obtain ⟨prepared, hprepared, rfl⟩ := List.mem_map.mp h
  simp only [List.mem_append] at hprepared
  rcases hprepared with ((hin | hin) | hin) | hin <;> exact hone hin

theorem charges_fromRecord {codec : MetadataCodec} {record : EvidenceAttemptRecord}
    {config : EvidenceConfig} {attempt : PreparedAttempt}
    (h : PreparedAttempt.fromRecord codec record config = .ok attempt) (hmeets : record.Meets config) :
    attempt.estimatedBytes.toInt = attempt.toAttemptRow.bytes ∧
      ∀ artifact ∈ attempt.rawArtifacts,
        artifact.bytesStored = usizeToI64Saturating (byteLen artifact.content) := by
  obtain ⟨-, -, h⟩ := bind_eq_ok h
  obtain ⟨requestMetadataJson, -, h⟩ := bind_eq_ok h
  obtain ⟨responseMetadataJson, -, h⟩ := bind_eq_ok h
  obtain ⟨detectorFeaturesJson, -, h⟩ := bind_eq_ok h
  obtain ⟨estimatedBytes, hestimate, h⟩ := bind_eq_ok h
  obtain ⟨startedAtUnixMs, -, h⟩ := bind_eq_ok h
  obtain ⟨finishedAtUnixMs, -, h⟩ := bind_eq_ok h
  have hsum := toInt_of_addLens hestimate
  have hlength := hmeets.texts
  have hchunks := sum_rawChunks hmeets.chunks
  unfold EvidenceAttemptRecord.payloads at hchunks
  rw [List.sum_append, hchunks] at hsum
  simp only [KeepsLength, List.map_cons, List.map_nil, List.sum_cons, List.sum_nil] at hlength hsum
  rw [← Except.ok.inj h]
  refine ⟨?_, fun artifact hartifact => bytesStored_prepareRawPayloads hartifact⟩
  dsimp only [AttemptRow.bytes, AttemptRow.rawBytes]
  rw [hsum]
  omega

/-! ## Statements -/

theorem insertRawChunk_keeps (attemptId : String) (chunk : Observability.RawPayloadChunk × ℕ) :
    Keeps Followed (insertRawChunk attemptId chunk) := by
  refine Keeps.ofExcept_bind fun sequenceNumber _ => Keeps.ofExcept_bind fun chunkBytes hbytes => ?_
  exact Keeps.execute fun db after h hafter => h.insertChunk hafter (toInt_of_toSqliteI64 hbytes).2

/-- An attempt that was prepared from a record that meets the condition. -/
def Charged (attempt : PreparedAttempt) : Prop :=
  attempt.estimatedBytes.toInt = attempt.toAttemptRow.bytes ∧ ∀ artifact ∈ attempt.rawArtifacts,
    artifact.bytesStored = usizeToI64Saturating (byteLen artifact.content)

theorem insertAttemptInTransaction_keeps {attempt : PreparedAttempt} (h : Charged attempt)
    (now : UInt64) : Keeps Followed (insertAttemptInTransaction attempt now) := by
  refine (Keeps.execute fun db after hdb hafter => hdb.upsertAttempt hafter h.1).bind fun _ =>
    Keeps.bind ?_ fun _ => ?_
  · refine (Keeps.execute fun db after hdb hafter => ?_).bind fun _ =>
      Keeps.each fun chunk _ => insertRawChunk_keeps attempt.attemptId chunk
    rw [← Option.some.inj hafter]
    exact hdb.deleteChunks _
  · refine (Keeps.execute fun db after hdb hafter => ?_).bind fun _ => Keeps.ofExcept_bind
      fun createdAtUnixMs _ => Keeps.each fun artifact hartifact => Keeps.execute
        fun db after hdb hafter => hdb.insertArtifact hafter fun _ => h.2 artifact hartifact
    rw [← Option.some.inj hafter]
    exact hdb.deleteArtifacts _

theorem insertGroupAndAttempts_keeps {group : PreparedGroup} {attempts : List PreparedAttempt}
    (hgroup : group.estimatedBytes.toInt = group.bytes) (h : ∀ attempt ∈ attempts, Charged attempt)
    (clock : ℕ → UInt64) : Keeps Followed (insertGroupAndAttempts group attempts clock) := by
  have hinsert : Keeps Followed (insertGroupInTransaction group) := by
    unfold insertGroupInTransaction
    exact Keeps.execute fun db after hdb hafter => hdb.upsertGroup hafter hgroup
  refine Keeps.transaction (hinsert.bind fun _ => Keeps.each fun attempt hattempt => ?_)
  exact insertAttemptInTransaction_keeps (h attempt.1 (List.fst_mem_of_mem_zipIdx hattempt)) _

/-! ## Retention -/

/-- **The raw columns of the artifacts to be pruned are empty.** -/
def PrunesEmpty (paired : EvidencePairedComparisonConfig) (now : UInt64) (db : Database) : Prop :=
  ∀ artifact ∈ artifactsToPrune paired now (db.contentArtifacts.map ArtifactRow.pointer),
    ∀ row ∈ db.attempts.rows, row.attemptId = artifact.attemptId →
      optionalLen (row.column artifact.kind) = 0

/-- What is kept while artifacts are pruned. -/
structure FollowedBefore (artifacts : List RawArtifactPointer) (db : Database) : Prop where
  followed : Followed db
  empty : ∀ artifact ∈ artifacts, ∀ row ∈ db.attempts.rows, row.attemptId = artifact.attemptId →
    optionalLen (row.column artifact.kind) = 0

theorem FollowedBefore.nullRawColumn {artifacts : List RawArtifactPointer} {db : Database}
    (h : FollowedBefore artifacts db) {artifact : RawArtifactPointer} (hmem : artifact ∈ artifacts) :
    FollowedBefore artifacts (db.nullRawColumn artifact.attemptId artifact.kind) := by
  refine ⟨h.followed.nullRawColumn (h.empty artifact hmem), fun other hother row hrow hid => ?_⟩
  obtain ⟨old, hold, rfl⟩ := List.mem_map.mp hrow
  rw [AttemptRow.attemptId_emptied] at hid
  rcases old.column_emptied artifact.attemptId artifact.kind other.kind with hsame | hnone
  · rw [hsame]
    exact h.empty other hother old hold hid
  · rw [hnone]
    rfl

theorem clearContents_keeps {artifacts : List RawArtifactPointer} (prunedAt : Int64) (pruned : ℕ)
    (affected : List String) {selected : List RawArtifactPointer} (h : ∀ a ∈ selected, a ∈ artifacts) :
    Keeps (FollowedBefore artifacts) (clearContents prunedAt pruned affected selected) := by
  induction selected generalizing pruned affected with
  | nil => exact Keeps.pure _
  | cons artifact selected ih =>
    have hrest := fun a ha => h a (List.mem_cons_of_mem artifact ha)
    refine (Keeps.statement fun db value after hdb hafter => ?_).bind fun updated => ?_
    · obtain ⟨-, rfl⟩ := Prod.mk.inj (Option.some.inj hafter)
      exact ⟨hdb.followed.clearArtifact _ _, hdb.empty⟩
    · split
      case isFalse => exact ih _ _ hrest
      case isTrue =>
        refine Keeps.bind ?_ fun _ => ih _ _ hrest
        unfold nullAttemptRawColumn
        split
        case isFalse => exact Keeps.pure ()
        case isTrue =>
          refine Keeps.execute fun db after hdb hafter => ?_
          rw [← Option.some.inj hafter]
          exact hdb.nullRawColumn (h artifact List.mem_cons_self)

theorem deleteChunksForAttempts_keeps {artifacts : List RawArtifactPointer} (deleted : ℕ)
    (attemptIds : List String) :
    Keeps (FollowedBefore artifacts) (deleteChunksForAttempts deleted attemptIds) := by
  induction attemptIds generalizing deleted with
  | nil => exact Keeps.pure _
  | cons attemptId attemptIds ih =>
    refine (Keeps.ofObserves (Observes.query _ _)).bind fun count =>
      (Keeps.execute fun db after hdb hafter => ?_).bind fun _ => ih _
    rw [← Option.some.inj hafter]
    exact ⟨hdb.followed.deleteChunks _, hdb.empty⟩

theorem pruneRawArtifactContents_keeps (artifacts : List RawArtifactPointer) (now : UInt64) :
    Keeps (FollowedBefore artifacts) (pruneRawArtifactContents artifacts now) := by
  unfold pruneRawArtifactContents
  split
  case isTrue => exact Keeps.pure _
  case isFalse =>
    exact Keeps.transaction ((Keeps.ofExcept _).bind fun prunedAt =>
      (clearContents_keeps prunedAt 0 [] fun _ ha => ha).bind fun result =>
        (deleteChunksForAttempts_keeps 0 _).bind fun _ => Keeps.pure _)

theorem enforceRawArtifactRetention_keeps (config : EvidenceConfig) (now prunedAt : UInt64)
    {s : Connection Database} (h : Followed s.database)
    (hempty : PrunesEmpty config.pairedComparison now s.database) :
    After (enforceRawArtifactRetention config now prunedAt) s (fun _ t => Followed t.database)
      fun t => Followed t.database := by
  refine ((Observes.prepare _ s).mono (fun _ _ ht => ht) fun _ ht => ht.symm ▸ h).bind fun _ t ht => ?_
  have hsame : t.database = s.database := ht.1
  refine ((readContentRawArtifacts_observes t).mono (fun _ _ hu => hu)
    fun u hu => (hu.trans hsame).symm ▸ h).bind fun artifacts u hu => ?_
  obtain ⟨hdb, rfl⟩ := hu
  rw [hsame] at hdb ⊢
  split
  case isTrue => exact After.pure (hdb.symm ▸ h)
  case isFalse =>
    refine (pruneRawArtifactContents_keeps _ prunedAt u ?_).mono (fun _ _ hv => hv.followed)
      fun _ hv => hv.followed
    rw [hdb]
    exact ⟨h, hempty⟩

theorem readRetentionUsage_keeps {P : Database → Prop} : Keeps P readRetentionUsage :=
  (Keeps.ofObserves (Observes.query _ _)).bind fun _ => (Keeps.ofObserves (Observes.prepare _)).bind
    fun _ => (Keeps.ofObserves (Observes.prepare _)).bind fun _ => Keeps.pure _

theorem readLogicalObservedBytes_keeps {P : Database → Prop} : Keeps P readLogicalObservedBytes := by
  unfold readLogicalObservedBytes
  exact Keeps.ofObserves (Observes.query _ _)

theorem oldestGroupId_keeps {P : Database → Prop} : Keeps P oldestGroupId :=
  (Keeps.ofObserves (Observes.prepare _)).bind fun _ => (Keeps.ofObserves (Observes.prepare _)).bind
    fun _ => (Keeps.ofObserves (Observes.prepare _)).bind fun _ => Keeps.ofObserves (Observes.query _ _)

/-- Whole groups are released with all that belongs to them. -/
theorem pruneLoop_keeps (maxRecords targetBytes turns : ℕ) (outcome : RetentionPruneOutcome)
    (usage : EvidenceRetentionUsage) (logicalBytes : UInt64) :
    Keeps Followed (pruneLoop maxRecords targetBytes turns outcome usage logicalBytes) := by
  induction turns generalizing outcome usage logicalBytes with
  | zero => exact Keeps.pure _
  | succ turns ih =>
    rw [pruneLoop]
    split
    case isFalse => exact Keeps.pure _
    case isTrue =>
      refine Keeps.bind oldestGroupId_keeps fun oldest => ?_
      cases oldest with
      | none => exact Keeps.pure _
      | some groupId =>
        refine (Keeps.ofObserves (Observes.query _ _)).bind fun attemptCount =>
          (Keeps.ofObserves (Observes.query _ _)).bind fun chunkCount =>
            (Keeps.execute fun db after hdb hafter => ?_).bind fun _ =>
              readRetentionUsage_keeps.bind fun usage =>
                readLogicalObservedBytes_keeps.bind fun logicalBytes => ih _ _ _
        rw [← Option.some.inj hafter]
        exact hdb.deleteGroup groupId

theorem pruneRetainedGroups_keeps (maxRecords targetBytes : ℕ) :
    Keeps Followed (pruneRetainedGroups maxRecords targetBytes) := by
  refine Keeps.transaction (readRetentionUsage_keeps.bind fun usage =>
    readLogicalObservedBytes_keeps.bind fun logicalBytes => ?_)
  exact Keeps.ofParameter (fun s => turnsFor s.database) fun turns => pruneLoop_keeps _ _ turns _ _ _

theorem enforceLoop_keeps (targetRecords targetBytes turns : ℕ) (outcome : RetentionPruneOutcome)
    (usage : EvidenceRetentionUsage) (logicalBytes : UInt64) :
    Keeps Followed (enforceLoop targetRecords targetBytes turns outcome usage logicalBytes) := by
  induction turns generalizing outcome usage logicalBytes with
  | zero => exact Keeps.pure _
  | succ turns ih =>
    rw [enforceLoop]
    split
    case isFalse => exact Keeps.pure _
    case isTrue =>
      refine (pruneRetainedGroups_keeps _ _).bind fun batch => ?_
      split
      case isTrue => exact Keeps.pure _
      case isFalse =>
        refine readRetentionUsage_keeps.bind fun usage =>
          readLogicalObservedBytes_keeps.bind fun logicalBytes => ?_
        split
        case isTrue => exact Keeps.pure _
        case isFalse => exact ih _ _ _

theorem enforceGroupRetention_keeps (config : EvidenceConfig) (outcome : RetentionPruneOutcome) :
    Keeps Followed (enforceGroupRetention config outcome) := by
  refine readRetentionUsage_keeps.bind fun usage =>
    readLogicalObservedBytes_keeps.bind fun logicalBytes => ?_
  exact Keeps.ofParameter (fun s => turnsFor s.database) fun turns => enforceLoop_keeps _ _ turns _ _ _

theorem recordPruningOutcome_keeps (outcome : RetentionPruneOutcome) (now : UInt64) :
    Keeps Followed (recordPruningOutcome outcome now) := by
  unfold recordPruningOutcome
  split
  case isTrue => exact Keeps.pure _
  case isFalse =>
    refine (Keeps.ofExcept _).bind fun _ => (Keeps.ofExcept _).bind fun _ =>
      (Keeps.ofExcept _).bind fun _ => (Keeps.ofExcept _).bind fun _ =>
        Keeps.execute fun db after hdb hafter => ?_
    rw [← Option.some.inj hafter]
    exact hdb.countPruning _ _ _ _

theorem finishCall_keeps {config : EvidenceConfig} {times : CallTimes} {s : Connection Database}
    (h : Followed s.database)
    (hempty : PrunesEmpty config.pairedComparison times.retention s.database) :
    After (finishCall (some config) times) s (fun _ t => Followed t.database)
      fun t => Followed t.database := by
  refine (After.bind (enforceRawArtifactRetention_keeps config _ _ h hempty) fun outcome t ht =>
    enforceGroupRetention_keeps config outcome t ht).bind fun pruning t ht => ?_
  exact (recordPruningOutcome_keeps pruning _ t ht).bind fun _ u hu => After.pure hu

/-! ## Runs -/

/-- What happens to the store: a call, or a run of the retention alone. -/
inductive EvidenceStep where
  | record (call : EvidenceCall)
  | retention (config : EvidenceConfig) (times : CallTimes) (failures : List Bool)

variable (codec : MetadataCodec)

/-- The database after a step. -/
def EvidenceStep.run (step : EvidenceStep) (db : Database) : Database :=
  match step with
  | .record call => (call.run codec db).2
  | .retention config times failures => (finishCall (some config) times ⟨db, failures⟩).2.database

/-- The records of a call are charged with what is stored of them. -/
structure RecordsMeet (config : EvidenceConfig) (group : Option EvidenceGroupRecord)
    (attempts : List EvidenceAttemptRecord) : Prop where
  group : ∀ record ∈ group, KeepsLength [record.modelId]
  attempts : ∀ record ∈ attempts, record.Meets config

/-- The condition on a call, where it writes its records: on these, and on the database that its
retention finds. -/
structure CallMeets (writes : Script (Option EvidenceConfig)) (times : CallTimes)
    (group : Option EvidenceGroupRecord) (attempts : List EvidenceAttemptRecord) (db : Database)
    (failures : List Bool) : Prop where
  records : ∀ config s, writes ⟨db, failures⟩ = (.ok (some config), s) →
    RecordsMeet config group attempts
  empty : ∀ config s, writes ⟨db, failures⟩ = (.ok (some config), s) →
    PrunesEmpty config.pairedComparison times.retention s.database

/-- **The condition on a step**: its records are charged with what is stored of them, and whatever its
retention prunes has empty raw columns. -/
def EvidenceStep.Meets (step : EvidenceStep) (db : Database) : Prop :=
  match step with
  | .record (.recordGroup settings opened times group attempts failures) =>
      CallMeets (writeGroup codec settings opened times group attempts) times (some group) attempts db
        failures
  | .record (.recordShadowAttempt settings opened times attempt failures) =>
      CallMeets (writeShadowAttempt codec settings opened times attempt) times none [attempt] db
        failures
  | .retention config times _ => PrunesEmpty config.pairedComparison times.retention db

/-- The databases of the runs whose steps all meet the condition. -/
inductive Reached : Database → Prop where
  | empty : Reached {}
  | step {db : Database} (step : EvidenceStep) (h : Reached db) (hmeets : step.Meets codec db) :
      Reached (step.run codec db)

variable {codec}

theorem charged_of_mapM {records : List EvidenceAttemptRecord} {config : EvidenceConfig}
    {attempts : List PreparedAttempt}
    (h : records.mapM (fun record => PreparedAttempt.fromRecord codec record config) = .ok attempts)
    (hmeets : ∀ record ∈ records, record.Meets config) : ∀ attempt ∈ attempts, Charged attempt := by
  induction records generalizing attempts with
  | nil =>
    rw [List.mapM_nil] at h
    rw [← Except.ok.inj h]
    exact fun attempt hattempt => by cases hattempt
  | cons record records ih =>
    rw [List.mapM_cons] at h
    obtain ⟨first, hfirst, h⟩ := bind_eq_ok h
    obtain ⟨rest, hrest, h⟩ := bind_eq_ok h
    rw [← Except.ok.inj h]
    intro attempt hattempt
    rcases List.mem_cons.mp hattempt with rfl | hmem
    · exact charges_fromRecord hfirst (hmeets record List.mem_cons_self)
    · exact ih hrest (fun other hother => hmeets other (List.mem_cons_of_mem record hother))
        attempt hmem

/-- What a transaction that writes records comes to: it fails, or the records meet the condition or
not. -/
theorem insert_after {x : Script Unit} {s : Connection Database} (records : Prop)
    (h : Followed s.database) (hkeeps : records → Keeps Followed x)
    (hunchanged : After x s (fun _ _ => True) fun t => t.database = s.database) :
    After x s (fun _ t => records → Followed t.database) fun t => Followed t.database := by
  by_cases hrecords : records
  · exact (hkeeps hrecords s h).mono (fun _ _ ht _ => ht) fun _ ht => ht
  · exact hunchanged.mono (fun _ _ _ hmeets => absurd hmeets hrecords) fun _ ht => ht.symm ▸ h

/-- What is known where the retention of a call begins. -/
def Written (group : Option EvidenceGroupRecord) (attempts : List EvidenceAttemptRecord)
    (config : Option EvidenceConfig) (db : Database) : Prop :=
  match config with
  | none => Followed db
  | some config => RecordsMeet config group attempts → Followed db

theorem writeGroup_after (settings : Except EvidenceError EvidenceConfig)
    (opened : Except EvidenceError Unit) (times : CallTimes) (group : EvidenceGroupRecord)
    (attempts : List EvidenceAttemptRecord) {s : Connection Database} (h : Followed s.database) :
    After (writeGroup codec settings opened times group attempts) s
      (fun config t => Written (some group) attempts config t.database)
      fun t => Followed t.database := by
  refine (Keeps.ofExcept settings s h).bind fun config t ht => ?_
  split
  case isTrue => exact After.pure ht
  case isFalse =>
    refine (Keeps.ofExcept_after _ t ht).bind fun row u hrow => ?_
    refine (Keeps.ofExcept_after _ u hrow.2).bind fun rows v hrows => ?_
    refine (Keeps.ofExcept_after opened v hrows.2).bind fun _ w hw => ?_
    refine (insert_after (RecordsMeet config (some group) attempts) hw.2 (fun hmeets => ?_)
      (transaction_unchanged _ _ _ w)).bind fun _ z hz => After.pure hz
    exact insertGroupAndAttempts_keeps (estimatedBytes_fromRecord hrow.1 (hmeets.group group rfl))
      (charged_of_mapM hrows.1 hmeets.attempts) times.created

theorem writeShadowAttempt_after (settings : Except EvidenceError EvidenceConfig)
    (opened : Except EvidenceError Unit) (times : CallTimes) (attempt : EvidenceAttemptRecord)
    {s : Connection Database} (h : Followed s.database) :
    After (writeShadowAttempt codec settings opened times attempt) s
      (fun config t => Written none [attempt] config t.database) fun t => Followed t.database := by
  refine (Keeps.ofExcept settings s h).bind fun config t ht => ?_
  split
  case isTrue => exact After.pure ht
  case isFalse =>
    refine (Keeps.ofExcept_after _ t ht).bind fun row u hrow => ?_
    refine (Keeps.ofExcept_after opened u hrow.2).bind fun _ w hw => ?_
    refine (insert_after (RecordsMeet config none [attempt]) hw.2 (fun hmeets => ?_)
      (transaction_unchanged _ _ _ w)).bind fun _ z hz => After.pure hz
    exact Keeps.transaction (insertAttemptInTransaction_keeps
      (charges_fromRecord hrow.1 (hmeets.attempts attempt List.mem_cons_self)) _)

/-- A call: the writes, and the retention where they end. -/
theorem call_keeps {writes : Script (Option EvidenceConfig)} {times : CallTimes}
    {group : Option EvidenceGroupRecord} {attempts : List EvidenceAttemptRecord} {db : Database}
    {failures : List Bool}
    (hwrites : After writes ⟨db, failures⟩
      (fun config t => Written group attempts config t.database) fun t => Followed t.database)
    (hmeets : CallMeets writes times group attempts db failures) :
    After (writes >>= fun config => finishCall config times) ⟨db, failures⟩
      (fun _ t => Followed t.database) fun t => Followed t.database := by
  refine hwrites.with_run.bind fun config t ht => ?_
  obtain ⟨hrun, hwritten⟩ := ht
  cases config with
  | none => exact After.pure hwritten
  | some config =>
    exact finishCall_keeps (hwritten (hmeets.records config t hrun)) (hmeets.empty config t hrun)

/-- One step. -/
theorem Followed.step {db : Database} (h : Followed db) {step : EvidenceStep}
    (hmeets : step.Meets codec db) : Followed (step.run codec db) := by
  cases step with
  | retention config times failures =>
    exact After.of_either (R := fun t : Connection Database => Followed t.database)
      (finishCall_keeps (s := ⟨db, failures⟩) h hmeets)
  | record call =>
    cases call with
    | recordGroup settings opened times group attempts failures =>
      exact After.of_either (R := fun t : Connection Database => Followed t.database)
        (call_keeps (writeGroup_after settings opened times group attempts h) hmeets)
    | recordShadowAttempt settings opened times attempt failures =>
      exact After.of_either (R := fun t : Connection Database => Followed t.database)
        (call_keeps (writeShadowAttempt_after settings opened times attempt h) hmeets)

/-- **The counter follows what is stored**, in every database that a run reaches whose steps charge
their records with what is stored of them and prune no raw column that has a text. -/
theorem logicalBytes_followed (codec : MetadataCodec) {db : Database} (h : Reached codec db) :
    db.stats.logicalBytes = db.bytes := by
  have hfollowed : Followed db := by
    induction h with
    | empty => exact followed_empty
    | step step _ hmeets ih => exact ih.step hmeets
  exact hfollowed.logicalBytes

/-! ## Samples -/

/-- A store that keeps raw payloads, up to a number of bytes. -/
def sampleConfig (maxRetentionBytes : UInt64) : EvidenceConfig where
  enabled := true
  includeRawPayloads := true
  includeRequestHeaders := false
  maxBytes := 1000
  pruneToBytes := 500
  maxRecords := 100
  pruneToRecords := none
  pairedComparison := ⟨false, false, false, 10, 10, 10, 5, maxRetentionBytes, 7⟩

/-- A group. -/
def sampleGroup : EvidenceGroupRecord := ⟨"g", "r", 10, some 20, none, "accepted", [], []⟩

/-- An attempt with an output of two bytes. -/
def sampleAttempt : EvidenceAttemptRecord where
  attemptId := "a"
  groupId := "g"
  requestId := "r"
  attemptNumber := 1
  role := .primary
  shownToDownstream := true
  startedAtUnixMs := 10
  finishedAtUnixMs := some 20
  upstreamProfile := none
  modelId := none
  thinkingMode := none
  thinkingBudgetTokens := none
  thinkingMaxTokens := none
  detectorFeatures := []
  status := .accepted
  httpStatus := some 200
  errorReason := none
  retryReason := none
  abortReason := none
  shadowSkipReason := none
  requestMetadata := []
  responseMetadata := []
  rawPayloads := { output := some ['o', 'k'] }

/-- The clock of a call. -/
def sampleTimes : CallTimes := ⟨fun _ => 20, 30, 30, 30⟩

/-- The group and its attempt are recorded. -/
def sampleStep (maxRetentionBytes : UInt64) : EvidenceStep :=
  .record (.recordGroup (.ok (sampleConfig maxRetentionBytes)) (.ok ()) sampleTimes sampleGroup
    [sampleAttempt] [])

theorem recordsMeet_sample :
    RecordsMeet (sampleConfig 1000) (some sampleGroup) [sampleAttempt] where
  group record hrecord := by
    rw [← Option.some.inj hrecord]
    rfl
  attempts record hrecord := by
    rw [List.mem_singleton.mp hrecord]
    exact ⟨rfl, fun hchunks => absurd rfl hchunks⟩

/-- What the sample writes. -/
def sampleWrites : Script (Option EvidenceConfig) :=
  writeGroup Observability.emptyMetadataCodec (.ok (sampleConfig 1000)) (.ok ()) sampleTimes sampleGroup
    [sampleAttempt]

/-- The records are written, and there is room for their payloads. -/
theorem callMeets_sample :
    CallMeets sampleWrites sampleTimes (some sampleGroup) [sampleAttempt] {} [] := by
  have hresult : (sampleWrites ⟨{}, []⟩).1.toOption = some (some (sampleConfig 1000)) := by
    decide +kernel
  have hempty : PrunesEmpty (sampleConfig 1000).pairedComparison sampleTimes.retention
      (sampleWrites ⟨{}, []⟩).2.database := by
    unfold PrunesEmpty
    decide +kernel
  generalize sampleWrites = writes at hresult hempty ⊢
  have hconfig : ∀ config s, writes ⟨{}, []⟩ = (.ok (some config), s) → config = sampleConfig 1000 := by
    intro config s hrun
    rw [hrun] at hresult
    exact Option.some.inj (Option.some.inj hresult)
  constructor
  · intro config s hrun
    rw [hconfig config s hrun]
    exact recordsMeet_sample
  · intro config s hrun
    rw [hrun] at hempty
    rw [hconfig config s hrun]
    exact hempty

theorem logicalBytes_followed_sample :
    let after := (sampleStep 1000).run Observability.emptyMetadataCodec {}
    after.stats.logicalBytes = after.bytes := by
  intro after
  have hreached : Reached Observability.emptyMetadataCodec after :=
    Reached.step (sampleStep 1000) .empty callMeets_sample
  exact logicalBytes_followed Observability.emptyMetadataCodec hreached

/-- The output is pruned, and the attempt stays charged with it. -/
theorem logicalBytes_after_pruning :
    let after := (sampleStep 1).run Observability.emptyMetadataCodec {}
    after.stats.logicalBytes ≠ after.bytes ∧ after.stats.logicalBytes = after.bytes + 2 := by
  decide +kernel

end LlmGuardProxy.Evidence
