import LlmGuardProxy.Evidence.Store
import Mathlib.Order.Bounds.Defs

/-!
# Evidence/RawRetention — which raw artifacts are kept, and what is left of the others

The artifacts with a content, oldest first, are compared with the part of them that is still there
after the raw-artifact retention.

* `selectArtifacts_least` — the pass over the artifacts selects the shortest prefix whose rest fits.
* `Database.pruned` — what clearing the contents of artifacts does to the three tables.
* `rawRetention_least` — every run of `enforce_raw_artifact_retention`.
-/

namespace LlmGuardProxy.Evidence

open Machinery SqlScript Fallible
open Observability (u64Max nonnegativeI64ToU64)

/-! ## Limits -/

/-- An artifact that is older than the days of retention. -/
def ArtifactRow.Expired (row : ArtifactRow) (paired : EvidencePairedComparisonConfig) (now : UInt64) :
    Prop :=
  row.pointer.createdAtUnixMs + paired.retentionDays.toNat * (24 * 60 * 60 * 1000) < now.toNat

/-- **The artifacts fit**: none is expired, and neither their number nor their bytes is too large. -/
structure Fits (paired : EvidencePairedComparisonConfig) (now : UInt64) (rows : List ArtifactRow) :
    Prop where
  fresh : ∀ row ∈ rows, ¬row.Expired paired now
  records_le : rows.length ≤ paired.maxRetentionRecords.toNat
  bytes_le : (rows.map ArtifactRow.storedBytes).sum ≤ paired.maxRetentionBytes.toNat

/-- The saturating arithmetic of the days agrees with the days. -/
theorem expired_iff (row : ArtifactRow) (paired : EvidencePairedComparisonConfig) (now : UInt64) :
    row.pointer.createdAtUnixMs < expireBefore paired now ↔ row.Expired paired now := by
  have hnow : now.toNat < 2 ^ 64 := now.toNat_lt
  unfold expireBefore saturatingMul secondsPerDay u64Max ArtifactRow.Expired
  omega

/-- What is read of a column is its value, or zero. -/
theorem toNat_nonnegativeI64ToU64 (value : Int64) :
    (nonnegativeI64ToU64 value).toNat = value.toInt.toNat := by
  unfold nonnegativeI64ToU64
  split
  case isTrue hneg =>
    have hlt : value.toInt < 0 := Int64.lt_iff_toInt_lt.mp hneg
    rw [Int.toNat_of_nonpos hlt.le]
    rfl
  case isFalse hnonneg =>
    have hle : (0 : Int64) ≤ value := by
      rw [Int64.le_iff_toInt_le]
      rw [Int64.lt_iff_toInt_lt] at hnonneg
      exact not_lt.mp hnonneg
    rw [Int64.toNat_toUInt64_of_le hle, Int64.toNat_toInt]

/-! ## Order -/

theorem createdBefore_iff (a b : ArtifactRow) : createdBefore a b ↔
    a.createdAtUnixMs.toInt < b.createdAtUnixMs.toInt ∨
      (a.createdAtUnixMs.toInt = b.createdAtUnixMs.toInt ∧ a.artifactId ≤ b.artifactId) := by
  simp only [createdBefore, Int64.lt_iff_toInt_lt, ← Int64.toInt_inj]

instance : Std.Total createdBefore := total_of_columns createdBefore_iff

instance : IsTrans ArtifactRow createdBefore := isTrans_of_columns createdBefore_iff

/-- An artifact that comes later was not created earlier. -/
theorem createdAt_le_of_createdBefore {a b : ArtifactRow} (h : createdBefore a b) :
    a.pointer.createdAtUnixMs ≤ b.pointer.createdAtUnixMs := by
  have horder := (createdBefore_iff a b).mp h
  simp only [ArtifactRow.pointer, toNat_nonnegativeI64ToU64]
  omega

theorem mem_contentArtifacts {db : Database} {row : ArtifactRow} :
    row ∈ db.contentArtifacts ↔ row ∈ db.artifacts.table.rows ∧ row.contentText.isSome = true := by
  unfold Database.contentArtifacts
  rw [List.mem_insertionSort, List.mem_filter]

theorem pairwise_contentArtifacts (db : Database) : db.contentArtifacts.Pairwise createdBefore :=
  List.pairwise_insertionSort createdBefore _

theorem sameArtifact_comm (a b : ArtifactRow) : sameArtifact a b = sameArtifact b a := by
  unfold sameArtifact
  rw [BEq.comm, BEq.comm (a := a.attemptId), BEq.comm (a := a.artifactKind)]

/-- No two artifacts with a content have the same key, nor are they of one kind and one attempt. -/
theorem unique_contentArtifacts (db : Database) :
    db.contentArtifacts.Pairwise fun a b => sameArtifact a b = false := by
  refine (db.artifacts.table.unique.filter _).perm (List.perm_insertionSort createdBefore _).symm ?_
  exact fun hab => (sameArtifact_comm _ _).trans hab

theorem bytes_contentArtifacts_le (db : Database) :
    (db.contentArtifacts.map ArtifactRow.storedBytes).sum ≤ fileLimit := by
  have hperm := (List.perm_insertionSort createdBefore
    (db.artifacts.table.rows.filter (·.contentText.isSome))).map ArtifactRow.storedBytes
  have hsum := Table.sum_filter_add ArtifactRow.storedBytes (·.contentText.isSome)
    db.artifacts.table.rows
  have hle := db.artifacts.bytes_le
  unfold Database.contentArtifacts
  rw [hperm.sum_eq]
  omega

/-! ## Selection -/

/-- With room left and nothing expired, nothing is selected. -/
theorem selectArtifacts_of_room {limit maxRecords maxBytes records bytes : ℕ}
    {artifacts : List RawArtifactPointer} (hfresh : ∀ a ∈ artifacts, limit ≤ a.createdAtUnixMs)
    (hrecords : records ≤ maxRecords) (hbytes : bytes ≤ maxBytes) :
    selectArtifacts limit maxRecords maxBytes records bytes artifacts = [] := by
  induction artifacts with
  | nil => rfl
  | cons artifact artifacts ih =>
    have hhead := hfresh artifact List.mem_cons_self
    rw [selectArtifacts, if_neg (by omega)]
    exact ih fun a ha => hfresh a (List.mem_cons_of_mem artifact ha)

/-- **The selection is the shortest prefix whose rest fits.** -/
theorem selectArtifacts_least (paired : EvidencePairedComparisonConfig) (now : UInt64)
    {rows : List ArtifactRow} (hsorted : rows.Pairwise createdBefore) :
    ∃ count, IsLeast {k | Fits paired now (rows.drop k)} count ∧
      selectArtifacts (expireBefore paired now) paired.maxRetentionRecords.toNat
        paired.maxRetentionBytes.toNat rows.length (rows.map ArtifactRow.storedBytes).sum
        (rows.map ArtifactRow.pointer) = (rows.take count).map ArtifactRow.pointer := by
  induction rows with
  | nil =>
    refine ⟨0, ⟨⟨by simp, Nat.zero_le _, Nat.zero_le _⟩, fun k _ => Nat.zero_le k⟩, rfl⟩
  | cons row rows ih =>
    obtain ⟨hrow, hrows⟩ := List.pairwise_cons.mp hsorted
    simp only [List.map_cons, List.length_cons, List.sum_cons]
    rw [selectArtifacts]
    split
    case isTrue hover =>
      obtain ⟨count, ⟨hfits, hleast⟩, hselect⟩ := ih hrows
      have hnot : ¬Fits paired now (row :: rows) := by
        intro hall
        have hlength := hall.records_le
        have hbytes := hall.bytes_le
        rw [List.length_cons] at hlength
        rw [List.map_cons, List.sum_cons] at hbytes
        rcases hover with hexpired | hrecords | hmore
        · exact hall.fresh row List.mem_cons_self ((expired_iff row paired now).mp hexpired)
        · omega
        · omega
      refine ⟨count + 1, ⟨hfits, fun k hk => ?_⟩, ?_⟩
      · cases k with
        | zero => exact absurd hk hnot
        | succ k => exact Nat.succ_le_succ (hleast hk)
      · have hbytes : row.storedBytes + (rows.map ArtifactRow.storedBytes).sum -
            row.pointer.bytesStored = (rows.map ArtifactRow.storedBytes).sum :=
          Nat.add_sub_cancel_left _ _
        rw [hbytes, Nat.add_sub_cancel, hselect, List.take_succ_cons, List.map_cons]
    case isFalse hroom =>
      push Not at hroom
      obtain ⟨hfresh, hrecords, hbytes⟩ := hroom
      have hlater : ∀ other ∈ row :: rows,
          expireBefore paired now ≤ other.pointer.createdAtUnixMs := by
        intro other hother
        rcases List.mem_cons.mp hother with rfl | hmem
        · exact hfresh
        · exact hfresh.trans (createdAt_le_of_createdBefore (hrow other hmem))
      refine ⟨0, ⟨⟨?_, ?_, ?_⟩, fun k _ => Nat.zero_le k⟩, ?_⟩
      · exact fun other hother hexpired =>
          (hlater other hother).not_gt ((expired_iff other paired now).mpr hexpired)
      · exact hrecords
      · exact hbytes
      · refine selectArtifacts_of_room (fun a ha => ?_) hrecords hbytes
        obtain ⟨other, hother, rfl⟩ := List.mem_map.mp ha
        exact hlater other (List.mem_cons_of_mem row hother)

/-- The bytes are counted without saturation, as they fit into a file. -/
theorem artifactsToPrune_least (paired : EvidencePairedComparisonConfig) (now : UInt64)
    (db : Database) :
    ∃ count, IsLeast {k | Fits paired now (db.contentArtifacts.drop k)} count ∧
      artifactsToPrune paired now (db.contentArtifacts.map ArtifactRow.pointer) =
        (db.contentArtifacts.take count).map ArtifactRow.pointer := by
  have hbytes := bytes_contentArtifacts_le db
  have htotal : (db.contentArtifacts.map ArtifactRow.pointer).foldl
      (fun total artifact => saturatingAdd u64Max total artifact.bytesStored) 0 =
        (db.contentArtifacts.map ArtifactRow.storedBytes).sum := by
    rw [List.foldl_map]
    have hfold := @foldl_saturatingAdd u64Max
      (db.contentArtifacts.map ArtifactRow.storedBytes)
    rw [List.foldl_map, min_eq_left (hbytes.trans (by decide))] at hfold
    exact hfold
  unfold artifactsToPrune
  rw [htotal, List.length_map]
  exact selectArtifacts_least paired now (pairwise_contentArtifacts db)

/-! ## Clearing -/

/-- The raw column of a kind. -/
def AttemptRow.column (row : AttemptRow) (kind : String) : Option Text :=
  if kind = "input" then row.rawInput
  else if kind = "output" then row.rawOutput
  else if kind = "reasoning" then row.rawReasoning
  else if kind = "tool_calls" then row.rawToolCalls
  else none

/-- A column that is emptied is empty, and one that was empty stays so. -/
theorem AttemptRow.column_emptied (row : AttemptRow) (attemptId kind other : String) :
    (row.emptied attemptId kind).column other = row.column other ∨
      (row.emptied attemptId kind).column other = none := by
  unfold AttemptRow.emptied AttemptRow.withoutColumn AttemptRow.column
  split_ifs <;> simp

theorem AttemptRow.column_emptied_self (row : AttemptRow) (kind : String) :
    (row.emptied row.attemptId kind).column kind = none := by
  unfold AttemptRow.emptied AttemptRow.withoutColumn AttemptRow.column
  rw [if_pos rfl]
  split_ifs <;> rfl

/-- No attempt of this id has a text in the column of this kind. -/
def Database.NoColumn (db : Database) (attemptId kind : String) : Prop :=
  ∀ row ∈ db.attempts.rows, row.attemptId = attemptId → row.column kind = none

/-- What the pruning of several artifacts does to a row. -/
def ArtifactRow.clearedIn (ids : List ℕ) (prunedAt : Int64) (row : ArtifactRow) : ArtifactRow :=
  if row.artifactId ∈ ids ∧ row.contentText ≠ none then
    { row with contentText := none, bytesStored := 0, prunedAtUnixMs := some prunedAt }
  else row

theorem ArtifactRow.clearedIn_cons (id : ℕ) (ids : List ℕ) (prunedAt : Int64) (row : ArtifactRow) :
    (Artifacts.cleared id prunedAt row).clearedIn ids prunedAt = row.clearedIn (id :: ids) prunedAt := by
  unfold Artifacts.cleared ArtifactRow.clearedIn
  by_cases hid : row.artifactId = id
  · by_cases hcontent : row.contentText = none
    · simp [hcontent]
    · simp [hid, hcontent]
  · simp [hid]

/-- **What the loop over the artifacts leaves**: their contents are gone, and so are the raw columns
of their kinds. -/
structure Cleared (artifacts : List RawArtifactPointer) (prunedAt : Int64) (db after : Database) :
    Prop where
  contents : after.artifacts.table.rows = db.artifacts.table.rows.map
    (ArtifactRow.clearedIn (artifacts.map (·.artifactId)) prunedAt)
  columns : ∀ artifact ∈ artifacts, after.NoColumn artifact.attemptId artifact.kind
  shrinks : ∀ attemptId kind, db.NoColumn attemptId kind → after.NoColumn attemptId kind

theorem cleared_nil (prunedAt : Int64) (db : Database) : Cleared [] prunedAt db db where
  contents := by
    have hid : ArtifactRow.clearedIn [] prunedAt = id := funext fun row => by
      simp [ArtifactRow.clearedIn]
    rw [List.map_nil, hid, List.map_id]
  columns := fun _ h => by cases h
  shrinks := fun _ _ h => h

theorem nullAttemptRawColumn_after (attemptId kind : String) (s : Connection Database) :
    After (nullAttemptRawColumn attemptId kind) s
      (fun _ t => t.database.artifacts = s.database.artifacts ∧ t.database.NoColumn attemptId kind ∧
        ∀ attemptId kind, s.database.NoColumn attemptId kind → t.database.NoColumn attemptId kind)
      fun _ => True := by
  unfold nullAttemptRawColumn
  split
  case isTrue =>
    refine ((execute_after _ _ s).mono (fun _ t ht => ?_) fun _ _ => trivial)
    rw [← Option.some.inj ht]
    refine ⟨rfl, ?_, ?_⟩
    · intro row hrow hid
      obtain ⟨old, -, rfl⟩ := List.mem_map.mp hrow
      rw [AttemptRow.attemptId_emptied] at hid
      rw [← hid]
      exact old.column_emptied_self kind
    · intro other otherKind hold row hrow hid
      obtain ⟨old, hmem, rfl⟩ := List.mem_map.mp hrow
      rw [AttemptRow.attemptId_emptied] at hid
      rcases old.column_emptied attemptId kind otherKind with hsame | hnone
      · rw [hsame]
        exact hold old hmem hid
      · exact hnone
  case isFalse hother =>
    refine After.pure ⟨rfl, fun row _ _ => ?_, fun _ _ h => h⟩
    simp only [List.contains_cons, Bool.or_eq_true, beq_iff_eq, not_or] at hother
    unfold AttemptRow.column
    rw [if_neg hother.1, if_neg hother.2.1, if_neg hother.2.2.1, if_neg hother.2.2.2.1]

/-- One artifact after the other: each has a content until its turn comes. -/
theorem clearContents_after (prunedAt : Int64) {artifacts : List RawArtifactPointer}
    (hunique : artifacts.Pairwise fun a b => a.artifactId ≠ b.artifactId) (pruned : ℕ)
    (affected : List String) {s : Connection Database}
    (hstored : ∀ artifact ∈ artifacts, ∃ row ∈ s.database.artifacts.table.rows,
      row.artifactId = artifact.artifactId ∧ row.contentText ≠ none) :
    After (clearContents prunedAt pruned affected artifacts) s
      (fun result t => result.2 = affected ++ artifacts.map (·.attemptId) ∧
        Cleared artifacts prunedAt s.database t.database) fun _ => True := by
  induction artifacts generalizing pruned affected s with
  | nil => exact After.pure ⟨(List.append_nil affected).symm, cleared_nil prunedAt s.database⟩
  | cons artifact artifacts ih =>
    obtain ⟨hartifact, hrest⟩ := List.pairwise_cons.mp hunique
    obtain ⟨row, hrow, hid, hcontent⟩ := hstored artifact List.mem_cons_self
    rw [clearContents]
    refine (statement_after _ _ s).weaken.bind fun updated t ht => ?_
    obtain ⟨hupdated, hdb⟩ := Prod.mk.inj (Option.some.inj ht)
    have hpos : 0 < updated := by
      rw [← hupdated]
      exact List.length_pos_of_mem (List.mem_filter.mpr ⟨hrow, decide_eq_true ⟨hid, hcontent⟩⟩)
    rw [if_pos hpos]
    have hrows : t.database.artifacts.table.rows = s.database.artifacts.table.rows.map
        (Artifacts.cleared artifact.artifactId prunedAt) := by
      rw [← hdb]
      rfl
    have hattempts : t.database.attempts = s.database.attempts := by
      rw [← hdb]
    refine (nullAttemptRawColumn_after _ _ t).bind fun _ u hu => ?_
    obtain ⟨hartifacts, hcolumn, hshrinks⟩ := hu
    have hstored' : ∀ other ∈ artifacts, ∃ row ∈ u.database.artifacts.table.rows,
        row.artifactId = other.artifactId ∧ row.contentText ≠ none := by
      intro other hother
      obtain ⟨found, hfound, hfoundId, hfoundContent⟩ :=
        hstored other (List.mem_cons_of_mem artifact hother)
      have hne : found.artifactId ≠ artifact.artifactId := by
        rw [hfoundId]
        exact (hartifact other hother).symm
      have hkept : Artifacts.cleared artifact.artifactId prunedAt found = found :=
        if_neg fun h => hne h.1
      rw [hartifacts, hrows]
      exact ⟨found, List.mem_map.mpr ⟨found, hfound, hkept⟩, hfoundId, hfoundContent⟩
    refine (ih hrest _ _ hstored').mono (fun result v hv => ⟨?_, ?_, ?_, ?_⟩) fun _ h => h
    · rw [hv.1, List.map_cons, List.append_assoc, List.singleton_append]
    · rw [hv.2.contents, hartifacts, hrows, List.map_map]
      exact List.map_congr_left fun row _ => row.clearedIn_cons _ _ _
    · intro other hother
      rcases List.mem_cons.mp hother with rfl | hmem
      · exact hv.2.shrinks _ _ hcolumn
      · exact hv.2.columns other hmem
    · intro attemptId kind hnone
      refine hv.2.shrinks _ _ (hshrinks _ _ ?_)
      unfold Database.NoColumn
      rw [hattempts]
      exact hnone

/-- The chunks of the attempts go, and the other tables stay. -/
theorem deleteChunksForAttempts_after (deleted : ℕ) (attemptIds : List String)
    (s : Connection Database) :
    After (deleteChunksForAttempts deleted attemptIds) s
      (fun _ t => t.database.attempts = s.database.attempts ∧
        t.database.artifacts = s.database.artifacts ∧
        ∀ row ∈ t.database.chunks, row ∈ s.database.chunks ∧ row.attemptId ∉ attemptIds)
      fun _ => True := by
  induction attemptIds generalizing deleted s with
  | nil => exact After.pure ⟨rfl, rfl, fun row hrow => ⟨hrow, List.not_mem_nil⟩⟩
  | cons attemptId attemptIds ih =>
    rw [deleteChunksForAttempts]
    refine (Observes.query _ _ s).weaken.bind fun count t ht => ?_
    refine (execute_after _ _ t).weaken.bind fun _ u hu => ?_
    have hdb : u.database = s.database.deleteChunks (·.attemptId == attemptId) := by
      rw [← ht.1]
      exact (Option.some.inj hu).symm
    refine (ih _ u).mono (fun _ v hv => ?_) fun _ h => h
    rw [hdb] at hv
    refine ⟨hv.1, hv.2.1, fun row hrow => ?_⟩
    obtain ⟨hkept, hnot⟩ := hv.2.2 row hrow
    obtain ⟨hmem, hne⟩ := List.mem_filter.mp hkept
    refine ⟨hmem, fun h => ?_⟩
    rcases List.mem_cons.mp h with heq | htail
    · simp [heq] at hne
    · exact hnot htail

/-! ## What is left -/

/-- **Nothing raw is left of an artifact**: no raw column, chunk or content of its kind at its
attempt. -/
structure Erased (db : Database) (artifact : ArtifactRow) : Prop where
  column : db.NoColumn artifact.attemptId artifact.artifactKind
  chunks : ∀ row ∈ db.chunks, row.attemptId ≠ artifact.attemptId
  contents : ∀ row ∈ db.artifacts.table.rows, row.attemptId = artifact.attemptId →
    row.artifactKind = artifact.artifactKind → row.contentText = none

/-- The rows that have a content afterwards are those that had one and were not cleared. -/
theorem contentArtifacts_of_cleared {db after : Database} {ids : List ℕ} {prunedAt : Int64}
    (h : after.artifacts.table.rows =
      db.artifacts.table.rows.map (ArtifactRow.clearedIn ids prunedAt)) :
    after.contentArtifacts = db.contentArtifacts.filter fun row => row.artifactId ∉ ids := by
  have hkept : ∀ row : ArtifactRow, ((row.clearedIn ids prunedAt).contentText.isSome) =
      (decide (row.artifactId ∉ ids) && row.contentText.isSome) := by
    intro row
    unfold ArtifactRow.clearedIn
    by_cases hid : row.artifactId ∈ ids
    · cases hcontent : row.contentText <;> simp [hid, hcontent]
    · simp [hid]
  have hsame : ∀ row ∈ db.artifacts.table.rows.filter
      (fun row => decide (row.artifactId ∉ ids) && row.contentText.isSome),
      row.clearedIn ids prunedAt = row := by
    intro row hrow
    have hid := (List.mem_filter.mp hrow).2
    rw [Bool.and_eq_true, decide_eq_true_iff] at hid
    exact if_neg fun hin => hid.1 hin.1
  have hrows : after.artifacts.table.rows.filter (·.contentText.isSome) =
      (db.artifacts.table.rows.filter (·.contentText.isSome)).filter
        fun row => row.artifactId ∉ ids := by
    rw [h, List.filter_map, List.filter_filter]
    calc (db.artifacts.table.rows.filter ((·.contentText.isSome) ∘
          ArtifactRow.clearedIn ids prunedAt)).map (ArtifactRow.clearedIn ids prunedAt)
        = (db.artifacts.table.rows.filter fun row =>
            decide (row.artifactId ∉ ids) && row.contentText.isSome).map
              (ArtifactRow.clearedIn ids prunedAt) :=
          congrArg _ (List.filter_congr fun row _ => hkept row)
      _ = (db.artifacts.table.rows.filter fun row =>
            decide (row.artifactId ∉ ids) && row.contentText.isSome).map id :=
          List.map_congr_left hsame
      _ = _ := List.map_id _
  unfold Database.contentArtifacts
  rw [hrows, filter_insertionSort]

/-- No two artifacts with a content have the same id. -/
theorem artifactIds_contentArtifacts (db : Database) :
    db.contentArtifacts.Pairwise fun a b => a.artifactId ≠ b.artifactId :=
  (unique_contentArtifacts db).imp fun hab heq => by simp [sameArtifact, heq] at hab

/-- To go by the ids of the first artifacts is to go by their number. -/
theorem filter_artifactIds_take (db : Database) (count : ℕ) :
    (db.contentArtifacts.filter fun row =>
      row.artifactId ∉ (db.contentArtifacts.take count).map (·.artifactId)) =
        db.contentArtifacts.drop count := by
  have hunique := artifactIds_contentArtifacts db
  generalize db.contentArtifacts = rows at hunique ⊢
  rw [← List.take_append_drop count rows, List.pairwise_append] at hunique
  have htake : (rows.take count).filter
      (fun row => row.artifactId ∉ (rows.take count).map (·.artifactId)) = [] := by
    refine List.filter_eq_nil_iff.mpr fun row hrow => ?_
    have hmem : row.artifactId ∈ (rows.take count).map (·.artifactId) :=
      List.mem_map_of_mem hrow
    simp only [hmem, not_true_eq_false, decide_false, Bool.false_eq_true, not_false_eq_true]
  have hdrop : (rows.drop count).filter
      (fun row => row.artifactId ∉ (rows.take count).map (·.artifactId)) = rows.drop count := by
    refine List.filter_eq_self.mpr fun row hrow => decide_eq_true fun hmem => ?_
    obtain ⟨other, hother, hid⟩ := List.mem_map.mp hmem
    exact hunique.2.2 other hother row hrow hid
  calc rows.filter (fun row => row.artifactId ∉ (rows.take count).map (·.artifactId))
      = (rows.take count ++ rows.drop count).filter
          (fun row => row.artifactId ∉ (rows.take count).map (·.artifactId)) := by
        rw [List.take_append_drop]
    _ = rows.drop count := by rw [List.filter_append, htake, hdrop, List.nil_append]

/-- The artifact of a kind at an attempt is the only one. -/
theorem content_of_cleared {db after : Database} {ids : List ℕ} {prunedAt : Int64}
    (h : after.artifacts.table.rows =
      db.artifacts.table.rows.map (ArtifactRow.clearedIn ids prunedAt)) {artifact : ArtifactRow}
    (hmem : artifact ∈ db.artifacts.table.rows) (hid : artifact.artifactId ∈ ids) :
    ∀ row ∈ after.artifacts.table.rows, row.attemptId = artifact.attemptId →
      row.artifactKind = artifact.artifactKind → row.contentText = none := by
  intro row hrow hattempt hkind
  rw [h] at hrow
  obtain ⟨old, hold, rfl⟩ := List.mem_map.mp hrow
  have hkeys : (old.clearedIn ids prunedAt).attemptId = old.attemptId ∧
      (old.clearedIn ids prunedAt).artifactKind = old.artifactKind := by
    unfold ArtifactRow.clearedIn
    split <;> exact ⟨rfl, rfl⟩
  rw [hkeys.1] at hattempt
  rw [hkeys.2] at hkind
  have hsame : sameArtifact old artifact = true := by simp [sameArtifact, hattempt, hkind]
  have heq := db.artifacts.table.eq_of_conflict sameArtifact_comm hold hmem hsame
  subst heq
  unfold ArtifactRow.clearedIn
  split
  case isTrue => rfl
  case isFalse hnot => exact not_not.mp fun hcontent => hnot ⟨hid, hcontent⟩

/-- The transaction, for the first artifacts. -/
theorem pruneRawArtifactContents_after (count : ℕ) (now : UInt64) (s : Connection Database) :
    After (pruneRawArtifactContents
        ((s.database.contentArtifacts.take count).map ArtifactRow.pointer) now) s
      (fun _ t => t.database.contentArtifacts = s.database.contentArtifacts.drop count ∧
        ∀ row ∈ s.database.contentArtifacts.take count, Erased t.database row)
      fun t => t.database = s.database := by
  unfold pruneRawArtifactContents
  split
  case isTrue hnone =>
    have htake := List.map_eq_nil_iff.mp hnone
    have hdrop := List.take_append_drop count s.database.contentArtifacts
    rw [htake, List.nil_append] at hdrop
    rw [htake, hdrop]
    exact After.pure ⟨rfl, fun row hrow => by cases hrow⟩
  case isFalse =>
    set removed := s.database.contentArtifacts.take count with hremoved
    have hstored : ∀ row ∈ removed, row ∈ s.database.artifacts.table.rows ∧
        row.contentText.isSome = true :=
      fun row hrow => mem_contentArtifacts.mp (List.mem_of_mem_take hrow)
    have hids : (removed.map ArtifactRow.pointer).map (·.artifactId) =
        removed.map (·.artifactId) := List.map_map
    have hattempts : (removed.map ArtifactRow.pointer).map (·.attemptId) =
        removed.map (·.attemptId) := List.map_map
    refine transaction_after (Q := fun _ db =>
      db.contentArtifacts = s.database.contentArtifacts.drop count ∧
        ∀ row ∈ removed, Erased db row) fun start hstart => ?_
    refine (Observes.ofExcept _ start).weaken.bind fun prunedAt t hread => ?_
    have ht : t.database = s.database := hread.1.trans hstart
    refine (clearContents_after prunedAt ?_ 0 [] ?_).bind fun result v hv => ?_
    · exact List.pairwise_map.mpr ((artifactIds_contentArtifacts s.database).sublist
        (List.take_sublist _ _))
    · intro artifact hartifact
      obtain ⟨row, hrow, rfl⟩ := List.mem_map.mp hartifact
      rw [ht]
      exact ⟨row, (hstored row hrow).1, rfl, Option.isSome_iff_ne_none.mp (hstored row hrow).2⟩
    · obtain ⟨haffected, hcleared⟩ := hv
      rw [List.nil_append, hattempts] at haffected
      have hcontents := hcleared.contents
      rw [hids, ht] at hcontents
      refine (deleteChunksForAttempts_after 0 _ v).bind fun chunks w hw => After.pure ⟨?_, ?_⟩
      · have hrows : w.database.artifacts.table.rows = v.database.artifacts.table.rows := by
          rw [hw.2.1]
        rw [contentArtifacts_of_cleared (hrows.trans hcontents), hremoved, filter_artifactIds_take]
      · intro row hrow
        refine ⟨?_, ?_, ?_⟩
        · have hcolumn := hcleared.columns row.pointer (List.mem_map_of_mem hrow)
          unfold Database.NoColumn at hcolumn ⊢
          rw [hw.1]
          exact hcolumn
        · intro chunk hchunk heq
          refine (hw.2.2 chunk hchunk).2 ?_
          rw [List.mem_dedup, List.mem_insertionSort, haffected, heq]
          exact List.mem_map_of_mem hrow
        · rw [hw.2.1]
          exact content_of_cleared hcontents (hstored row hrow).1 (List.mem_map_of_mem hrow)

theorem readContentRawArtifacts_observes : Observes readContentRawArtifacts fun artifacts db =>
    artifacts = db.contentArtifacts.map ArtifactRow.pointer := by
  refine ((Observes.prepare _).bind fun _ => (Observes.prepare _).bind fun _ =>
    Observes.query _ _).mono fun artifacts db h => ?_
  obtain ⟨-, -, -, -, hread⟩ := h
  exact (Option.some.inj hread).symm

/-- Every run, whether its statements fail or not. -/
theorem enforceRawArtifactRetention_after (config : EvidenceConfig) (now prunedAt : UInt64)
    (s : Connection Database) :
    After (enforceRawArtifactRetention config now prunedAt) s
      (fun _ t => ∃ count,
        IsLeast {k | Fits config.pairedComparison now (s.database.contentArtifacts.drop k)} count ∧
          t.database.contentArtifacts = s.database.contentArtifacts.drop count ∧
          ∀ row ∈ s.database.contentArtifacts.take count, Erased t.database row)
      fun t => t.database = s.database := by
  obtain ⟨count, hleast, hprune⟩ :=
    artifactsToPrune_least config.pairedComparison now s.database
  refine (Observes.prepare _ s).bind fun _ t ht => ?_
  refine ((readContentRawArtifacts_observes t).mono (fun _ _ h => h) fun u hu => hu.trans ht.1).bind
    fun artifacts u hu => ?_
  obtain ⟨hdb, rfl⟩ := hu
  rw [ht.1] at hdb ⊢
  split
  case isTrue hempty =>
    have hnil : s.database.contentArtifacts = [] := by simpa using hempty
    refine After.pure ⟨count, hleast, ?_, fun row hrow => ?_⟩
    · rw [hdb, hnil, List.drop_nil]
    · rw [hnil, List.take_nil] at hrow
      cases hrow
  case isFalse =>
    rw [hprune, ← hdb]
    rw [← hdb] at hleast
    exact (pruneRawArtifactContents_after count prunedAt u).mono
      (fun _ v hv => ⟨count, hleast, hv⟩) fun _ hv => hv

/-! ## Success -/

theorem nullAttemptRawColumn_succeeds (attemptId kind : String) :
    Succeeds (nullAttemptRawColumn attemptId kind) := by
  unfold nullAttemptRawColumn
  split
  · exact Succeeds.execute fun db : Database => db.nullRawColumn attemptId kind
  · exact Succeeds.pure ()

theorem clearContents_succeeds (prunedAt : Int64) (pruned : ℕ) (affected : List String)
    (artifacts : List RawArtifactPointer) :
    Succeeds (clearContents prunedAt pruned affected artifacts) := by
  induction artifacts generalizing pruned affected with
  | nil => exact Succeeds.pure _
  | cons artifact artifacts ih =>
    refine (Succeeds.statement fun db : Database =>
      db.clearArtifact artifact.artifactId prunedAt).bind fun updated => ?_
    split
    · exact (nullAttemptRawColumn_succeeds _ _).bind fun _ => ih _ _
    · exact ih _ _

theorem deleteChunksForAttempts_succeeds (deleted : ℕ) (attemptIds : List String) :
    Succeeds (deleteChunksForAttempts deleted attemptIds) := by
  induction attemptIds generalizing deleted with
  | nil => exact Succeeds.pure _
  | cons attemptId attemptIds ih =>
    refine (Succeeds.query fun db : Database => db.chunks.countP (·.attemptId == attemptId)).bind
      fun count => ?_
    exact (Succeeds.execute fun db : Database => db.deleteChunks (·.attemptId == attemptId)).bind
      fun _ => ih _

theorem enforceRawArtifactRetention_succeeds (config : EvidenceConfig) (now : UInt64)
    {prunedAt : UInt64} (h : prunedAt.toNat < 2 ^ 63) :
    Succeeds (enforceRawArtifactRetention config now prunedAt) := by
  refine (Succeeds.prepare _).bind fun _ => ((Succeeds.prepare _).bind fun _ =>
    (Succeeds.prepare _).bind fun _ => Succeeds.query _).bind fun artifacts => ?_
  split
  case isTrue => exact Succeeds.pure _
  case isFalse =>
    unfold pruneRawArtifactContents
    split
    case isTrue => exact Succeeds.pure _
    case isFalse =>
      refine Succeeds.transaction ((Succeeds.ofExcept (if_pos h)).bind fun prunedAt => ?_)
      refine (clearContents_succeeds _ _ _ _).bind fun result => ?_
      exact (deleteChunksForAttempts_succeeds _ _).bind fun _ => Succeeds.pure _

/-- **Raw-artifact retention keeps the newest artifacts that fit.**  It removes the contents of the
shortest prefix, in the order of creation, whose rest is within the limits, and nothing raw is left of
what it removes.  It fails only when a statement does or the clock is out of range, and then nothing
has changed. -/
theorem rawRetention_least (config : EvidenceConfig) (now prunedAt : UInt64) (db : Database)
    (failures : List Bool) :
    match enforceRawArtifactRetention config now prunedAt ⟨db, failures⟩ with
    | (.ok _, after) => ∃ count,
        IsLeast {k | Fits config.pairedComparison now (db.contentArtifacts.drop k)} count ∧
          after.database.contentArtifacts = db.contentArtifacts.drop count ∧
          ∀ artifact ∈ db.contentArtifacts.take count, Erased after.database artifact
    | (.error _, after) =>
        after.database = db ∧ (true ∈ failures ∨ 2 ^ 63 ≤ prunedAt.toNat) := by
  have hafter := enforceRawArtifactRetention_after config now prunedAt ⟨db, failures⟩
  unfold After at hafter
  split at hafter
  case h_1 result after hrun =>
    rw [hrun]
    exact hafter
  case h_2 error after hrun =>
    rw [hrun]
    refine ⟨hafter, ?_⟩
    by_contra hnone
    push Not at hnone
    obtain ⟨value, t, hok, -⟩ :=
      enforceRawArtifactRetention_succeeds config now hnone.2 ⟨db, failures⟩ hnone.1
    rw [hrun] at hok
    cases (Prod.mk.inj hok).1

end LlmGuardProxy.Evidence
