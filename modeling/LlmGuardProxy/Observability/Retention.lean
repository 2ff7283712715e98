import LlmGuardProxy.Observability.Cache
import LlmGuardProxy.Settings.Config
import Mathlib.Order.Bounds.Defs

/-!
# Observability/Retention — the counters of the triggers and what retention removes

The counting triggers are compared with the rows of the tables, over every run of the store, and the
requests that a call prunes with the order that pruning goes by.

* `Exact` — the counters are those of the rows, and every attempt has its request.
* `retained` — what is left when the oldest requests go with their attempts.
* `pruneLoop_least` — the loop removes the fewest requests after which the rest fits.
* `retention_holds` — every call of every run.
-/

namespace LlmGuardProxy.Observability

open Machinery Fallible

/-! ## Counters -/

/-- The bytes that requests are charged with. -/
def requestBytes (rows : List PreparedRequest) : ℤ := (rows.map (·.estimatedBytes.toInt)).sum

/-- The bytes that attempts are charged with. -/
def attemptBytes (rows : List PreparedAttempt) : ℤ := (rows.map (·.estimatedBytes.toInt)).sum

/-- **The counters are those of the rows.**  Beside them, what SQLite and the estimates see to: an
attempt has its request, and no row is charged with less than nothing. -/
structure Exact (db : Database) : Prop where
  requestCount : db.stats.requestCount = db.requests.rows.length
  attemptCount : db.stats.attemptCount = db.attempts.rows.length
  logicalBytes : db.stats.logicalBytes =
    requestBytes db.requests.rows + attemptBytes db.attempts.rows
  parents : ∀ attempt ∈ db.attempts.rows, ∃ request ∈ db.requests.rows,
    request.requestId = attempt.requestId
  requests_nonneg : ∀ row ∈ db.requests.rows, 0 ≤ row.estimatedBytes.toInt
  attempts_nonneg : ∀ row ∈ db.attempts.rows, 0 ≤ row.estimatedBytes.toInt

theorem exact_empty : Exact {} where
  requestCount := rfl
  attemptCount := rfl
  logicalBytes := rfl
  parents := fun _ h => by cases h
  requests_nonneg := fun _ h => by cases h
  attempts_nonneg := fun _ h => by cases h

theorem foldl_attemptDeleted (rows : List PreparedAttempt) (stats : RetentionStatsRow) :
    rows.foldl RetentionStatsRow.attemptDeleted stats =
      { stats with
        attemptCount := stats.attemptCount - rows.length
        logicalBytes := stats.logicalBytes - attemptBytes rows } := by
  induction rows generalizing stats with
  | nil => simp [attemptBytes]
  | cons row rows ih =>
    rw [List.foldl_cons, ih, RetentionStatsRow.attemptDeleted]
    simp [attemptBytes, sub_sub, add_comm]

theorem foldl_requestDeleted (rows : List PreparedRequest) (stats : RetentionStatsRow) :
    rows.foldl RetentionStatsRow.requestDeleted stats =
      { stats with
        requestCount := stats.requestCount - rows.length
        logicalBytes := stats.logicalBytes - requestBytes rows } := by
  induction rows generalizing stats with
  | nil => simp [requestBytes]
  | cons row rows ih =>
    rw [List.foldl_cons, ih, RetentionStatsRow.requestDeleted]
    simp [requestBytes, sub_sub, add_comm]

namespace Exact

variable {db : Database}

/-- The upsert fires the trigger for an insertion or the one for an update. -/
theorem upsertRequest (h : Exact db) {row : PreparedRequest} {after : Database}
    (hafter : db.upsertRequest row = some after) (hrow : 0 ≤ row.estimatedBytes.toInt) :
    Exact after := by
  obtain ⟨requests, hrequests, rfl⟩ := Option.map_eq_some_iff.mp hafter
  have hrows := Table.rows_upsert hrequests
  have hbytes := Table.sum_upsert (fun r : PreparedRequest => r.estimatedBytes.toInt) hrequests
  have hlogical := h.logicalBytes
  constructor
  case requestCount =>
    have hlength := Table.length_upsert hrequests
    have hcount := h.requestCount
    dsimp only
    cases hfind : db.requests.rows.find? (sameRequest row) with
    | none =>
      rw [hfind, Option.elim_none] at hlength
      simp only [RetentionStatsRow.requestInserted]
      omega
    | some old =>
      rw [hfind, Option.elim_some] at hlength
      simp only [RetentionStatsRow.requestUpdated]
      omega
  case attemptCount =>
    dsimp only
    cases db.requests.rows.find? (sameRequest row) with
    | none => exact h.attemptCount
    | some old => exact h.attemptCount
  case logicalBytes =>
    dsimp only
    unfold requestBytes at hlogical ⊢
    cases hfind : db.requests.rows.find? (sameRequest row) with
    | none =>
      rw [hfind, Option.elim_none] at hbytes
      simp only [RetentionStatsRow.requestInserted]
      omega
    | some old =>
      rw [hfind, Option.elim_some] at hbytes
      simp only [RetentionStatsRow.requestUpdated]
      omega
  case parents =>
    intro attempt hattempt
    obtain ⟨request, hrequest, hid⟩ := h.parents attempt hattempt
    have hmem : request ∈ (requests.rows : Multiset PreparedRequest) + db.requests.replaced row := by
      rw [hrows, Multiset.mem_cons]
      exact .inr hrequest
    rcases Multiset.mem_add.mp hmem with hkept | hgone
    · exact ⟨request, hkept, hid⟩
    · have hsame : row.requestId = request.requestId := beq_iff_eq.mp (List.mem_filter.mp hgone).2
      exact ⟨row, Table.mem_of_upsert hrequests, hsame.trans hid⟩
  case requests_nonneg =>
    intro r hr
    rcases Table.mem_upsert hrequests hr with rfl | hold
    · exact hrow
    · exact h.requests_nonneg r hold
  case attempts_nonneg => exact h.attempts_nonneg

/-- The replacement fires the trigger for a deletion once for each row it takes away. -/
theorem replaceAttempt (h : Exact db) {row : PreparedAttempt} {after : Database}
    (hafter : db.replaceAttempt row = some after) (hrow : 0 ≤ row.estimatedBytes.toInt) :
    Exact after := by
  unfold Database.replaceAttempt at hafter
  split at hafter
  case isFalse => cases hafter
  case isTrue hparent =>
    obtain ⟨attempts, hattempts, rfl⟩ := Option.map_eq_some_iff.mp hafter
    have hrows := Table.rows_insertOrReplace hattempts
    have hlength := Table.length_of_rows hrows
    have hbytes := Table.sum_of_rows (fun a : PreparedAttempt => a.estimatedBytes.toInt) hrows
    have hmem : ∀ a ∈ attempts.rows, a = row ∨ a ∈ db.attempts.rows := by
      intro a ha
      have hiff : a ∈ attempts.rows ∨ a ∈ db.attempts.replaced row ↔
          a = row ∨ a ∈ db.attempts.rows := by
        have := congrArg (a ∈ ·) hrows
        simpa using this
      exact hiff.mp (.inl ha)
    have hcount := h.attemptCount
    have hlogical := h.logicalBytes
    constructor
    case requestCount =>
      rw [foldl_attemptDeleted]
      exact h.requestCount
    case attemptCount =>
      rw [foldl_attemptDeleted]
      simp only [RetentionStatsRow.attemptInserted]
      omega
    case logicalBytes =>
      rw [foldl_attemptDeleted]
      unfold attemptBytes at hlogical ⊢
      simp only [RetentionStatsRow.attemptInserted]
      omega
    case parents =>
      intro a ha
      rcases hmem a ha with rfl | hold
      · obtain ⟨request, hrequest, hid⟩ := List.any_eq_true.mp hparent
        exact ⟨request, hrequest, beq_iff_eq.mp hid⟩
      · exact h.parents a hold
    case requests_nonneg => exact h.requests_nonneg
    case attempts_nonneg =>
      intro a ha
      rcases hmem a ha with rfl | hold
      · exact hrow
      · exact h.attempts_nonneg a hold

/-- The deletion of a request fires a trigger for it and for each of its attempts. -/
theorem deleteRequest (h : Exact db) (requestId : String) : Exact (db.deleteRequest requestId) := by
  have hrequests := Table.sum_filter_add (fun r : PreparedRequest => r.estimatedBytes.toInt)
    (·.requestId == requestId) db.requests.rows
  have hattempts := Table.sum_filter_add (fun a : PreparedAttempt => a.estimatedBytes.toInt)
    (·.requestId == requestId) db.attempts.rows
  have hrequestsLength := (List.filter_append_perm (fun r : PreparedRequest =>
    r.requestId == requestId) db.requests.rows).length_eq
  have hattemptsLength := (List.filter_append_perm (fun a : PreparedAttempt =>
    a.requestId == requestId) db.attempts.rows).length_eq
  rw [List.length_append] at hrequestsLength hattemptsLength
  have hrequestCount := h.requestCount
  have hattemptCount := h.attemptCount
  have hlogical := h.logicalBytes
  unfold Database.deleteRequest
  rw [foldl_requestDeleted, foldl_attemptDeleted]
  constructor
  case requestCount =>
    simp only [Table.delete]
    omega
  case attemptCount =>
    simp only [Table.delete]
    omega
  case logicalBytes =>
    unfold requestBytes attemptBytes at hlogical ⊢
    simp only [Table.delete]
    omega
  case parents =>
    intro attempt hattempt
    obtain ⟨hmem, hkept⟩ := List.mem_filter.mp hattempt
    obtain ⟨request, hrequest, hid⟩ := h.parents attempt hmem
    refine ⟨request, List.mem_filter.mpr ⟨hrequest, ?_⟩, hid⟩
    dsimp only
    rw [hid]
    exact hkept
  case requests_nonneg => exact fun row hrow => h.requests_nonneg row (List.mem_of_mem_filter hrow)
  case attempts_nonneg => exact fun row hrow => h.attempts_nonneg row (List.mem_of_mem_filter hrow)

theorem pageCount (h : Exact db) (pageCount : Int64) : Exact { db with pageCount := pageCount } :=
  ⟨h.requestCount, h.attemptCount, h.logicalBytes, h.parents, h.requests_nonneg, h.attempts_nonneg⟩

theorem countPruning (h : Exact db) (requests attempts : ℕ) (now : Int64) :
    Exact (db.countPruning requests attempts now) :=
  ⟨h.requestCount, h.attemptCount, h.logicalBytes, h.parents, h.requests_nonneg, h.attempts_nonneg⟩

end Exact

/-! ## Order -/

/-- The order of pruning: by start, then by id. -/
abbrev startedBefore (a b : PreparedRequest) : Prop :=
  a.startedAtUnixMs < b.startedAtUnixMs ∨
    (a.startedAtUnixMs = b.startedAtUnixMs ∧ a.requestId ≤ b.requestId)

theorem startedBefore_iff (a b : PreparedRequest) : startedBefore a b ↔
    a.startedAtUnixMs.toInt < b.startedAtUnixMs.toInt ∨
      (a.startedAtUnixMs.toInt = b.startedAtUnixMs.toInt ∧ a.requestId ≤ b.requestId) := by
  simp only [startedBefore, Int64.lt_iff_toInt_lt, ← Int64.toInt_inj]

instance : Std.Total startedBefore := total_of_columns startedBefore_iff

instance : IsTrans PreparedRequest startedBefore := isTrans_of_columns startedBefore_iff

/-- The requests, oldest first. -/
def requestsInOrder (db : Database) : List PreparedRequest :=
  db.requests.rows.insertionSort startedBefore

theorem perm_requestsInOrder (db : Database) : (requestsInOrder db).Perm db.requests.rows :=
  List.perm_insertionSort _ _

/-- No two requests in order have the same id. -/
theorem unique_requestsInOrder (db : Database) :
    (requestsInOrder db).Pairwise fun a b => a.requestId ≠ b.requestId := by
  have hunique : db.requests.rows.Pairwise fun a b => a.requestId ≠ b.requestId :=
    db.requests.unique.imp fun hab heq => by simp [sameRequest, heq] at hab
  exact hunique.perm (perm_requestsInOrder db).symm fun hab => hab.symm

/-- **The oldest request is deleted**: the order goes on with the next. -/
theorem requestsInOrder_deleteRequest {db : Database} {oldest : PreparedRequest}
    {rest : List PreparedRequest} (h : requestsInOrder db = oldest :: rest) :
    requestsInOrder (db.deleteRequest oldest.requestId) = rest := by
  have hunique := unique_requestsInOrder db
  rw [h] at hunique
  have hrest := (List.pairwise_cons.mp hunique).1
  calc requestsInOrder (db.deleteRequest oldest.requestId)
      = (requestsInOrder db).filter fun row => !row.requestId == oldest.requestId :=
        filter_insertionSort startedBefore _ _
    _ = rest.filter fun row => !row.requestId == oldest.requestId := by
        rw [h, List.filter_cons_of_neg (by simp)]
    _ = rest := List.filter_eq_self.mpr fun row hrow => by simpa using (hrest row hrow).symm

/-! ## What is retained -/

/-- The requests and attempts of a store. -/
structure Retained where
  requests : List PreparedRequest
  attempts : List PreparedAttempt

/-- What is left when the `count` oldest requests go, and their attempts with them. -/
def retained (db : Database) (count : ℕ) : Retained where
  requests := (requestsInOrder db).drop count
  attempts := db.attempts.rows.filter fun attempt =>
    ((requestsInOrder db).drop count).any (·.requestId == attempt.requestId)

/-- What is retained is within a number of records and a number of bytes. -/
def Retained.Fits (kept : Retained) (records bytes : ℕ) : Prop :=
  kept.requests.length + kept.attempts.length ≤ records ∧
    requestBytes kept.requests + attemptBytes kept.attempts ≤ bytes

/-- One deletion and so many more. -/
theorem retained_deleteRequest {db : Database} {oldest : PreparedRequest}
    {rest : List PreparedRequest} (h : requestsInOrder db = oldest :: rest) (count : ℕ) :
    retained (db.deleteRequest oldest.requestId) count = retained db (count + 1) := by
  have hunique := unique_requestsInOrder db
  rw [h] at hunique
  have hrest := (List.pairwise_cons.mp hunique).1
  unfold retained
  rw [requestsInOrder_deleteRequest h, h, List.drop_succ_cons]
  congr 1
  simp only [Database.deleteRequest, Table.delete, List.filter_filter]
  refine List.filter_congr fun attempt _ => ?_
  by_cases hany : (rest.drop count).any (·.requestId == attempt.requestId) = true
  · obtain ⟨request, hrequest, hid⟩ := List.any_eq_true.mp hany
    have hne := hrest request (List.mem_of_mem_drop hrequest)
    rw [beq_iff_eq.mp hid] at hne
    simp [hany, hne.symm]
  · simp [hany]

/-- Nothing is deleted. -/
theorem retained_zero {db : Database} (h : Exact db) :
    retained db 0 = ⟨requestsInOrder db, db.attempts.rows⟩ := by
  unfold retained
  rw [List.drop_zero, List.filter_eq_self.mpr]
  intro attempt hattempt
  obtain ⟨request, hrequest, hid⟩ := h.parents attempt hattempt
  exact List.any_eq_true.mpr
    ⟨request, (perm_requestsInOrder db).mem_iff.mpr hrequest, beq_iff_eq.mpr hid⟩

theorem readI64_toNat {value : ℤ} {read : UInt64} (h : readI64 value = some read) (hvalue : 0 ≤ value) :
    (read.toNat : ℤ) = value ∧ read.toNat < 2 ^ 63 := by
  unfold readI64 at h
  split at h
  case isFalse => cases h
  case isTrue hrange =>
    obtain rfl := Option.some.inj h
    have hsmall : value.toNat < 2 ^ 63 := by omega
    rw [UInt64.toNat_ofNat_of_lt' (hsmall.trans (by decide))]
    exact ⟨Int.toNat_of_nonneg hvalue, hsmall⟩

theorem Exact.logicalBytes_nonneg {db : Database} (h : Exact db) : 0 ≤ db.stats.logicalBytes := by
  rw [h.logicalBytes]
  refine add_nonneg (List.sum_nonneg ?_) (List.sum_nonneg ?_)
  · exact List.forall_mem_map.mpr h.requests_nonneg
  · exact List.forall_mem_map.mpr h.attempts_nonneg

/-- What the counters are read as. -/
theorem Exact.usage {db : Database} (h : Exact db) {usage : RetentionUsage}
    (husage : usageOf db = some usage) :
    usage.recordCount = db.requests.rows.length + db.attempts.rows.length := by
  obtain ⟨requestCount, hrequests, hrest⟩ := Option.bind_eq_some_iff.mp husage
  obtain ⟨attemptCount, hattempts, rfl⟩ := Option.map_eq_some_iff.mp hrest
  rw [h.requestCount] at hrequests
  rw [h.attemptCount] at hattempts
  obtain ⟨hrequestsEq, hrequestsLt⟩ := readI64_toNat hrequests (Int.natCast_nonneg _)
  obtain ⟨hattemptsEq, hattemptsLt⟩ := readI64_toNat hattempts (Int.natCast_nonneg _)
  dsimp only
  rw [saturatingAdd_of_le (by unfold u64Max; omega)]
  omega

theorem Exact.bytes {db : Database} (h : Exact db) {logicalBytes : UInt64}
    (hbytes : readI64 db.stats.logicalBytes = some logicalBytes) :
    (logicalBytes.toNat : ℤ) = requestBytes db.requests.rows + attemptBytes db.attempts.rows := by
  rw [← h.logicalBytes]
  exact (readI64_toNat hbytes h.logicalBytes_nonneg).1

/-- The rows fit, and their number and bytes are those of what is retained when nothing goes. -/
theorem fits_zero {db : Database} (h : Exact db) (records bytes : ℕ) :
    (retained db 0).Fits records bytes ↔
      db.requests.rows.length + db.attempts.rows.length ≤ records ∧
        requestBytes db.requests.rows + attemptBytes db.attempts.rows ≤ bytes := by
  have hperm := perm_requestsInOrder db
  have hsum : requestBytes (requestsInOrder db) = requestBytes db.requests.rows :=
    (hperm.map _).sum_eq
  rw [retained_zero h, Retained.Fits, hperm.length_eq, hsum]

/-- **The condition of the loops**: the counters are over the target when the rows are. -/
theorem over_iff {db : Database} (h : Exact db) {usage : RetentionUsage} {logicalBytes : UInt64}
    (husage : usageOf db = some usage) (hbytes : readI64 db.stats.logicalBytes = some logicalBytes)
    (records bytes : ℕ) : (usage.recordCount > records ∨ logicalBytes.toNat > bytes) ↔
      ¬ (retained db 0).Fits records bytes := by
  rw [fits_zero h, h.usage husage, ← h.bytes hbytes]
  omega

/-! ## Pruning -/

/-- The oldest requests are gone, and no more than it takes for the rest to fit. -/
def Trimmed (records bytes : ℕ) (before after : Database) : Prop :=
  Exact after ∧ ∃ count, retained after 0 = retained before count ∧
    ∀ fewer < count, ¬ (retained before fewer).Fits records bytes

/-- **The fewest oldest requests are gone after which the rest fits.** -/
def Pruned (records bytes : ℕ) (before after : Database) : Prop :=
  Exact after ∧ ∃ count, retained after 0 = retained before count ∧
    IsLeast {enough | (retained before enough).Fits records bytes} count

section

variable {records bytes : ℕ} {before after : Database}

theorem Pruned.trimmed (h : Pruned records bytes before after) : Trimmed records bytes before after := by
  obtain ⟨hexact, count, hsame, -, hleast⟩ := h
  exact ⟨hexact, count, hsame, fun fewer hlt hfits => absurd (hleast hfits) (Nat.not_le.mpr hlt)⟩

theorem Pruned.fits (h : Pruned records bytes before after) :
    (retained after 0).Fits records bytes := by
  obtain ⟨-, count, hsame, hfits, -⟩ := h
  rw [hsame]
  exact hfits

theorem Trimmed.refl (h : Exact before) : Trimmed records bytes before before :=
  ⟨h, 0, rfl, fun _ hlt => absurd hlt (Nat.not_lt_zero _)⟩

theorem Pruned.refl (h : Exact before) (hfits : (retained before 0).Fits records bytes) :
    Pruned records bytes before before := ⟨h, 0, rfl, hfits, fun _ _ => Nat.zero_le _⟩

/-- One more request, when without it the rest does not fit. -/
theorem Pruned.deleteRequest {oldest : PreparedRequest} {rest : List PreparedRequest}
    (horder : requestsInOrder before = oldest :: rest)
    (hover : ¬ (retained before 0).Fits records bytes)
    (h : Pruned records bytes (before.deleteRequest oldest.requestId) after) :
    Pruned records bytes before after := by
  obtain ⟨hexact, count, hsame, hfits, hleast⟩ := h
  rw [retained_deleteRequest horder] at hsame
  refine ⟨hexact, count + 1, hsame, ?_, ?_⟩
  · rw [Set.mem_ofPred_eq, ← retained_deleteRequest horder]
    exact hfits
  · intro enough henough
    cases enough with
    | zero => exact absurd henough hover
    | succ enough =>
      rw [Set.mem_ofPred_eq, ← retained_deleteRequest horder] at henough
      exact Nat.succ_le_succ (hleast henough)

/-- A store without requests fits. -/
theorem fits_of_no_requests (h : Exact before) (hnone : requestsInOrder before = []) :
    (retained before 0).Fits records bytes := by
  have hattempts : before.attempts.rows = [] := by
    refine List.eq_nil_iff_forall_not_mem.mpr fun attempt hattempt => ?_
    obtain ⟨request, hrequest, -⟩ := h.parents attempt hattempt
    have hmem := (perm_requestsInOrder before).mem_iff.mpr hrequest
    rw [hnone] at hmem
    cases hmem
  rw [retained_zero h, hnone, hattempts]
  exact ⟨Nat.zero_le _, Int.natCast_nonneg _⟩

end

theorem observes_oldest : Observes oldestRequestId fun oldest db =>
    oldest = (requestsInOrder db).head?.map (·.requestId) := by
  refine ((Observes.prepare _).bind fun _ => (Observes.prepare _).bind fun _ =>
    (Observes.prepare _).bind fun _ => Observes.query _ _).mono ?_
  rintro oldest db ⟨-, -, -, -, -, -, h⟩
  exact (Option.some.inj h).symm

theorem observes_bytes : Observes readLogicalObservedBytes fun logicalBytes db =>
    readI64 db.stats.logicalBytes = some logicalBytes := Observes.query _ _

section

variable {codec : MetadataCodec} (records bytes : ℕ)

/-- **The pruning loop** deletes the oldest request as long as the rest does not fit. -/
theorem pruneLoop_least : ∀ (turns : ℕ) (outcome : RetentionPruneOutcome) {usage : RetentionUsage}
    {logicalBytes : UInt64} {s : Session}, Exact s.database → usageOf s.database = some usage →
    readI64 s.database.stats.logicalBytes = some logicalBytes →
    s.database.requests.rows.length < turns →
    After (pruneLoop codec records bytes turns outcome usage logicalBytes) s
      (fun _ t => Pruned records bytes s.database t.database) fun _ => True := by
  intro turns
  induction turns with
  | zero => exact fun _ _ _ _ _ _ _ hturns => absurd hturns (Nat.not_lt_zero _)
  | succ turns ih =>
    intro outcome usage logicalBytes s hexact husage hbytes hturns
    have hover := over_iff hexact husage hbytes records bytes
    unfold pruneLoop
    split_ifs with hcond
    case neg => exact Pruned.refl hexact (not_not.mp (mt hover.mpr hcond))
    refine (observes_oldest s).weaken.bind fun oldest t ht => ?_
    obtain ⟨hsame, holdest⟩ := ht
    cases horder : requestsInOrder s.database with
    | nil =>
      exact absurd (fits_of_no_requests hexact horder) (hover.mp hcond)
    | cons first rest =>
      obtain rfl : oldest = some first.requestId := by rw [holdest, horder]; rfl
      refine (observes_request first.requestId t).weaken.bind fun request u hu => ?_
      refine (observes_attempts _ _ u).weaken.bind fun attempts v hv => ?_
      refine (execute_after _ _ v).weaken.bind ?_
      rintro - w ⟨db, hdb, pageCount, hw⟩
      refine (observes_usage w).weaken.bind fun usage' w₁ hw₁ => ?_
      refine (observes_bytes w₁).weaken.bind fun logicalBytes' w₂ hw₂ => ?_
      have hdeleted : w.database =
          { s.database.deleteRequest first.requestId with pageCount := pageCount } := by
        rw [hw, ← Option.some.inj hdb, hv.1, hu.1, hsame]
      have hw₂db : w₂.database = w.database := hw₂.1.trans hw₁.1
      have hfewer : w₂.database.requests.rows.length < turns := by
        have hmem := (perm_requestsInOrder s.database).mem_iff.mp (horder ▸ List.mem_cons_self)
        have := length_deleteRequest_lt ⟨first, hmem, rfl⟩
        rw [hw₂db, hdeleted]
        dsimp only
        omega
      have hexact' : Exact w₂.database := by
        rw [hw₂db, hdeleted]
        exact (hexact.deleteRequest first.requestId).pageCount pageCount
      refine (ih _ hexact' ?_ ?_ hfewer).mono (fun _ x hx => ?_) fun _ h => h
      · rw [hw₂db]
        exact hw₁.2
      · rw [hw₂.1]
        exact hw₂.2
      · rw [hw₂db, hdeleted] at hx
        exact Pruned.deleteRequest horder (hover.mp hcond) hx

/-- A batch of the pruning prunes, or leaves everything as it was. -/
theorem pruneRetainedRows_least {s : Session} (h : Exact s.database) :
    After (pruneRetainedRows codec records bytes) s
      (fun _ t => Pruned records bytes s.database t.database) (fun t => t.database = s.database) := by
  refine transaction_after (Q := fun _ db => Pruned records bytes s.database db)
    (fun _ db pageCount hdb => ⟨hdb.1.pageCount pageCount, hdb.2⟩) fun t ht => ?_
  refine (observes_usage t).weaken.bind fun usage u hu => ?_
  refine (observes_bytes u).weaken.bind fun logicalBytes v hv => ?_
  have hv' : v.database = s.database := hv.1.trans (hu.1.trans ht)
  rw [← hv']
  refine pruneLoop_least records bytes _ {} (hv' ▸ h) ?_ ?_ (Nat.lt_succ_self _)
  · rw [hv.1, hu.1]
    exact hu.2
  · rw [hv.1]
    exact hv.2

/-- **The loop of the enforcement** ends after one batch. -/
theorem enforceLoop_least (turns : ℕ) (outcome : RetentionPruneOutcome) {usage : RetentionUsage}
    {logicalBytes : UInt64} {s : Session} (hexact : Exact s.database)
    (husage : usageOf s.database = some usage)
    (hbytes : readI64 s.database.stats.logicalBytes = some logicalBytes) :
    After (enforceLoop codec records bytes (turns + 1) outcome usage logicalBytes) s
      (fun _ t => Pruned records bytes s.database t.database)
      (fun t => Trimmed records bytes s.database t.database) := by
  have hover := over_iff hexact husage hbytes records bytes
  unfold enforceLoop
  split_ifs with hcond
  case neg => exact Pruned.refl hexact (not_not.mp (mt hover.mpr hcond))
  refine ((pruneRetainedRows_least records bytes hexact).mono (fun _ _ hq => hq) fun t ht => ?_).bind
    fun batch t ht => ?_
  · rw [ht]
    exact Trimmed.refl hexact
  split_ifs
  case pos => exact ht
  refine ((observes_usage t).mono (fun _ _ hq => hq) fun u hu => ?_).bind fun usage' u hu => ?_
  · rw [hu]
    exact ht.trimmed
  refine ((observes_bytes u).mono (fun _ _ hq => hq) fun v hv => ?_).bind fun bytes' v hv => ?_
  · rw [hv, hu.1]
    exact ht.trimmed
  have hv' : v.database = t.database := hv.1.trans hu.1
  have hpruned : Pruned records bytes s.database v.database := hv'.symm ▸ ht
  split_ifs
  case pos => exact hpruned
  cases turns with
  | zero => exact hpruned
  | succ turns =>
    have hexact' : Exact v.database := hpruned.1
    have husage' : usageOf v.database = some usage' := by
      rw [hv']
      exact hu.2
    have hbytes' : readI64 v.database.stats.logicalBytes = some bytes' := by
      rw [hv.1]
      exact hv.2
    have hfits := (over_iff hexact' husage' hbytes' records bytes).not.mpr (not_not.mpr hpruned.fits)
    unfold enforceLoop
    rw [if_neg hfits]
    exact hpruned

end

/-! ## Limits -/

/-- `RetentionConfig::validate`. -/
def RetentionConfig.validate (retention : RetentionConfig) : Except ConfigError Unit := do
  require (0 < retention.maxBytes) "observability.retention.max_bytes" "must be greater than zero"
  require (0 < retention.pruneToBytes) "observability.retention.prune_to_bytes"
    "must be greater than zero"
  require (retention.pruneToBytes ≤ retention.maxBytes) "observability.retention.prune_to_bytes"
    "must be less than or equal to max_bytes"
  require (0 < retention.maxRecords) "observability.retention.max_records"
    "must be greater than zero"
  match retention.pruneToRecords with
  | none => .ok ()
  | some pruneToRecords => do
      require (0 < pruneToRecords) "observability.retention.prune_to_records"
        "must be greater than zero"
      require (pruneToRecords ≤ retention.maxRecords) "observability.retention.prune_to_records"
        "must be less than or equal to max_records"

/-- The number of records that the enforcement prunes to, for the rows that are there. -/
def RetentionConfig.targetRecords (retention : RetentionConfig) (db : Database) : ℕ :=
  if db.requests.rows.length + db.attempts.rows.length > retention.maxRecords.toNat then
    retention.effectivePruneToRecords
  else retention.maxRecords.toNat

/-- The bytes that the enforcement prunes to, for the rows that are there. -/
def RetentionConfig.targetBytes (retention : RetentionConfig) (db : Database) : ℕ :=
  if requestBytes db.requests.rows + attemptBytes db.attempts.rows > retention.maxBytes.toNat then
    retention.pruneToBytes.toNat
  else retention.maxBytes.toNat

theorem defaultPruneToRecords_le {maxRecords : ℕ} (h : 0 < maxRecords) :
    defaultPruneToRecords maxRecords ≤ maxRecords := by
  unfold defaultPruneToRecords
  dsimp only
  split_ifs <;> omega

/-- **Targets are within the limits** that were validated. -/
theorem RetentionConfig.targets_le {retention : RetentionConfig} (h : retention.validate = .ok ())
    (db : Database) : retention.targetRecords db ≤ retention.maxRecords.toNat ∧
      retention.targetBytes db ≤ retention.maxBytes.toNat := by
  simp only [RetentionConfig.validate, require_bind_eq_ok, decide_eq_true_eq] at h
  obtain ⟨-, -, hbytes, hpositive, hrecords⟩ := h
  have heffective : retention.effectivePruneToRecords ≤ retention.maxRecords.toNat := by
    unfold RetentionConfig.effectivePruneToRecords
    cases hprune : retention.pruneToRecords with
    | none => exact defaultPruneToRecords_le (UInt64.lt_iff_toNat_lt.mp hpositive)
    | some pruneToRecords =>
      rw [hprune] at hrecords
      simp only [require_bind_eq_ok, require_eq_ok, decide_eq_true_eq] at hrecords
      exact UInt64.le_iff_toNat_le.mp hrecords.2
  constructor
  · unfold RetentionConfig.targetRecords
    split
    · exact heffective
    · exact le_rfl
  · unfold RetentionConfig.targetBytes
    split
    · exact UInt64.le_iff_toNat_le.mp hbytes
    · exact le_rfl

/-! ## Writes -/

section

variable {codec : MetadataCodec}

/-- **The enforcement** prunes to the targets for the rows it finds. -/
theorem enforceRetention_least (retention : RetentionConfig) {s : Session} (h : Exact s.database) :
    After (enforceRetention codec retention) s
      (fun _ t => Pruned (retention.targetRecords s.database) (retention.targetBytes s.database)
        s.database t.database)
      (fun t => Trimmed (retention.targetRecords s.database) (retention.targetBytes s.database)
        s.database t.database) := by
  refine ((observes_usage s).mono (fun _ _ hq => hq) fun t ht => ?_).bind fun usage t ht => ?_
  · rw [ht]
    exact Trimmed.refl h
  refine ((observes_bytes t).mono (fun _ _ hq => hq) fun u hu => ?_).bind fun logicalBytes u hu => ?_
  · rw [hu, ht.1]
    exact Trimmed.refl h
  have hu' : u.database = s.database := hu.1.trans ht.1
  have hbytes : readI64 s.database.stats.logicalBytes = some logicalBytes := ht.1 ▸ hu.2
  have hrecordsTarget : retention.targetRecords s.database =
      if usage.recordCount > retention.maxRecords.toNat then retention.effectivePruneToRecords
      else retention.maxRecords.toNat := by
    rw [h.usage ht.2]
    rfl
  have hbytesTarget : retention.targetBytes s.database =
      if logicalBytes > retention.maxBytes then retention.pruneToBytes.toNat
      else retention.maxBytes.toNat := by
    have hiff : requestBytes s.database.requests.rows + attemptBytes s.database.attempts.rows >
        retention.maxBytes.toNat ↔ logicalBytes > retention.maxBytes := by
      rw [← h.bytes hbytes, gt_iff_lt, gt_iff_lt, UInt64.lt_iff_toNat_lt, Int.ofNat_lt]
    unfold RetentionConfig.targetBytes
    rw [if_congr hiff rfl rfl]
  rw [hrecordsTarget, hbytesTarget, ← hu']
  refine enforceLoop_least _ _ _ {} (hu' ▸ h) ?_ ?_
  · rw [hu']
    exact ht.2
  · rw [hu']
    exact hbytes

/-- Counting the pruning leaves the rows and their counters. -/
theorem recordPruningOutcome_exact (outcome : RetentionPruneOutcome) (now : UInt64) {s : Session}
    (h : Exact s.database) :
    After (recordPruningOutcome outcome now) s
      (fun _ t => Exact t.database ∧ retained t.database = retained s.database)
      (fun t => t.database = s.database) := by
  unfold recordPruningOutcome
  split_ifs
  case pos => exact ⟨h, rfl⟩
  refine (Observes.ofExcept _ s).bind fun _ t ht => ?_
  refine ((Observes.ofExcept _ t).mono (fun _ _ hq => hq) fun _ hu => hu.trans ht.1).bind fun _ u hu => ?_
  have hu' := hu.1.trans ht.1
  refine ((Observes.ofExcept _ u).mono (fun _ _ hq => hq) fun _ hv => hv.trans hu').bind fun now v hv => ?_
  have hv' := hv.1.trans hu'
  refine (execute_after _ _ v).mono ?_ fun _ hw => hw.trans hv'
  rintro - w ⟨db, hdb, pageCount, hw⟩
  rw [hw, ← Option.some.inj hdb, hv']
  exact ⟨(h.countPruning _ _ _).pageCount pageCount, rfl⟩

/-- What both writes do after the row is there. -/
theorem prune_least (settings : ObservabilitySettings) (now : UInt64)
    (update : RetentionPruneOutcome → RetentionUsage → RetentionPruningStats → StoreMetricsUpdate)
    {s : Session} (h : Exact s.database) :
    After (do
        let pruning ← enforceRetention codec settings.retention
        recordPruningOutcome pruning now
        let usage ← readRetentionUsage
        let stats ← readPruningStats
        return update pruning usage stats : Sql StoreMetricsUpdate) s
      (fun _ t => Pruned (settings.retention.targetRecords s.database)
        (settings.retention.targetBytes s.database) s.database t.database)
      (fun t => Trimmed (settings.retention.targetRecords s.database)
        (settings.retention.targetBytes s.database) s.database t.database) := by
  refine (enforceRetention_least settings.retention h).bind fun pruning t ht => ?_
  refine ((recordPruningOutcome_exact pruning now ht.1).mono (fun _ _ hq => hq)
    fun u hu => hu ▸ ht.trimmed).bind fun _ u hu => ?_
  have hpruned : Pruned (settings.retention.targetRecords s.database)
      (settings.retention.targetBytes s.database) s.database u.database :=
    ⟨hu.1, by rw [hu.2]; exact ht.2⟩
  refine ((observes_usage u).mono (fun _ _ hq => hq) fun v hv => hv ▸ hpruned.trimmed).bind
    fun usage v hv => ?_
  refine ((observes_pruning v).mono (fun _ _ hq => hq)
    fun w hw => (hw.trans hv.1) ▸ hpruned.trimmed).bind fun stats w hw => ?_
  exact After.pure ((hw.1.trans hv.1).symm ▸ hpruned)

/-- What a write does: the row comes, then the store is pruned.  A write that fails has done nothing,
or the row is there and pruning has not gone too far. -/
def Keeps (retention : RetentionConfig) (insert : Database → Option Database)
    (write : Sql StoreMetricsUpdate) (s : Session) : Prop :=
  After write s
    (fun _ t => ∃ inserted, insert s.database = some inserted ∧
      Pruned (retention.targetRecords inserted) (retention.targetBytes inserted) inserted t.database)
    (fun t => ∃ inserted, (inserted = s.database ∨ insert s.database = some inserted) ∧
      Trimmed (retention.targetRecords inserted) (retention.targetBytes inserted) inserted t.database)

/-- A transaction of one statement. -/
theorem insert_after {start commit action : String} (insert : Database → Option Database) (s : Session) :
    After (transaction start commit (execute action insert)) s
      (fun _ t => ∃ inserted, insert s.database = some inserted ∧
        ∃ pageCount, t.database = { inserted with pageCount := pageCount })
      (fun t => t.database = s.database) := by
  refine transaction_after (Q := fun _ db => ∃ inserted, insert s.database = some inserted ∧
    ∃ pageCount, db = { inserted with pageCount := pageCount }) ?_ fun t ht => ?_
  · rintro - db pageCount ⟨inserted, hinserted, _, rfl⟩
    exact ⟨inserted, hinserted, pageCount, rfl⟩
  · rw [← ht]
    exact (execute_after action insert t).weaken

/-- **The write step**: a row that keeps the counters exact, and the pruning after it. -/
theorem keeps_of_insert {start commit action : String} {insert : Database → Option Database}
    (settings : ObservabilitySettings) (now : UInt64)
    (update : RetentionPruneOutcome → RetentionUsage → RetentionPruningStats → StoreMetricsUpdate)
    {s : Session} (h : Exact s.database)
    (hinsert : ∀ inserted, insert s.database = some inserted → Exact inserted) :
    Keeps settings.retention insert (do
      transaction start commit (execute action insert)
      let pruning ← enforceRetention codec settings.retention
      recordPruningOutcome pruning now
      let usage ← readRetentionUsage
      let stats ← readPruningStats
      return update pruning usage stats) s := by
  refine ((insert_after insert s).mono (fun _ _ hq => hq) fun t ht => ?_).bind ?_
  · rw [ht]
    exact ⟨s.database, .inl rfl, Trimmed.refl h⟩
  rintro - t ⟨inserted, hinserted, pageCount, ht⟩
  have hexact : Exact t.database := ht ▸ (hinsert inserted hinserted).pageCount pageCount
  refine (prune_least settings now update hexact).mono (fun _ u hu => ?_) fun u hu => ?_
  · rw [ht] at hu
    exact ⟨inserted, hinserted, hu⟩
  · rw [ht] at hu
    exact ⟨inserted, .inr hinserted, hu⟩

/-! ## Calls -/

end

/-- The settings that a call reads. -/
def StoreCall.settings : StoreCall → Except ObservabilityError ObservabilitySettings
  | .recordRequest settings _ _ _ => settings
  | .recordAttempt settings _ _ _ => settings

/-- What a call returns, and the store after it. -/
def StoreCall.run (codec : MetadataCodec) (call : StoreCall) (store : ObservabilityStore) : Called :=
  match call with
  | .recordRequest settings now record outcomes =>
      Observability.recordRequest codec settings now record outcomes store
  | .recordAttempt settings now record outcomes =>
      Observability.recordAttempt codec settings now record outcomes store

/-- The database with the row of a call. -/
def StoreCall.inserts (codec : MetadataCodec) (call : StoreCall) (captureRawPayloads : Bool)
    (db : Database) : Option Database :=
  match call with
  | .recordRequest _ _ record _ =>
      (PreparedRequest.fromRecord codec record captureRawPayloads).toOption.bind db.upsertRequest
  | .recordAttempt _ _ record _ =>
      (PreparedAttempt.fromRecord codec record captureRawPayloads).toOption.bind db.replaceAttempt

theorem call_eq_run (codec : MetadataCodec) (call : StoreCall) (store : ObservabilityStore) :
    store.call codec call = (call.run codec store).2 := by
  cases call <;> rfl

theorem toSqliteI64_nonneg {value : ℕ} {field : String} {stored : Int64}
    (h : toSqliteI64 value field = .ok stored) : 0 ≤ stored.toInt := by
  unfold toSqliteI64 at h
  split at h
  case isFalse => cases h
  case isTrue hvalue =>
    obtain rfl := Except.ok.inj h
    rw [Int64.toInt_ofNat_of_lt hvalue]
    exact Int.natCast_nonneg _

section

variable {codec : MetadataCodec}

theorem PreparedRequest.estimatedBytes_nonneg {record : RequestRecord} {capture : Bool}
    {prepared : PreparedRequest} (h : PreparedRequest.fromRecord codec record capture = .ok prepared) :
    0 ≤ prepared.estimatedBytes.toInt := by
  obtain ⟨requestJson, -, h⟩ := bind_eq_ok h
  obtain ⟨responseJson, -, h⟩ := bind_eq_ok h
  obtain ⟨estimated, hestimated, h⟩ := bind_eq_ok h
  obtain ⟨startedAt, -, h⟩ := bind_eq_ok h
  obtain ⟨finishedAt, -, h⟩ := bind_eq_ok h
  obtain ⟨duration, -, h⟩ := bind_eq_ok h
  obtain rfl := Except.ok.inj h
  exact toSqliteI64_nonneg hestimated

theorem PreparedAttempt.estimatedBytes_nonneg {record : AttemptRecord} {capture : Bool}
    {prepared : PreparedAttempt} (h : PreparedAttempt.fromRecord codec record capture = .ok prepared) :
    0 ≤ prepared.estimatedBytes.toInt := by
  obtain ⟨requestJson, -, h⟩ := bind_eq_ok h
  obtain ⟨responseJson, -, h⟩ := bind_eq_ok h
  obtain ⟨estimated, hestimated, h⟩ := bind_eq_ok h
  obtain ⟨startedAt, -, h⟩ := bind_eq_ok h
  obtain ⟨finishedAt, -, h⟩ := bind_eq_ok h
  obtain ⟨duration, -, h⟩ := bind_eq_ok h
  obtain ⟨inputTokens, -, h⟩ := bind_eq_ok h
  obtain ⟨outputTokens, -, h⟩ := bind_eq_ok h
  obtain ⟨cachedInputTokens, -, h⟩ := bind_eq_ok h
  obtain ⟨reasoningTokens, -, h⟩ := bind_eq_ok h
  obtain rfl := Except.ok.inj h
  exact toSqliteI64_nonneg hestimated

/-- What a call that may insert a row does to the database. -/
def CallKeeps (retention : RetentionConfig) (insert : Database → Option Database) (before : Database)
    (called : Called) : Prop :=
  ∃ inserted, (inserted = before ∨ insert before = some inserted) ∧
    Trimmed (retention.targetRecords inserted) (retention.targetBytes inserted) inserted
      called.2.database ∧
    (called.1 = .ok .written → insert before = some inserted ∧
      Pruned (retention.targetRecords inserted) (retention.targetBytes inserted) inserted
        called.2.database)

/-- A call that stops before it writes. -/
theorem CallKeeps.unchanged {retention : RetentionConfig} {insert : Database → Option Database}
    {before : Database} (h : Exact before) {called : Called} (hsame : called.2.database = before)
    (hresult : called.1 ≠ .ok .written) : CallKeeps retention insert before called :=
  ⟨before, .inl rfl, hsame.symm ▸ Trimmed.refl h, fun hwritten => absurd hwritten hresult⟩

variable (codec) in
/-- The end of a write leaves the database as it is. -/
theorem finishWrite_database (cache : MetricsCache)
    (result : Except ObservabilityError StoreMetricsUpdate) (s : Session) :
    (finishWrite codec cache result s).2.database = s.database ∧
      ((finishWrite codec cache result s).1 = .ok .written → ∃ update, result = .ok update) := by
  have hobserves := observes_reconstruction codec s
  unfold finishWrite
  cases hrun : reconstructMetricsAccumulator codec s with
  | mk rebuilt t =>
    have hsame : t.database = s.database := by
      cases rebuilt with
      | ok metrics => exact (hobserves.of_ok hrun).1
      | error e => exact hobserves.of_error hrun
    cases result with
    | ok update =>
      refine ⟨?_, fun _ => ⟨update, rfl⟩⟩
      dsimp only
      split_ifs
      · rfl
      · cases rebuilt <;> exact hsame
    | error writeError => cases rebuilt <;> exact ⟨hsame, fun h => by cases h⟩

/-- **The call step**, from what the write does. -/
theorem callKeeps_writeWith {α : Type} {readPrevious : Sql α} {P : α → Database → Prop}
    {write : α → Sql StoreMetricsUpdate} {retention : RetentionConfig}
    {insert : Database → Option Database} {outcomes : List Outcome} {store : ObservabilityStore}
    (hread : Observes readPrevious P) (h : Exact store.database)
    (hwrite : ∀ previous s, s.database = store.database → Keeps retention insert (write previous) s) :
    CallKeeps retention insert store.database (writeWith codec readPrevious write outcomes store) := by
  have hafter := hread ⟨store.database, outcomes⟩
  unfold writeWith
  cases hrun : readPrevious ⟨store.database, outcomes⟩ with
  | mk previous s =>
    cases previous with
    | error e => exact .unchanged h (hafter.of_error hrun) (by simp)
    | ok previous =>
      have hsame : s.database = store.database := (hafter.of_ok hrun).1
      have hkeeps := hwrite previous s hsame
      unfold Keeps at hkeeps
      rw [hsame] at hkeeps
      dsimp only
      cases hresult : write previous s with
      | mk result t =>
        obtain ⟨hdatabase, hwritten⟩ := finishWrite_database codec store.metrics result t
        cases result with
        | ok update =>
          obtain ⟨inserted, hinserted, hpruned⟩ := hkeeps.of_ok hresult
          rw [← hdatabase] at hpruned
          exact ⟨inserted, .inr hinserted, hpruned.trimmed, fun _ => ⟨hinserted, hpruned⟩⟩
        | error e =>
          obtain ⟨inserted, hinserted, htrimmed⟩ := hkeeps.of_error hresult
          rw [← hdatabase] at htrimmed
          refine ⟨inserted, hinserted, htrimmed, fun hok => ?_⟩
          obtain ⟨update, hupdate⟩ := hwritten hok
          cases hupdate

/-- A call of the store with its settings. -/
theorem StoreCall.keeps (call : StoreCall) {settings : ObservabilitySettings}
    (hsettings : call.settings = .ok settings) {store : ObservabilityStore} (h : Exact store.database) :
    CallKeeps settings.retention (call.inserts codec settings.captureRawPayloads) store.database
      (call.run codec store) := by
  cases call with
  | recordRequest given now record outcomes =>
    obtain rfl : given = .ok settings := hsettings
    unfold StoreCall.run StoreCall.inserts Observability.recordRequest
    dsimp only
    split_ifs
    · exact .unchanged h rfl (by simp)
    · cases hprepared : PreparedRequest.fromRecord codec record settings.captureRawPayloads with
      | error e => exact .unchanged h rfl (by simp)
      | ok prepared =>
        refine callKeeps_writeWith (observes_request prepared.requestId) h fun previous s hs => ?_
        exact keeps_of_insert settings now _ (hs ▸ h) fun inserted hinserted =>
          (hs ▸ h : Exact s.database).upsertRequest hinserted
            (PreparedRequest.estimatedBytes_nonneg hprepared)
  | recordAttempt given now record outcomes =>
    obtain rfl : given = .ok settings := hsettings
    unfold StoreCall.run StoreCall.inserts Observability.recordAttempt
    dsimp only
    split_ifs
    · exact .unchanged h rfl (by simp)
    · cases hprepared : PreparedAttempt.fromRecord codec record settings.captureRawPayloads with
      | error e => exact .unchanged h rfl (by simp)
      | ok prepared =>
        refine callKeeps_writeWith (observes_attempts _ (sameAttempt prepared)) h
          fun previous s hs => ?_
        exact keeps_of_insert settings now _ (hs ▸ h) fun inserted hinserted =>
          (hs ▸ h : Exact s.database).replaceAttempt hinserted
            (PreparedAttempt.estimatedBytes_nonneg hprepared)

/-- A call that cannot read its settings. -/
theorem StoreCall.run_of_error {call : StoreCall} {e : ObservabilityError}
    (h : call.settings = .error e) (store : ObservabilityStore) :
    call.run codec store = (.error e, store) := by
  cases call with
  | recordRequest given now record outcomes =>
    obtain rfl : given = .error e := h
    rfl
  | recordAttempt given now record outcomes =>
    obtain rfl : given = .error e := h
    rfl

/-- **The counters stay exact over a call**, whatever SQLite does with its statements. -/
theorem Exact.call {store : ObservabilityStore} (h : Exact store.database) (call : StoreCall) :
    Exact (store.call codec call).database := by
  rw [call_eq_run]
  cases hsettings : call.settings with
  | error e =>
    rw [StoreCall.run_of_error hsettings]
    exact h
  | ok settings =>
    obtain ⟨inserted, -, htrimmed, -⟩ := call.keeps hsettings h
    exact htrimmed.1

end

/-- **Retention over every run.**  The counters are those of the rows after any calls; the requests
that a call removes are the oldest, and as long as any of them is there the rest is over the target;
and after a write the rows are within the limits. -/
theorem retention_holds (codec : MetadataCodec) {db : Database} {outcomes : List Outcome}
    {store last : ObservabilityStore} (hdb : Exact db)
    (hopen : openStore codec db outcomes = .ok store)
    (hreach : (storeMachine codec).Reaches store last) :
    Exact last.database ∧ ∀ call : StoreCall,
      (∀ e, call.settings = .error e → call.run codec last = (.error e, last)) ∧
      ∀ settings, call.settings = .ok settings →
        let after := (call.run codec last).2.database
        ∃ inserted,
          (inserted = last.database ∨
            call.inserts codec settings.captureRawPayloads last.database = some inserted) ∧
          Trimmed (settings.retention.targetRecords inserted)
            (settings.retention.targetBytes inserted) inserted after ∧
          ((call.run codec last).1 = .ok .written →
            call.inserts codec settings.captureRawPayloads last.database = some inserted ∧
            Pruned (settings.retention.targetRecords inserted)
              (settings.retention.targetBytes inserted) inserted after ∧
            (settings.retention.validate = .ok () →
              after.stats.requestCount + after.stats.attemptCount ≤
                settings.retention.maxRecords.toNat ∧
              after.stats.logicalBytes ≤ settings.retention.maxBytes.toNat)) := by
  have hstart : Exact store.database := by
    unfold openStore at hopen
    have hobserves := observes_reconstruction codec ⟨db, outcomes⟩
    cases hrun : reconstructMetricsAccumulator codec ⟨db, outcomes⟩ with
    | mk rebuilt s =>
      rw [hrun] at hopen
      cases rebuilt with
      | error e => cases hopen
      | ok metrics =>
        rw [← Except.ok.inj hopen]
        have hsame : s.database = db := (hobserves.of_ok hrun).1
        dsimp only
        rwa [hsame]
  have hlast : Exact last.database :=
    hreach.invariant (fun s call t hs hstep => Option.some.inj hstep ▸ Exact.call hs call) hstart
  refine ⟨hlast, fun call => ⟨fun e he => StoreCall.run_of_error he last, ?_⟩⟩
  intro settings hsettings after
  obtain ⟨inserted, hinserted, htrimmed, hwritten⟩ := StoreCall.keeps call hsettings hlast
  refine ⟨inserted, hinserted, htrimmed, fun hok => ?_⟩
  obtain ⟨hrow, hpruned⟩ := hwritten hok
  refine ⟨hrow, hpruned, fun hvalid => ?_⟩
  obtain ⟨hrecords, hbytes⟩ := RetentionConfig.targets_le hvalid inserted
  have hafter := hpruned.1
  obtain ⟨hfitsRecords, hfitsBytes⟩ := (fits_zero hafter _ _).mp hpruned.fits
  rw [hafter.requestCount, hafter.attemptCount, hafter.logicalBytes]
  constructor <;> omega

/-- The call has written. -/
def isWritten : Except ObservabilityError StoreWrite → Bool
  | .ok .written => true
  | _ => false

theorem eq_of_isWritten {result : Except ObservabilityError StoreWrite}
    (h : isWritten result = true) : result = .ok .written := by
  unfold isWritten at h
  split at h
  · rfl
  · cases h

/-- Settings with room for three records. -/
def smallSettings : ObservabilitySettings := ⟨true, false, ⟨1000, 1000, 3, none⟩⟩

/-- A fourth request, when there is room for three. -/
def sampleCall : StoreCall := .recordRequest (.ok smallSettings) 7 (sampleRequest "e" 50) []

theorem retention_holds_sample :
    let after := (sampleCall.run emptyMetadataCodec sampleStoreAfter).2.database
    Exact sampleStoreAfter.database ∧
      after.requests.rows.map (·.requestId) = ["d", "e"] ∧
      after.stats.requestCount + after.stats.attemptCount ≤ smallSettings.retention.maxRecords.toNat ∧
      after.stats.logicalBytes ≤ smallSettings.retention.maxBytes.toNat := by
  have hopen : openStore emptyMetadataCodec {} [] = .ok sampleStore := rfl
  have hreach : (storeMachine emptyMetadataCodec).Reaches sampleStore sampleStoreAfter :=
    ⟨sampleCalls, rfl⟩
  have hresult : isWritten (sampleCall.run emptyMetadataCodec sampleStoreAfter).1 = true := by
    decide +kernel
  obtain ⟨hexact, hcalls⟩ := retention_holds emptyMetadataCodec exact_empty hopen hreach
  obtain ⟨inserted, -, -, hwritten⟩ := (hcalls sampleCall).2 smallSettings rfl
  obtain ⟨-, -, hlimits⟩ := hwritten (eq_of_isWritten hresult)
  exact ⟨hexact, by decide +kernel, hlimits rfl⟩

end LlmGuardProxy.Observability
