import LlmGuardProxy.Machinery.Machine
import LlmGuardProxy.Observability.Store

/-!
# Observability/Cache — the metrics beside the store are those of its rows

Whatever the calls and whatever SQLite does with their statements, a valid cache holds the metrics
that would be rebuilt from the rows.

* `held` — what the rows and the removed rows contribute together; pruning keeps it.
* `InSync` — the counters account for the rows and show the counters of the store.
* `valid_metrics_match_rows` — every run.
-/

namespace LlmGuardProxy.Observability

open Machinery Fallible

/-! ## Statements -/

section

variable {α : Type} {s : Session}

/-- A read leaves the database as it is, and gives what is there. -/
theorem query_after (action : String) (read : Database → Option α) (s : Session) :
    After (query action read) s
      (fun value t => t.database = s.database ∧ read s.database = some value)
      (fun t => t.database = s.database) := by
  unfold After query
  cases hread : read s.database with
  | none =>
    rcases s.outcomes with _ | ⟨_ | _, _⟩
    all_goals exact rfl
  | some value =>
    rcases s.outcomes with _ | ⟨_ | _, _⟩
    · exact ⟨rfl, rfl⟩
    · exact rfl
    · exact ⟨rfl, rfl⟩

/-- A computation that only reads: the value is what `P` says of the database. -/
def Observes (x : Sql α) (P : α → Database → Prop) : Prop :=
  ∀ s : Session, After x s (fun value t => t.database = s.database ∧ P value s.database)
    (fun t => t.database = s.database)

theorem Observes.query (action : String) (read : Database → Option α) :
    Observes (query action read) fun value db => read db = some value := query_after action read

theorem Observes.prepare (action : String) : Observes (prepare action) fun _ _ => True :=
  fun s => (query_after action _ s).mono (fun _ _ h => ⟨h.1, trivial⟩) fun _ h => h

theorem Observes.pure (value : α) : Observes (Pure.pure value) fun a _ => a = value :=
  fun _ => ⟨rfl, rfl⟩

/-- A value that was computed without the database. -/
theorem Observes.ofExcept (value : Except ObservabilityError α) :
    Observes (Fallible.ofExcept value) fun _ _ => True := by
  intro s
  unfold After Fallible.ofExcept
  cases value with
  | ok a => exact ⟨rfl, trivial⟩
  | error e => exact rfl

theorem Observes.bind {β : Type} {x : Sql α} {f : α → Sql β} {P : α → Database → Prop}
    {R : α → β → Database → Prop} (hx : Observes x P) (hf : ∀ a, Observes (f a) (R a)) :
    Observes (x >>= f) fun b db => ∃ a, P a db ∧ R a b db := by
  refine fun s => (hx s).bind fun a t ht => ?_
  refine (hf a t).mono (fun b u hu => ⟨hu.1.trans ht.1, a, ht.2, ht.1 ▸ hu.2⟩) fun u hu => ?_
  exact hu.trans ht.1

theorem Observes.mono {x : Sql α} {P R : α → Database → Prop} (hx : Observes x P)
    (h : ∀ a db, P a db → R a db) : Observes x R :=
  fun s => (hx s).mono (fun a _ ht => ⟨ht.1, h a _ ht.2⟩) fun _ ht => ht

/-- A write that is done leaves what it wrote, up to the page count; one that fails leaves nothing. -/
theorem execute_after (action : String) (write : Database → Option Database) (s : Session) :
    After (execute action write) s
      (fun _ t => ∃ db, write s.database = some db ∧
        ∃ pageCount, t.database = { db with pageCount := pageCount })
      (fun t => t.database = s.database) := by
  unfold After execute statement
  dsimp only
  cases hwrite : write s.database with
  | none =>
    rcases s.outcomes with _ | ⟨_ | _, _⟩
    all_goals exact rfl
  | some db =>
    rcases s.outcomes with _ | ⟨_ | pageCount, _⟩
    · exact ⟨db, rfl, db.pageCount, rfl⟩
    · exact rfl
    · exact ⟨db, rfl, pageCount, rfl⟩

/-- **Transactions are atomic**: what the body achieves, or nothing. -/
theorem transaction_after {start commit : String} {body : Sql α} {Q : α → Database → Prop}
    (hpages : ∀ value db pageCount, Q value db → Q value { db with pageCount := pageCount })
    (hbody : ∀ t : Session, t.database = s.database →
      After body t (fun value t => Q value t.database) fun _ => True) :
    After (transaction start commit body) s (fun value t => Q value t.database)
      (fun t => t.database = s.database) := by
  have hrun : After (do prepare start; let value ← body; execute commit some; return value : Sql α)
      s (fun value t => Q value t.database) fun _ => True := by
    refine (Observes.prepare start s).weaken.bind fun _ t ht => ?_
    refine (hbody t ht.1).bind fun value u hu => ?_
    refine (execute_after commit some u).weaken.bind ?_
    rintro - v ⟨db, hdb, pageCount, hv⟩
    rw [← Option.some.inj hdb] at hv
    exact After.pure (hv ▸ hpages value u.database pageCount hu)
  unfold After at hrun ⊢
  unfold transaction
  cases hx : (do prepare start; let value ← body; execute commit some; return value : Sql α) s with
  | mk result t =>
    rw [hx] at hrun
    cases result with
    | ok value => exact hrun
    | error e => exact rfl

end

/-! ## What the rows contribute -/

section

variable (codec : MetadataCodec)

/-- What the requests of a database contribute. -/
def requestObservations (db : Database) : Multiset RequestMetricObservation :=
  (db.requests.rows.map (·.metricObservation codec) : List RequestMetricObservation)

/-- What the attempts of a database contribute. -/
def attemptObservations (db : Database) : Multiset AttemptMetricObservation :=
  (db.attempts.rows.map (·.metricObservation codec) : List AttemptMetricObservation)

/-- **What the rows and the removed rows contribute together.** -/
def held (db : Database) (outcome : RetentionPruneOutcome) :
    Multiset RequestMetricObservation × Multiset AttemptMetricObservation :=
  (requestObservations codec db + outcome.removedRequests,
    attemptObservations codec db + outcome.removedAttempts)

variable {codec}

theorem card_requestObservations_le (db : Database) :
    (requestObservations codec db).card ≤ rowLimit := by
  rw [requestObservations, Multiset.coe_card, List.length_map]
  exact db.requests.length_le

theorem card_attemptObservations_le (db : Database) :
    (attemptObservations codec db).card ≤ rowLimit := by
  rw [attemptObservations, Multiset.coe_card, List.length_map]
  exact db.attempts.length_le

/-- The observation of a request is read off its row. -/
theorem observes_request (requestId : String) :
    Observes (readRequestMetricObservation codec requestId) fun observation db =>
      observation.toList =
        (db.requests.rows.filter (·.requestId == requestId)).map (·.metricObservation codec) := by
  refine (Observes.query _ _).mono fun observation db h => ?_
  rw [← Option.some.inj h, Table.filter_eq_toList_find? db.requests]
  · cases db.requests.rows.find? fun row => row.requestId == requestId <;> rfl
  · intro a b ha hb
    rw [sameRequest, beq_iff_eq.mp ha, beq_iff_eq.mp hb, beq_self_eq_true]

/-- The observations of attempts are read off their rows, in whatever order. -/
theorem observes_attempts (action : String) (condition : PreparedAttempt → Bool) :
    Observes (readAttemptMetricObservations codec action condition) fun observations db =>
      (observations : Multiset AttemptMetricObservation) =
        ((db.attempts.rows.filter condition).map (·.metricObservation codec) : List _) := by
  refine ((Observes.prepare action).bind fun _ => Observes.query action _).mono ?_
  rintro observations db ⟨-, -, h⟩
  rw [← Option.some.inj h, Multiset.coe_eq_coe]
  exact (List.perm_insertionSort _ _).map _

/-- The counters of the store, when they can be read. -/
def usageOf (db : Database) : Option RetentionUsage :=
  (readI64 db.stats.requestCount).bind fun requestCount =>
    (readI64 db.stats.attemptCount).map fun attemptCount =>
      ⟨requestCount, attemptCount, saturatingAdd u64Max requestCount.toNat attemptCount.toNat,
        min ((nonnegativeI64ToU64 db.pageCount).toNat * (nonnegativeI64ToU64 db.pageSize).toNat)
          u64Max⟩

/-- The pruning counters, when they can be read. -/
def pruningOf (db : Database) : Option RetentionPruningStats :=
  (readI64 db.stats.pruneEvents).bind fun pruneEvents =>
    (readI64 db.stats.prunedRequests).bind fun prunedRequests =>
      (readI64 db.stats.prunedAttempts).map fun prunedAttempts =>
        ⟨pruneEvents, prunedRequests, prunedAttempts,
          db.stats.lastPrunedAtUnixMs.map nonnegativeI64ToU64⟩

theorem observes_usage : Observes readRetentionUsage fun usage db => usageOf db = some usage := by
  have hbytes := (Observes.query "read SQLite storage usage" fun db =>
    some (nonnegativeI64ToU64 db.pageCount)).bind fun pageCount =>
      (Observes.query "read SQLite storage usage" fun db =>
        some (nonnegativeI64ToU64 db.pageSize)).bind fun pageSize =>
          Observes.pure (min (pageCount.toNat * pageSize.toNat) u64Max)
  refine ((Observes.query _ _).bind fun requestCount => (Observes.query _ _).bind
    fun attemptCount => hbytes.bind fun bytes => Observes.pure _).mono ?_
  rintro usage db ⟨requestCount, hrequests, attemptCount, hattempts, bytes,
    ⟨pageCount, hpages, pageSize, hsize, rfl⟩, rfl⟩
  rw [usageOf, hrequests, hattempts, Option.some.inj hpages, Option.some.inj hsize]
  rfl

theorem observes_pruning : Observes readPruningStats fun pruning db => pruningOf db = some pruning := by
  refine (Observes.query _ _).mono fun pruning db h => ?_
  rw [← h]
  unfold pruningOf
  cases readI64 db.stats.pruneEvents <;> cases readI64 db.stats.prunedRequests <;>
    cases readI64 db.stats.prunedAttempts <;> rfl

/-! ## Pruning -/

/-- Deleting a request with its attempts moves what they contribute to the removed. -/
theorem held_deleteRequest {db : Database} {requestId : String} {outcome after : RetentionPruneOutcome}
    {request : Option RequestMetricObservation} {attempts : List AttemptMetricObservation}
    (hrequest : request.toList =
      (db.requests.rows.filter (·.requestId == requestId)).map (·.metricObservation codec))
    (hattempts : (attempts : Multiset AttemptMetricObservation) =
      ((db.attempts.rows.filter (·.requestId == requestId)).map (·.metricObservation codec) : List _))
    (hremovedRequests : after.removedRequests = outcome.removedRequests ++ request.toList)
    (hremovedAttempts : after.removedAttempts = outcome.removedAttempts ++ attempts) :
    held codec (db.deleteRequest requestId) after = held codec db outcome := by
  have hrequests := congrArg (Multiset.map (·.metricObservation codec))
    (db.requests.rows_delete (·.requestId == requestId))
  have hrows := congrArg (Multiset.map (·.metricObservation codec))
    (db.attempts.rows_delete (·.requestId == requestId))
  rw [Multiset.map_add, Multiset.map_coe, Multiset.map_coe, Multiset.map_coe] at hrequests hrows
  unfold held
  refine Prod.ext ?_ ?_
  · dsimp only
    rw [hremovedRequests, hrequest, ← Multiset.coe_add,
      add_left_comm (requestObservations codec _), add_comm (requestObservations codec db)]
    exact congrArg _ hrequests
  · dsimp only
    rw [hremovedAttempts, ← Multiset.coe_add, hattempts,
      add_left_comm (attemptObservations codec _), add_comm (attemptObservations codec db)]
    exact congrArg _ hrows

theorem observes_logicalBytes : Observes readLogicalObservedBytes fun _ _ => True :=
  (Observes.query _ _).mono fun _ _ _ => trivial

/-- The oldest request is one of the requests. -/
theorem observes_oldestRequestId : Observes oldestRequestId fun oldest db =>
    ∀ requestId, oldest = some requestId →
      ∃ row ∈ db.requests.rows, row.requestId = requestId := by
  refine ((Observes.prepare _).bind fun _ => (Observes.prepare _).bind fun _ =>
    (Observes.prepare _).bind fun _ => Observes.query _ _).mono ?_
  rintro oldest db ⟨-, -, -, -, -, -, h⟩ requestId rfl
  obtain ⟨row, hrow, hid⟩ := Option.map_eq_some_iff.mp (Option.some.inj h)
  refine ⟨row, ?_, hid⟩
  exact (List.perm_insertionSort _ _).subset (List.mem_of_head? hrow)

/-- Deleting a request that is there leaves fewer requests. -/
theorem length_deleteRequest_lt {db : Database} {requestId : String}
    (h : ∃ row ∈ db.requests.rows, row.requestId = requestId) :
    (db.deleteRequest requestId).requests.rows.length < db.requests.rows.length := by
  obtain ⟨row, hrow, hid⟩ := h
  refine List.length_filter_lt_length_iff_exists.mpr ⟨row, hrow, ?_⟩
  simp [hid]

/-- Nothing was pruned, or a request was: then it is counted, and there are fewer. -/
def PrunedFrom (before after : Database) (outcome out : RetentionPruneOutcome) : Prop :=
  (out = outcome ∧ after.requests.rows.length = before.requests.rows.length) ∨
    (0 < out.deletedRequests ∧ after.requests.rows.length < before.requests.rows.length)

/-- **The pruning loop keeps what is held**, and counts what it removes. -/
theorem pruneLoop_after (maxRecords targetBytes : ℕ) : ∀ (turns : ℕ)
    (outcome : RetentionPruneOutcome) (usage : RetentionUsage) (logicalBytes : UInt64) (s : Session),
    After (pruneLoop codec maxRecords targetBytes turns outcome usage logicalBytes) s
      (fun out t => held codec t.database out = held codec s.database outcome ∧
        PrunedFrom s.database t.database outcome out)
      fun _ => True := by
  intro turns
  induction turns with
  | zero => exact fun _ _ _ _ => ⟨rfl, Or.inl ⟨rfl, rfl⟩⟩
  | succ turns ih =>
    intro outcome usage logicalBytes s
    unfold pruneLoop
    split_ifs
    case neg => exact ⟨rfl, Or.inl ⟨rfl, rfl⟩⟩
    refine (observes_oldestRequestId s).weaken.bind fun oldest t ht => ?_
    cases oldest with
    | none =>
      have hsame : t.database = s.database := ht.1
      exact ⟨by rw [hsame], Or.inl ⟨rfl, by rw [hsame]⟩⟩
    | some requestId =>
      refine (observes_request requestId t).weaken.bind fun request u hu => ?_
      refine (observes_attempts _ _ u).weaken.bind fun attempts v hv => ?_
      refine (execute_after _ _ v).weaken.bind ?_
      rintro - w ⟨db, hdb, pageCount, hw⟩
      refine (observes_usage w).weaken.bind fun usage' w₁ hw₁ => ?_
      refine (observes_logicalBytes w₁).weaken.bind fun logicalBytes' w₂ hw₂ => ?_
      have hrequest := hu.2
      have hattempts := hv.2
      rw [ht.1] at hrequest
      rw [hu.1, ht.1] at hattempts
      have hdeleted : w₂.database =
          { s.database.deleteRequest requestId with pageCount := pageCount } := by
        rw [hw₂.1, hw₁.1, hw, ← Option.some.inj hdb, hv.1, hu.1, ht.1]
      have hfewer : w₂.database.requests.rows.length < s.database.requests.rows.length := by
        rw [hdeleted]
        exact length_deleteRequest_lt (ht.2 requestId rfl)
      refine (ih _ usage' logicalBytes' w₂).mono (fun out x hx => ⟨hx.1.trans ?_, Or.inr ?_⟩)
        fun _ h => h
      · rw [hdeleted]
        exact held_deleteRequest hrequest hattempts rfl rfl
      · rcases hx.2 with ⟨rfl, hlength⟩ | ⟨hpos, hlength⟩
        · exact ⟨lt_min (Nat.succ_pos _) (by decide), hlength ▸ hfewer⟩
        · exact ⟨hpos, hlength.trans hfewer⟩

/-- **The turns of the pruning loop suffice**: more of them change nothing. -/
theorem pruneLoop_turns (maxRecords targetBytes : ℕ) : ∀ (turns : ℕ)
    (outcome : RetentionPruneOutcome) (usage : RetentionUsage) (logicalBytes : UInt64) (s : Session),
    s.database.requests.rows.length < turns →
    pruneLoop codec maxRecords targetBytes turns outcome usage logicalBytes s =
      pruneLoop codec maxRecords targetBytes (turns + 1) outcome usage logicalBytes s := by
  intro turns
  induction turns with
  | zero => exact fun _ _ _ s h => absurd h (Nat.not_lt_zero _)
  | succ turns ih =>
    intro outcome usage logicalBytes s hturns
    rw [pruneLoop, pruneLoop]
    split_ifs
    case neg => rfl
    refine bind_congr_after (observes_oldestRequestId s) fun oldest t ht => ?_
    cases oldest with
    | none => rfl
    | some requestId =>
      refine bind_congr_after (observes_request requestId t) fun request u hu => ?_
      refine bind_congr_after (observes_attempts _ _ u) fun attempts v hv => ?_
      refine bind_congr_after (execute_after _ _ v) ?_
      rintro - w ⟨db, hdb, pageCount, hw⟩
      refine bind_congr_after (observes_usage w) fun usage' w₁ hw₁ => ?_
      refine bind_congr_after (observes_logicalBytes w₁) fun logicalBytes' w₂ hw₂ => ?_
      refine ih _ usage' logicalBytes' w₂ ?_
      have hshrinks := length_deleteRequest_lt (ht.2 requestId rfl)
      have hrows : w₂.database.requests = (s.database.deleteRequest requestId).requests := by
        rw [hw₂.1, hw₁.1, hw, ← Option.some.inj hdb, hv.1, hu.1, ht.1]
      rw [hrows]
      omega

/-- A batch of the pruning keeps what is held, or does nothing. -/
theorem pruneRetainedRows_after (maxRecords targetBytes : ℕ) (s : Session) :
    After (pruneRetainedRows codec maxRecords targetBytes) s
      (fun out t => held codec t.database out = held codec s.database {} ∧
        PrunedFrom s.database t.database {} out)
      (fun t => t.database = s.database) := by
  refine transaction_after
    (Q := fun out db => held codec db out = held codec s.database {} ∧
      PrunedFrom s.database db {} out)
    (fun _ _ _ h => h) fun t ht => ?_
  refine (observes_usage t).weaken.bind fun usage u hu => ?_
  refine (observes_logicalBytes u).weaken.bind fun logicalBytes v hv => ?_
  have hsame : v.database = s.database := hv.1.trans (hu.1.trans ht)
  rw [← hsame]
  exact pruneLoop_after maxRecords targetBytes _ {} usage logicalBytes v

/-- What a batch removes is removed on top of what was removed before. -/
theorem held_add {before after : Database} {outcome batch : RetentionPruneOutcome}
    (h : held codec after batch = held codec before {}) :
    held codec after (outcome.add batch) = held codec before outcome := by
  obtain ⟨hrequests, hattempts⟩ := Prod.mk.inj h
  unfold held RetentionPruneOutcome.add
  refine Prod.ext ?_ ?_
  · dsimp only at hrequests ⊢
    rw [← Multiset.coe_add, add_left_comm, hrequests, Multiset.coe_nil, add_zero, add_comm]
  · dsimp only at hattempts ⊢
    rw [← Multiset.coe_add, add_left_comm, hattempts, Multiset.coe_nil, add_zero, add_comm]

/-- A batch that counts nothing removed nothing. -/
theorem PrunedFrom.eq_of_deletedAny {before after : Database} {batch : RetentionPruneOutcome}
    (h : PrunedFrom before after {} batch) (hany : batch.deletedAny = false) : batch = {} := by
  rcases h with ⟨hbatch, -⟩ | ⟨hpos, -⟩
  · exact hbatch
  · simp [RetentionPruneOutcome.deletedAny, hpos] at hany

/-- **Enforcing the retention keeps what is held.** -/
theorem enforceLoop_after (targetRecords targetBytes : ℕ) : ∀ (turns : ℕ)
    (outcome : RetentionPruneOutcome) (usage : RetentionUsage) (logicalBytes : UInt64) (s : Session),
    After (enforceLoop codec targetRecords targetBytes turns outcome usage logicalBytes) s
      (fun out t => held codec t.database out = held codec s.database outcome) fun _ => True := by
  intro turns
  induction turns with
  | zero => exact fun _ _ _ _ => rfl
  | succ turns ih =>
    intro outcome usage logicalBytes s
    unfold enforceLoop
    split_ifs
    case neg => exact rfl
    refine (pruneRetainedRows_after targetRecords targetBytes s).weaken.bind fun batch t ht => ?_
    cases hany : batch.deletedAny with
    | false =>
      have hheld := ht.1
      rw [ht.2.eq_of_deletedAny hany] at hheld
      have hadd : held codec t.database (outcome.add {}) = held codec s.database outcome :=
        held_add hheld
      simp only [held, RetentionPruneOutcome.add, List.append_nil] at hadd
      exact hadd
    | true =>
      refine (observes_usage t).weaken.bind fun usage' u hu => ?_
      refine (observes_logicalBytes u).weaken.bind fun logicalBytes' v hv => ?_
      have hheld : held codec v.database (outcome.add batch) = held codec s.database outcome := by
        rw [hv.1, hu.1]
        exact held_add ht.1
      split_ifs
      · exact hheld
      · exact (ih _ usage' logicalBytes' v).mono (fun out x hx => hx.trans hheld) fun _ h => h

/-- **The turns of `enforce_retention` suffice**: more of them change nothing. -/
theorem enforceLoop_turns (targetRecords targetBytes : ℕ) : ∀ (turns : ℕ)
    (outcome : RetentionPruneOutcome) (usage : RetentionUsage) (logicalBytes : UInt64) (s : Session),
    s.database.requests.rows.length < turns →
    enforceLoop codec targetRecords targetBytes turns outcome usage logicalBytes s =
      enforceLoop codec targetRecords targetBytes (turns + 1) outcome usage logicalBytes s := by
  intro turns
  induction turns with
  | zero => exact fun _ _ _ s h => absurd h (Nat.not_lt_zero _)
  | succ turns ih =>
    intro outcome usage logicalBytes s hturns
    rw [enforceLoop, enforceLoop]
    split_ifs
    case neg => rfl
    refine bind_congr_after (pruneRetainedRows_after targetRecords targetBytes s)
      fun batch t ht => ?_
    cases hany : batch.deletedAny with
    | false => rfl
    | true =>
      refine bind_congr_after (observes_usage t) fun usage' u hu => ?_
      refine bind_congr_after (observes_logicalBytes u) fun logicalBytes' v hv => ?_
      split_ifs
      case pos => rfl
      refine ih _ usage' logicalBytes' v ?_
      rw [hv.1, hu.1]
      rcases ht.2 with ⟨rfl, -⟩ | ⟨-, hfewer⟩
      · cases hany
      · omega

theorem enforceRetention_after (retention : RetentionConfig) (s : Session) :
    After (enforceRetention codec retention) s
      (fun out t => held codec t.database out = held codec s.database {}) fun _ => True := by
  refine (observes_usage s).weaken.bind fun usage t ht => ?_
  refine (observes_logicalBytes t).weaken.bind fun logicalBytes u hu => ?_
  refine (enforceLoop_after _ _ _ {} usage logicalBytes u).mono (fun out v hv => hv.trans ?_)
    fun _ h => h
  rw [hu.1, ht.1]

variable (codec) in
/-- Counting the pruning leaves the rows as they are. -/
theorem recordPruningOutcome_after (outcome : RetentionPruneOutcome) (now : UInt64) (s : Session) :
    After (recordPruningOutcome outcome now) s
      (fun _ t => requestObservations codec t.database = requestObservations codec s.database ∧
        attemptObservations codec t.database = attemptObservations codec s.database)
      fun _ => True := by
  unfold recordPruningOutcome
  split_ifs
  case pos => exact ⟨rfl, rfl⟩
  refine (Observes.ofExcept _ s).weaken.bind fun _ t ht => ?_
  refine (Observes.ofExcept _ t).weaken.bind fun _ u hu => ?_
  refine (Observes.ofExcept _ u).weaken.bind fun now v hv => ?_
  refine (execute_after _ _ v).weaken.mono ?_ fun _ h => h
  rintro - w ⟨db, hdb, pageCount, hw⟩
  rw [hw, ← Option.some.inj hdb, hv.1, hu.1, ht.1]
  exact ⟨rfl, rfl⟩

/-! ## Insertion -/

variable (codec) in
/-- The row of a request comes, the row it replaces goes; the attempts stay. -/
theorem insertRequest_after (record : PreparedRequest) (s : Session) :
    After (insertRequest record) s
      (fun _ t => requestObservations codec t.database +
          ((s.database.requests.rows.filter (·.requestId == record.requestId)).map
            (·.metricObservation codec) : List _) =
          record.metricObservation codec ::ₘ requestObservations codec s.database ∧
        attemptObservations codec t.database = attemptObservations codec s.database)
      fun _ => True := by
  refine (transaction_after (Q := fun _ db => requestObservations codec db +
    ((s.database.requests.rows.filter (·.requestId == record.requestId)).map
      (·.metricObservation codec) : List _) =
    record.metricObservation codec ::ₘ requestObservations codec s.database ∧
    attemptObservations codec db = attemptObservations codec s.database)
    (fun _ _ _ h => h) fun t ht => ?_).weaken
  refine (execute_after _ _ t).weaken.mono ?_ fun _ h => h
  rintro - u ⟨db, hdb, pageCount, hu⟩
  obtain ⟨requests, hupsert, rfl⟩ := Option.map_eq_some_iff.mp hdb
  rw [hu, ← ht]
  refine ⟨?_, rfl⟩
  have hrows := congrArg (Multiset.map (·.metricObservation codec)) (Table.rows_upsert hupsert)
  rw [Multiset.map_add, Multiset.map_cons, Multiset.map_coe, Multiset.map_coe,
    Multiset.map_coe] at hrows
  have hsame : (sameRequest record) = fun row => row.requestId == record.requestId :=
    funext fun row => BEq.comm
  rw [Table.replaced, hsame] at hrows
  exact hrows

variable (codec) in
/-- The row of an attempt comes, the rows it replaces go; the requests stay. -/
theorem insertAttempt_after (record : PreparedAttempt) (s : Session) :
    After (insertAttempt record) s
      (fun _ t => requestObservations codec t.database = requestObservations codec s.database ∧
        attemptObservations codec t.database +
          ((s.database.attempts.rows.filter (sameAttempt record)).map
            (·.metricObservation codec) : List _) =
          record.metricObservation codec ::ₘ attemptObservations codec s.database)
      fun _ => True := by
  refine (transaction_after (Q := fun _ db =>
    requestObservations codec db = requestObservations codec s.database ∧
    attemptObservations codec db +
      ((s.database.attempts.rows.filter (sameAttempt record)).map
        (·.metricObservation codec) : List _) =
      record.metricObservation codec ::ₘ attemptObservations codec s.database)
    (fun _ _ _ h => h) fun t ht => ?_).weaken
  refine (execute_after _ _ t).weaken.mono ?_ fun _ h => h
  rintro - u ⟨db, hdb, pageCount, hu⟩
  unfold Database.replaceAttempt at hdb
  split_ifs at hdb
  obtain ⟨attempts, hinsert, rfl⟩ := Option.map_eq_some_iff.mp hdb
  rw [hu, ← ht]
  refine ⟨rfl, ?_⟩
  have hrows := congrArg (Multiset.map (·.metricObservation codec))
    (Table.rows_insertOrReplace hinsert)
  rw [Multiset.map_add, Multiset.map_cons, Multiset.map_coe, Multiset.map_coe,
    Multiset.map_coe] at hrows
  exact hrows

/-! ## The cache -/

variable (codec) in
/-- **The metrics are those of the rows**, with the counters that the store shows. -/
structure InSync (db : Database) (metrics : MetricsAccumulator) : Prop where
  accounts : Accounts metrics (requestObservations codec db) (attemptObservations codec db)
  usage : usageOf db = some metrics.retentionUsage
  pruning : pruningOf db = some metrics.pruning

/-- Metrics of the same rows are the same. -/
theorem InSync.unique {db : Database} {metrics other : MetricsAccumulator}
    (h : InSync codec db metrics) (hother : InSync codec db other) : metrics = other :=
  h.accounts.unique hother.accounts (Option.some.inj (h.usage.symm.trans hother.usage))
    (Option.some.inj (h.pruning.symm.trans hother.pruning))

/-- Adding the rows to fresh metrics. -/
theorem accounts_rows (db : Database) (usage : RetentionUsage) (pruning : RetentionPruningStats) :
    Accounts ((db.attempts.rows.map (·.metricObservation codec)).foldl
        (fun metrics o => metrics.addAttempt o)
        ((db.requests.rows.map (·.metricObservation codec)).foldl
          (fun metrics o => metrics.addRequest o) (.new usage pruning)))
      (requestObservations codec db) (attemptObservations codec db) := by
  have hrequests := (Accounts.new usage pruning).addRequests
    (db.requests.rows.map (·.metricObservation codec))
    (by simpa using db.requests.length_le) (Nat.zero_le _)
  have hattempts := hrequests.addAttempts (db.attempts.rows.map (·.metricObservation codec))
    (by simpa using db.requests.length_le) (by simpa using db.attempts.length_le)
  simpa [requestObservations, attemptObservations] using hattempts

variable (codec) in
theorem observes_reconstruction :
    Observes (reconstructMetricsAccumulator codec) fun metrics db => InSync codec db metrics := by
  refine (observes_usage.bind fun usage => observes_pruning.bind fun pruning =>
    (Observes.prepare _).bind fun _ => (Observes.prepare _).bind fun _ =>
    (Observes.query _ _).bind fun requests => (Observes.prepare _).bind fun _ =>
    (Observes.query _ _).bind fun attempts => Observes.pure _).mono ?_
  rintro metrics db ⟨usage, husage, pruning, hpruning, -, -, -, -, requests, hrequests, -, -,
    attempts, hattempts, rfl⟩
  rw [← Option.some.inj hrequests, ← Option.some.inj hattempts]
  obtain ⟨husage₁, hpruning₁⟩ := foldl_storeState (fun metrics o => metrics.addRequest o)
    (fun _ _ => ⟨rfl, rfl⟩) (db.requests.rows.map (·.metricObservation codec)) (.new usage pruning)
  obtain ⟨husage₂, hpruning₂⟩ := foldl_storeState (fun metrics o => metrics.addAttempt o)
    (fun _ _ => ⟨rfl, rfl⟩) (db.attempts.rows.map (·.metricObservation codec))
    ((db.requests.rows.map (·.metricObservation codec)).foldl
      (fun metrics o => metrics.addRequest o) (.new usage pruning))
  refine ⟨accounts_rows db usage pruning, ?_, ?_⟩
  · rw [husage₂, husage₁]
    exact husage
  · rw [hpruning₂, hpruning₁]
    exact hpruning

/-- **The update.**  Removing what was replaced, adding what came and removing what was pruned leaves
the metrics of what is left. -/
theorem accounts_apply {update : StoreMetricsUpdate} {metrics : MetricsAccumulator}
    {requests : Multiset RequestMetricObservation} {attempts : Multiset AttemptMetricObservation}
    (keptRequests : Multiset RequestMetricObservation)
    (keptAttempts : Multiset AttemptMetricObservation)
    (h : Accounts metrics (update.previousRequests + keptRequests)
      (update.previousAttempts + keptAttempts))
    (hrequests : requests + update.pruning.removedRequests =
      update.newRequest.toList + keptRequests)
    (hattempts : attempts + update.pruning.removedAttempts =
      update.newAttempt.toList + keptAttempts)
    (hrequestsCard : (requests + update.pruning.removedRequests).card ≤ rowLimit)
    (hattemptsCard : (attempts + update.pruning.removedAttempts).card ≤ rowLimit) :
    Accounts (update.apply metrics) requests attempts := by
  rw [hrequests, Multiset.card_add, Multiset.coe_card] at hrequestsCard
  rw [hattempts, Multiset.card_add, Multiset.coe_card] at hattemptsCard
  have hnewRequest := h.removeRequests.removeAttempts.addRequests update.newRequest.toList
    hrequestsCard (by omega)
  have hnewAttempt := hnewRequest.addAttempts update.newAttempt.toList
    (by rw [Multiset.card_add, Multiset.coe_card]; exact hrequestsCard) hattemptsCard
  rw [← hrequests, ← hattempts, add_comm requests, add_comm attempts] at hnewAttempt
  have hpruned := hnewAttempt.removeRequests.removeAttempts.setStoreState update.retentionUsage
    update.pruningStats
  unfold StoreMetricsUpdate.apply
  cases hrequest : update.newRequest <;> cases hattempt : update.newAttempt <;>
    rw [hrequest, hattempt] at hpruned <;> exact hpruned

/-- **A row that replaces the rows with a property**: the rest is there before and after. -/
theorem exists_kept_of_replaced {ρ ω : Type} (rows : List ρ) (p : ρ → Bool) (observe : ρ → ω)
    {previous after : Multiset ω} {added : ω}
    (hprevious : previous = ((rows.filter p).map observe : List ω))
    (hafter : after + ((rows.filter p).map observe : List ω) =
      added ::ₘ (rows.map observe : List ω)) :
    ∃ kept : Multiset ω, ((rows.map observe : List ω) : Multiset ω) = previous + kept ∧
      after = (added ::ₘ 0) + kept := by
  obtain ⟨kept, hkept⟩ : ∃ kept : Multiset ω, (rows.map observe : List ω) =
      (((rows.filter p).map observe : List ω) : Multiset ω) + kept := by
    refine Multiset.le_iff_exists_add.mp (Multiset.coe_le.mpr ?_)
    exact (List.filter_sublist.map observe).subperm
  rw [← hprevious] at hkept hafter
  refine ⟨kept, hkept, ?_⟩
  rw [hkept, ← Multiset.add_cons, add_comm] at hafter
  exact add_left_cancel hafter

/-- What both writes do after the row is there. -/
theorem prune_after (settings : ObservabilitySettings) (now : UInt64)
    (update : RetentionPruneOutcome → RetentionUsage → RetentionPruningStats → StoreMetricsUpdate)
    (s : Session) :
    After (do
        let pruning ← enforceRetention codec settings.retention
        recordPruningOutcome pruning now
        let usage ← readRetentionUsage
        let stats ← readPruningStats
        return update pruning usage stats : Sql StoreMetricsUpdate) s
      (fun result t => ∃ pruning usage stats, result = update pruning usage stats ∧
        held codec t.database pruning = held codec s.database {} ∧
        usageOf t.database = some usage ∧ pruningOf t.database = some stats)
      fun _ => True := by
  refine (enforceRetention_after settings.retention s).bind fun pruning t ht => ?_
  refine (recordPruningOutcome_after codec pruning now t).bind fun _ u hu => ?_
  refine (observes_usage u).weaken.bind fun usage v hv => ?_
  refine (observes_pruning v).weaken.bind fun stats w hw => ?_
  refine After.pure ⟨pruning, usage, stats, rfl, ?_, ?_, ?_⟩
  · rw [← ht, held, held, hw.1, hv.1, hu.1, hu.2]
  · rw [hw.1, hv.1]
    exact hv.2
  · rw [hw.1]
    exact hw.2

/-- **A request that was written, and what was pruned after**: the update gives the metrics of the
rows. -/
theorem writeRequest_after (settings : ObservabilitySettings) (now : UInt64)
    (prepared : PreparedRequest) {previous : Option RequestMetricObservation} {s : Session}
    (hprevious : previous.toList =
      (s.database.requests.rows.filter (·.requestId == prepared.requestId)).map
        (·.metricObservation codec))
    {metrics : MetricsAccumulator} (h : InSync codec s.database metrics) :
    After (writeRequest codec settings now prepared previous) s
      (fun update t => InSync codec t.database (update.apply metrics)) fun _ => True := by
  refine (insertRequest_after codec prepared s).bind fun _ t ht => ?_
  refine (prune_after settings now _ t).mono ?_ fun _ h => h
  rintro update u ⟨pruning, usage, stats, rfl, hheld, husage, hstats⟩
  obtain ⟨hrequests, hattempts⟩ := Prod.mk.inj hheld
  obtain ⟨kept, hbefore, hmid⟩ := exists_kept_of_replaced s.database.requests.rows
    (·.requestId == prepared.requestId) (·.metricObservation codec)
    (congrArg Multiset.ofList hprevious) ht.1
  change requestObservations codec s.database = _ at hbefore
  dsimp only at hrequests hattempts
  rw [Multiset.coe_nil, add_zero] at hrequests hattempts
  refine ⟨accounts_apply kept (attemptObservations codec s.database) ?_ (hrequests.trans hmid) ?_
    ?_ ?_, husage, hstats⟩
  · dsimp only
    rw [← hbefore, Multiset.coe_nil, zero_add]
    exact h.accounts
  · dsimp only
    rw [hattempts, ht.2]
    exact (zero_add _).symm
  · dsimp only
    rw [hrequests]
    exact card_requestObservations_le t.database
  · dsimp only
    rw [hattempts]
    exact card_attemptObservations_le t.database

/-- **An attempt that was written, and what was pruned after.** -/
theorem writeAttempt_after (settings : ObservabilitySettings) (now : UInt64)
    (prepared : PreparedAttempt) {previous : List AttemptMetricObservation} {s : Session}
    (hprevious : (previous : Multiset AttemptMetricObservation) =
      ((s.database.attempts.rows.filter (sameAttempt prepared)).map
        (·.metricObservation codec) : List _))
    {metrics : MetricsAccumulator} (h : InSync codec s.database metrics) :
    After (writeAttempt codec settings now prepared previous) s
      (fun update t => InSync codec t.database (update.apply metrics)) fun _ => True := by
  refine (insertAttempt_after codec prepared s).bind fun _ t ht => ?_
  refine (prune_after settings now _ t).mono ?_ fun _ h => h
  rintro update u ⟨pruning, usage, stats, rfl, hheld, husage, hstats⟩
  obtain ⟨hrequests, hattempts⟩ := Prod.mk.inj hheld
  obtain ⟨kept, hbefore, hmid⟩ := exists_kept_of_replaced s.database.attempts.rows
    (sameAttempt prepared) (·.metricObservation codec) hprevious ht.2
  change attemptObservations codec s.database = _ at hbefore
  dsimp only at hrequests hattempts
  rw [Multiset.coe_nil, add_zero] at hrequests hattempts
  refine ⟨accounts_apply (requestObservations codec s.database) kept ?_ ?_ (hattempts.trans hmid)
    ?_ ?_, husage, hstats⟩
  · dsimp only
    rw [← hbefore, Multiset.coe_nil, zero_add]
    exact h.accounts
  · dsimp only
    rw [hrequests, ht.1]
    exact (zero_add _).symm
  · dsimp only
    rw [hrequests]
    exact card_requestObservations_le t.database
  · dsimp only
    rw [hattempts]
    exact card_attemptObservations_le t.database

/-! ## Every run -/

variable (codec) in
/-- The cache, when it is valid, holds the metrics of the rows. -/
def CacheInSync (store : ObservabilityStore) : Prop :=
  store.metrics.valid = true → InSync codec store.database store.metrics.accumulator

theorem inSync_of_reconstruction {metrics : MetricsAccumulator} {s t : Session}
    (h : reconstructMetricsAccumulator codec s = (.ok metrics, t)) :
    InSync codec t.database metrics := by
  obtain ⟨hsame, hsync⟩ := (observes_reconstruction codec s).of_ok h
  rwa [hsame]

/-- The end of a write: an update that is right, or metrics rebuilt from the rows, or a cache that
is not valid. -/
theorem cacheInSync_finishWrite {cache : MetricsCache}
    {result : Except ObservabilityError StoreMetricsUpdate} {s : Session}
    (h : ∀ update, result = .ok update → cache.valid = true →
      InSync codec s.database (update.apply cache.accumulator)) :
    CacheInSync codec (finishWrite codec cache result s).2 := by
  unfold finishWrite
  cases hrun : reconstructMetricsAccumulator codec s with
  | mk rebuilt t =>
    cases result with
    | ok update =>
      dsimp only
      split_ifs with hvalid
      · exact fun _ => h update rfl hvalid
      · cases rebuilt with
        | ok metrics => exact fun _ => inSync_of_reconstruction hrun
        | error e => exact fun hvalid' => absurd hvalid' hvalid
    | error writeError =>
      cases rebuilt with
      | ok metrics => exact fun _ => inSync_of_reconstruction hrun
      | error e => exact fun hvalid => nomatch hvalid

/-- A write, from what its read of the replaced rows tells. -/
theorem cacheInSync_writeWith {α : Type} {readPrevious : Sql α} {P : α → Database → Prop}
    {write : α → Sql StoreMetricsUpdate} {outcomes : List Outcome} {store : ObservabilityStore}
    (hread : Observes readPrevious P)
    (hwrite : ∀ (previous : α) (s : Session) (metrics : MetricsAccumulator), P previous s.database →
      InSync codec s.database metrics → After (write previous) s
        (fun update t => InSync codec t.database (update.apply metrics)) fun _ => True)
    (h : CacheInSync codec store) :
    CacheInSync codec (writeWith codec readPrevious write outcomes store).2 := by
  have hafter := hread ⟨store.database, outcomes⟩
  unfold writeWith
  cases hrun : readPrevious ⟨store.database, outcomes⟩ with
  | mk previous s =>
    cases previous with
    | error e =>
      intro hvalid
      have hsame := hafter.of_error hrun
      dsimp only at hsame ⊢
      rw [hsame]
      exact h hvalid
    | ok previous =>
      obtain ⟨hsame, hprevious⟩ := hafter.of_ok hrun
      refine cacheInSync_finishWrite fun update hupdate hvalid => ?_
      have hsync : InSync codec s.database store.metrics.accumulator := hsame ▸ h hvalid
      refine (hwrite previous s _ (hsame ▸ hprevious) hsync).of_ok ?_
      exact Prod.ext hupdate rfl

/-- **The call step.** -/
theorem CacheInSync.call {store : ObservabilityStore} (h : CacheInSync codec store)
    (call : StoreCall) : CacheInSync codec (store.call codec call) := by
  cases call with
  | recordRequest settings now record outcomes =>
    unfold ObservabilityStore.call recordRequest
    cases settings with
    | error e => exact h
    | ok settings =>
      dsimp only
      split_ifs
      · exact h
      · cases PreparedRequest.fromRecord codec record settings.captureRawPayloads with
        | error e => exact h
        | ok prepared =>
          exact cacheInSync_writeWith (observes_request prepared.requestId)
            (fun _ _ _ hprevious hsync =>
              writeRequest_after settings now prepared hprevious hsync) h
  | recordAttempt settings now record outcomes =>
    unfold ObservabilityStore.call recordAttempt
    cases settings with
    | error e => exact h
    | ok settings =>
      dsimp only
      split_ifs
      · exact h
      · cases PreparedAttempt.fromRecord codec record settings.captureRawPayloads with
        | error e => exact h
        | ok prepared =>
          exact cacheInSync_writeWith (observes_attempts _ (sameAttempt prepared))
            (fun _ _ _ hprevious hsync =>
              writeAttempt_after settings now prepared hprevious hsync) h

/-- An opened store is in sync. -/
theorem cacheInSync_openStore {db : Database} {outcomes : List Outcome} {store : ObservabilityStore}
    (h : openStore codec db outcomes = .ok store) : CacheInSync codec store := by
  unfold openStore at h
  cases hrun : reconstructMetricsAccumulator codec ⟨db, outcomes⟩ with
  | mk rebuilt s =>
    rw [hrun] at h
    cases rebuilt with
    | error e => cases h
    | ok metrics =>
      rw [← Except.ok.inj h]
      exact fun _ => inSync_of_reconstruction hrun

/-- The calls of a store, one after the other. -/
def storeMachine (codec : MetadataCodec) : Machine ObservabilityStore StoreCall where
  step store call := some (store.call codec call)

theorem query_of_some {α : Type} {action : String} {read : Database → Option α} {db : Database}
    {value : α} (h : read db = some value) : query action read ⟨db, []⟩ = (.ok value, ⟨db, []⟩) := by
  unfold query
  rw [h]
  rfl

theorem readRetentionUsage_of_some {db : Database} {usage : RetentionUsage}
    (h : usageOf db = some usage) : readRetentionUsage ⟨db, []⟩ = (.ok usage, ⟨db, []⟩) := by
  obtain ⟨requestCount, hrequests, hrest⟩ := Option.bind_eq_some_iff.mp h
  obtain ⟨attemptCount, hattempts, rfl⟩ := Option.map_eq_some_iff.mp hrest
  have hrequestCount : readRequestCount ⟨db, []⟩ = (.ok requestCount, ⟨db, []⟩) :=
    query_of_some hrequests
  have hattemptCount : readAttemptCount ⟨db, []⟩ = (.ok attemptCount, ⟨db, []⟩) :=
    query_of_some hattempts
  rw [readRetentionUsage, bind_of_ok hrequestCount, bind_of_ok hattemptCount]
  rfl

theorem readPruningStats_of_some {db : Database} {pruning : RetentionPruningStats}
    (h : pruningOf db = some pruning) : readPruningStats ⟨db, []⟩ = (.ok pruning, ⟨db, []⟩) := by
  refine query_of_some ?_
  obtain ⟨pruneEvents, hevents, hrest⟩ := Option.bind_eq_some_iff.mp h
  obtain ⟨prunedRequests, hrequests, hrest⟩ := Option.bind_eq_some_iff.mp hrest
  obtain ⟨prunedAttempts, hattempts, rfl⟩ := Option.map_eq_some_iff.mp hrest
  simp only [hevents, hrequests, hattempts]
  rfl

/-- Without faults the metrics can be rebuilt, when the counters can be read. -/
theorem reconstruction_of_some {db : Database} {usage : RetentionUsage}
    {pruning : RetentionPruningStats} (husage : usageOf db = some usage)
    (hpruning : pruningOf db = some pruning) : ∃ metrics,
      reconstructMetricsAccumulator codec ⟨db, []⟩ = (.ok metrics, ⟨db, []⟩) := by
  rw [reconstructMetricsAccumulator, bind_of_ok (readRetentionUsage_of_some husage),
    bind_of_ok (readPruningStats_of_some hpruning)]
  exact ⟨_, rfl⟩

/-- **A valid cache holds the metrics of the rows.**  After any calls on an opened store, with any
settings and whatever SQLite does with each statement: if the cache is valid, the metrics can be
rebuilt from the rows there are, and rebuilding them gives the accumulator of the cache and so its
snapshot. -/
theorem valid_metrics_match_rows (codec : MetadataCodec) {db : Database} {outcomes : List Outcome}
    {store last : ObservabilityStore} (hopen : openStore codec db outcomes = .ok store)
    (hreach : (storeMachine codec).Reaches store last) (hvalid : last.metrics.valid = true) :
    ∃ rebuilt, reconstructMetricsAccumulator codec ⟨last.database, []⟩ =
        (.ok rebuilt, ⟨last.database, []⟩) ∧
      last.metrics.accumulator = rebuilt ∧
      last.metrics.accumulator.snapshot = rebuilt.snapshot := by
  have hsync : CacheInSync codec last :=
    hreach.invariant (fun s call t hs hstep => Option.some.inj hstep ▸ CacheInSync.call hs call)
      (cacheInSync_openStore hopen)
  obtain ⟨rebuilt, hrebuilt⟩ :=
    reconstruction_of_some (hsync hvalid).usage (hsync hvalid).pruning
  have hsame := (hsync hvalid).unique (inSync_of_reconstruction hrebuilt)
  exact ⟨rebuilt, hrebuilt, hsame, by rw [hsame]⟩

end

/-- A request of a given id and start. -/
def sampleRequest (requestId : String) (startedAtUnixMs : UInt64) : RequestRecord where
  requestId := requestId
  startedAtUnixMs := startedAtUnixMs
  finishedAtUnixMs := some (startedAtUnixMs + 40)
  downstreamMode := .streaming
  upstreamMode := .streaming
  modelId := none
  inputFingerprint := none
  status := .succeeded
  httpStatus := some 200
  errorReason := none
  abortReason := none
  requestMetadata := []
  responseMetadata := []
  rawPayloads := {}

/-- An attempt of a given id and number. -/
def sampleAttempt (attemptId requestId : String) (attemptNumber : UInt32) : AttemptRecord where
  attemptId := attemptId
  requestId := requestId
  attemptNumber := attemptNumber
  startedAtUnixMs := 5
  finishedAtUnixMs := some 9
  upstreamMode := .streaming
  status := .retried
  httpStatus := some 503
  errorReason := none
  retryReason := none
  abortReason := none
  tokenUsage := {}
  requestMetadata := []
  responseMetadata := []
  rawPayloads := {}

/-- Settings that keep four records. -/
def sampleSettings : ObservabilitySettings := ⟨true, false, ⟨1000, 1000, 4, none⟩⟩

/-- Two requests with an attempt each, an attempt that replaces both of two rows, a write that fails
after its first transaction, and a request whose write prunes the oldest one. -/
def sampleCalls : List StoreCall :=
  [.recordRequest (.ok sampleSettings) 7 (sampleRequest "a" 10) [],
    .recordAttempt (.ok sampleSettings) 7 (sampleAttempt "x" "a" 1) [],
    .recordAttempt (.ok sampleSettings) 7 (sampleAttempt "y" "a" 2) [],
    .recordAttempt (.ok sampleSettings) 7 (sampleAttempt "x" "a" 2) [],
    .recordRequest (.ok sampleSettings) 7 (sampleRequest "b" 20)
      [.done 0, .done 1, .done 2, .done 2, .fails],
    .recordRequest (.ok sampleSettings) 7 (sampleRequest "c" 30) [],
    .recordRequest (.ok sampleSettings) 7 (sampleRequest "d" 40) []]

/-- The store before the sample calls. -/
def sampleStore : ObservabilityStore :=
  ⟨{}, ⟨.new ⟨0, 0, 0, 0⟩ ⟨0, 0, 0, none⟩, true⟩⟩

/-- The store after the sample calls. -/
def sampleStoreAfter : ObservabilityStore :=
  sampleCalls.foldl (fun store call => store.call emptyMetadataCodec call) sampleStore

theorem valid_metrics_match_rows_after_pruning :
    sampleStoreAfter.metrics.valid = true ∧
      sampleStoreAfter.database.requests.rows.map (·.requestId) = ["b", "c", "d"] ∧
      ∃ rebuilt, reconstructMetricsAccumulator emptyMetadataCodec ⟨sampleStoreAfter.database, []⟩ =
          (.ok rebuilt, ⟨sampleStoreAfter.database, []⟩) ∧
        sampleStoreAfter.metrics.accumulator = rebuilt ∧
        sampleStoreAfter.metrics.accumulator.snapshot = rebuilt.snapshot :=
  have hopen : openStore emptyMetadataCodec {} [] = .ok sampleStore := rfl
  have hvalid : sampleStoreAfter.metrics.valid = true := by decide +kernel
  ⟨hvalid, by decide +kernel,
    valid_metrics_match_rows emptyMetadataCodec hopen ⟨sampleCalls, rfl⟩ hvalid⟩

end LlmGuardProxy.Observability
