import LlmGuardProxy.Machinery.Fallible

/-!
# Machinery/Sql — statements of a connection that may fail

A connection holds a database of any kind.  Which of its statements fail is an input; a statement that
fails leaves the database as it was, and so does a transaction in which anything fails.

* `SqlScript.statement_after`, `SqlScript.transaction_after` — what holds after a statement and after a
  transaction.
* `SqlScript.Keeps` — an invariant of the database that a computation keeps, with its rules.
* `SqlScript.Observes` — a computation that only reads, and what it reads.
* `SqlScript.Succeeds` — a computation that succeeds when no statement of the connection fails.
-/

namespace Machinery

/-- A connection: the database, and whether each of the statements to come fails.  After that every
statement is done. -/
structure Connection (δ : Type) where
  database : δ
  failures : List Bool := []

/-- The computations of a connection. -/
abbrev SqlScript (δ ε : Type) := Fallible (Connection δ) ε

namespace SqlScript

open Fallible

variable {δ ε α β : Type}

/-- One statement: it gives a value and writes, or cannot be done. -/
def statement (error : ε) (run : δ → Option (α × δ)) : SqlScript δ ε α := fun s =>
  match s.failures.head?, run s.database with
  | some true, _ => (.error error, ⟨s.database, s.failures.tail⟩)
  | _, none => (.error error, ⟨s.database, s.failures.tail⟩)
  | _, some (value, db) => (.ok value, ⟨db, s.failures.tail⟩)

/-- A statement that only reads. -/
def query (error : ε) (read : δ → Option α) : SqlScript δ ε α :=
  statement error fun db => (read db).map fun value => (value, db)

/-- A statement that writes. -/
def execute (error : ε) (write : δ → Option δ) : SqlScript δ ε Unit :=
  statement error fun db => (write db).map fun db => ((), db)

/-- A statement without rows: `BEGIN`, `COMMIT`, the preparation of a query. -/
def prepare (error : ε) : SqlScript δ ε Unit := query error fun _ => some ()

/-- `BEGIN … COMMIT`: a failure on the way leaves the database as it was. -/
def transaction (start commit : ε) (body : SqlScript δ ε α) : SqlScript δ ε α := fun s =>
  match (do prepare start; let value ← body; prepare commit; return value : SqlScript δ ε α) s with
  | (.ok value, t) => (.ok value, t)
  | (.error e, t) => (.error e, ⟨s.database, t.failures⟩)

/-- One computation for each member of a list, in order. -/
def each {γ : Type} (f : γ → SqlScript δ ε Unit) : List γ → SqlScript δ ε Unit
  | [] => return ()
  | member :: members => do
      f member
      each f members

/-! ## What holds after a statement -/

theorem statement_after (error : ε) (run : δ → Option (α × δ)) (s : Connection δ) :
    After (statement error run) s (fun value t => run s.database = some (value, t.database))
      (fun t => t.database = s.database) := by
  unfold After statement
  cases hrun : run s.database with
  | none => rcases s.failures.head? with _ | _ | _ <;> rfl
  | some result => rcases s.failures.head? with _ | _ | _ <;> rfl

theorem execute_after (error : ε) (write : δ → Option δ) (s : Connection δ) :
    After (execute error write) s (fun _ t => write s.database = some t.database)
      (fun t => t.database = s.database) := by
  refine (statement_after error _ s).mono (fun _ t ht => ?_) fun _ ht => ht
  obtain ⟨db, hdb, heq⟩ := Option.map_eq_some_iff.mp ht
  rw [hdb, ← (Prod.mk.inj heq).2]

/-- **A computation that only reads**, with what its value says of the database. -/
def Observes (x : SqlScript δ ε α) (P : α → δ → Prop) : Prop :=
  ∀ s, After x s (fun value t => t.database = s.database ∧ P value s.database)
    (fun t => t.database = s.database)

theorem Observes.query (error : ε) (read : δ → Option α) :
    Observes (query error read) fun value db => read db = some value := by
  refine fun s => (statement_after error _ s).mono (fun value t ht => ?_) fun _ ht => ht
  obtain ⟨found, hfound, heq⟩ := Option.map_eq_some_iff.mp ht
  obtain ⟨rfl, hdb⟩ := Prod.mk.inj heq
  exact ⟨hdb.symm, hfound⟩

theorem Observes.prepare (error : ε) : Observes (prepare error : SqlScript δ ε Unit) fun _ _ => True :=
  fun s => (Observes.query error _ s).mono (fun _ _ h => ⟨h.1, trivial⟩) fun _ h => h

theorem Observes.pure (value : α) :
    Observes (Pure.pure value : SqlScript δ ε α) fun a _ => a = value := fun _ => ⟨rfl, rfl⟩

theorem Observes.ofExcept (value : Except ε α) :
    Observes (Fallible.ofExcept value : SqlScript δ ε α) fun a _ => value = .ok a := by
  intro s
  unfold After Fallible.ofExcept
  cases value with
  | error e => rfl
  | ok a => exact ⟨rfl, rfl⟩

theorem Observes.bind {x : SqlScript δ ε α} {f : α → SqlScript δ ε β} {P : α → δ → Prop}
    {R : α → β → δ → Prop} (hx : Observes x P) (hf : ∀ a, Observes (f a) (R a)) :
    Observes (x >>= f) fun b db => ∃ a, P a db ∧ R a b db := by
  refine fun s => (hx s).bind fun a t ht => ?_
  refine (hf a t).mono (fun b u hu => ⟨hu.1.trans ht.1, a, ht.2, ht.1 ▸ hu.2⟩) fun u hu => ?_
  exact hu.trans ht.1

theorem Observes.mono {x : SqlScript δ ε α} {P R : α → δ → Prop} (hx : Observes x P)
    (h : ∀ a db, P a db → R a db) : Observes x R :=
  fun s => (hx s).mono (fun a _ ht => ⟨ht.1, h a _ ht.2⟩) fun _ ht => ht

/-- A transaction: what its body has reached, or nothing. -/
theorem transaction_after {start commit : ε} {body : SqlScript δ ε α} {s : Connection δ}
    {Q : α → δ → Prop} (hbody : ∀ t, t.database = s.database →
      After body t (fun value u => Q value u.database) fun _ => True) :
    After (transaction start commit body) s (fun value t => Q value t.database)
      (fun t => t.database = s.database) := by
  have hrun : After (do prepare start; let value ← body; prepare commit; return value : SqlScript δ ε α) s
      (fun value t => Q value t.database) fun _ => True := by
    refine (Observes.prepare start s).weaken.bind fun _ t ht => ?_
    refine (hbody t ht.1).bind fun value u hu => ?_
    refine (Observes.prepare commit u).weaken.bind fun _ v hv => ?_
    exact After.pure (hv.1.symm ▸ hu)
  unfold After at hrun ⊢
  unfold transaction
  split at hrun
  next value t heq => rw [heq]; exact hrun
  next e t heq => rw [heq]

/-- A transaction that fails, whatever its body. -/
theorem transaction_unchanged (start commit : ε) (body : SqlScript δ ε α) (s : Connection δ) :
    After (transaction start commit body) s (fun _ _ => True) fun t => t.database = s.database := by
  refine transaction_after (Q := fun _ _ => True) fun t _ => ?_
  unfold After
  split <;> trivial

/-! ## Invariants -/

/-- **The computation keeps a property of the database**, whether it succeeds or fails. -/
def Keeps (P : δ → Prop) (x : SqlScript δ ε α) : Prop :=
  ∀ s, P s.database → After x s (fun _ t => P t.database) fun t => P t.database

section

variable {P : δ → Prop}

theorem Keeps.pure (value : α) : Keeps P (Pure.pure value : SqlScript δ ε α) := fun _ h => h

theorem Keeps.bind {x : SqlScript δ ε α} {f : α → SqlScript δ ε β} (hx : Keeps P x)
    (hf : ∀ a, Keeps P (f a)) : Keeps P (x >>= f) := fun s h => (hx s h).bind fun a t ht => hf a t ht

/-- A computation with a parameter that is read off the connection. -/
theorem Keeps.ofParameter {γ : Type} {f : γ → SqlScript δ ε α} (parameter : Connection δ → γ)
    (h : ∀ value, Keeps P (f value)) : Keeps P fun s => f (parameter s) s :=
  fun s hs => h (parameter s) s hs

theorem Keeps.ofObserves {x : SqlScript δ ε α} {R : α → δ → Prop} (hx : Observes x R) : Keeps P x :=
  fun s h => (hx s).mono (fun _ _ ht => ht.1.symm ▸ h) fun _ ht => ht.symm ▸ h

theorem Keeps.ofExcept (value : Except ε α) : Keeps P (Fallible.ofExcept value : SqlScript δ ε α) :=
  Keeps.ofObserves (Observes.ofExcept value)

/-- A value that was computed without the database. -/
theorem Keeps.ofExcept_after (value : Except ε α) (s : Connection δ) (h : P s.database) :
    After (Fallible.ofExcept value : SqlScript δ ε α) s
      (fun a t => value = .ok a ∧ P t.database) fun t => P t.database :=
  (Observes.ofExcept value s).mono (fun _ _ ht => ⟨ht.2, ht.1.symm ▸ h⟩) fun _ ht => ht.symm ▸ h

theorem Keeps.ofExcept_bind {value : Except ε α} {f : α → SqlScript δ ε β}
    (hf : ∀ a, value = .ok a → Keeps P (f a)) :
    Keeps P ((Fallible.ofExcept value : SqlScript δ ε α) >>= f) :=
  fun s h => (Keeps.ofExcept_after value s h).bind fun a t ht => hf a ht.1 t ht.2

theorem Keeps.statement {error : ε} {run : δ → Option (α × δ)}
    (h : ∀ db value after, P db → run db = some (value, after) → P after) :
    Keeps P (SqlScript.statement error run) := fun s hs =>
  (statement_after error run s).mono (fun value _ ht => h _ value _ hs ht) fun _ ht => ht.symm ▸ hs

theorem Keeps.execute {error : ε} {write : δ → Option δ}
    (h : ∀ db after, P db → write db = some after → P after) :
    Keeps P (SqlScript.execute error write) :=
  fun s hs => (execute_after error write s).mono (fun _ _ ht => h _ _ hs ht) fun _ ht => ht.symm ▸ hs

theorem Keeps.transaction {start commit : ε} {body : SqlScript δ ε α} (h : Keeps P body) :
    Keeps P (SqlScript.transaction start commit body) := by
  intro s hs
  refine (transaction_after (Q := fun _ db => P db) fun t ht => ?_).mono (fun _ _ hq => hq)
    fun _ ht => ht.symm ▸ hs
  exact (h t (ht.symm ▸ hs)).weaken

theorem Keeps.each {γ : Type} {f : γ → SqlScript δ ε Unit} {members : List γ}
    (h : ∀ member ∈ members, Keeps P (f member)) : Keeps P (each f members) := by
  induction members with
  | nil => exact Keeps.pure _
  | cons member members ih =>
    exact (h member List.mem_cons_self).bind fun _ =>
      ih fun other hother => h other (List.mem_cons_of_mem member hother)

end

/-! ## Success -/

/-- **The computation succeeds** on a connection none of whose statements fails. -/
def Succeeds (x : SqlScript δ ε α) : Prop :=
  ∀ s, true ∉ s.failures → ∃ value t, x s = (.ok value, t) ∧ true ∉ t.failures

theorem Succeeds.pure (value : α) : Succeeds (Pure.pure value : SqlScript δ ε α) :=
  fun s hs => ⟨value, s, rfl, hs⟩

theorem Succeeds.bind {x : SqlScript δ ε α} {f : α → SqlScript δ ε β} (hx : Succeeds x)
    (hf : ∀ a, Succeeds (f a)) : Succeeds (x >>= f) := by
  intro s hs
  obtain ⟨a, t, ha, ht⟩ := hx s hs
  obtain ⟨b, u, hb, hu⟩ := hf a t ht
  exact ⟨b, u, (bind_of_ok ha).trans hb, hu⟩

theorem Succeeds.ofExcept {value : Except ε α} {a : α} (h : value = .ok a) :
    Succeeds (Fallible.ofExcept value : SqlScript δ ε α) := by
  intro s hs
  rw [h]
  exact ⟨a, s, rfl, hs⟩

/-- A statement that can always be done. -/
theorem Succeeds.statement {error : ε} (run : δ → α × δ) :
    Succeeds (SqlScript.statement error fun db => some (run db)) := by
  rintro ⟨db, failures⟩ hs
  unfold SqlScript.statement
  cases failures with
  | nil => exact ⟨_, _, rfl, hs⟩
  | cons failed failures =>
    cases failed with
    | true => exact absurd List.mem_cons_self hs
    | false => exact ⟨_, _, rfl, fun h => hs (List.mem_cons_of_mem false h)⟩

theorem Succeeds.query {error : ε} (read : δ → α) :
    Succeeds (SqlScript.query error fun db => some (read db)) :=
  Succeeds.statement fun db => (read db, db)

theorem Succeeds.execute {error : ε} (write : δ → δ) :
    Succeeds (SqlScript.execute error fun db => some (write db)) :=
  Succeeds.statement fun db => ((), write db)

theorem Succeeds.prepare (error : ε) : Succeeds (prepare error : SqlScript δ ε Unit) :=
  Succeeds.query fun _ => ()

theorem Succeeds.transaction {start commit : ε} {body : SqlScript δ ε α} (h : Succeeds body) :
    Succeeds (SqlScript.transaction start commit body) := by
  intro s hs
  obtain ⟨value, t, hrun, ht⟩ := ((Succeeds.prepare start).bind fun _ => h.bind fun value =>
    (Succeeds.prepare commit).bind fun _ => Succeeds.pure value) s hs
  refine ⟨value, t, ?_, ht⟩
  unfold SqlScript.transaction
  rw [hrun]

end SqlScript

end Machinery
