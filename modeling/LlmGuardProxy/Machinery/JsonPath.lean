import LlmGuardProxy.Machinery.Json

/-!
# Machinery/JsonPath — reading and writing JSON objects by paths

A path is a list of keys.  Reading walks through objects and says whether the walk ends at a value,
at an absent key, or at a value that is no object; writing creates the objects that are absent.

* `valueAtPath_setAtPath`, `valueAtPath_setAtPath_of_apart` — what a write changes.
* `setAtPath_eq_none` — a write fails where a read is malformed.
* `objectAtPath_setAtPath` — a write over something that is read creates no object.
* `valueAtPath_foldl` — loops over paths of which none goes through another.
* `Keeps` — objects that may only grow.
-/

namespace Machinery

/-- A path of keys. -/
abbrev KeyPath := List String

/-- What a walk along a path ends at. -/
inductive PathValue where
  | missing
  | malformed
  | value (value : Json)

/-- A read after a write of a value, which fails at a malformed read. -/
def PathValue.overwrite (value : Json) : PathValue → PathValue
  | .malformed => .malformed
  | _ => .value value

namespace Json.Members

/-- The value at the end of a path. -/
def valueAtPath : KeyPath → Members → PathValue
  | [], _ => .missing
  | [last], members => (members.get last).elim .missing .value
  | key :: next :: rest, members =>
      match members.get key with
      | some (.obj inner) => valueAtPath (next :: rest) inner
      | some _ => .malformed
      | none => .missing

/-- A write at the end of a path, which creates the objects on the way that are absent.  A write that
meets a value that is no object fails before it creates anything. -/
def setAtPath (value : Json) : KeyPath → Members → Option Members
  | [], _ => none
  | [last], members => some (insert last value members)
  | key :: next :: rest, members =>
      match members.get key with
      | some (.obj inner) =>
          (setAtPath value (next :: rest) inner).map fun inner => insert key (.obj inner) members
      | some _ => none
      | none =>
          (setAtPath value (next :: rest) []).map fun inner => insert key (.obj inner) members

/-- Whether all the keys of a path lead to objects. -/
def objectAtPath : KeyPath → Members → Bool
  | [], _ => true
  | key :: rest, members =>
      match members.get key with
      | some (.obj inner) => objectAtPath rest inner
      | _ => false

/-! ## Paths apart -/

/-- Two paths of which none goes through the other. -/
def Apart (p q : KeyPath) : Prop := ¬ p <+: q ∧ ¬ q <+: p

instance (p q : KeyPath) : Decidable (Apart p q) := inferInstanceAs (Decidable (_ ∧ _))

theorem Apart.symm {p q : KeyPath} (h : Apart p q) : Apart q p := ⟨h.2, h.1⟩

theorem apart_cons_cons {key : String} {p q : KeyPath} : Apart (key :: p) (key :: q) ↔ Apart p q := by
  simp [Apart, List.cons_prefix_cons]

variable {members members' : Members} {value : Json} {p q : KeyPath}

theorem get_insert (key : String) (value : Json) (members : Members) (other : String) :
    (insert key value members).get other = if other = key then some value else members.get other :=
  lookup_insert key value members other

theorem valueAtPath_nil_members (p : KeyPath) : valueAtPath p [] = .missing := by
  match p with
  | [] => rfl
  | [_] => rfl
  | _ :: _ :: _ => rfl

/-! ## Reads after a write -/

/-- One step of a write: the object under the first key, which is there or is created. -/
theorem setAtPath_cons_cons {key next : String} {rest : KeyPath}
    (h : setAtPath value (key :: next :: rest) members = some members') :
    ∃ inner inner', (members.get key = some (.obj inner) ∨ members.get key = none ∧ inner = []) ∧
      setAtPath value (next :: rest) inner = some inner' ∧
      members' = insert key (.obj inner') members := by
  unfold setAtPath at h
  split at h
  case h_1 inner hget =>
    obtain ⟨inner', hinner, rfl⟩ := Option.map_eq_some_iff.mp h
    exact ⟨inner, inner', .inl hget, hinner, rfl⟩
  case h_2 => cases h
  case h_3 hget =>
    obtain ⟨inner', hinner, rfl⟩ := Option.map_eq_some_iff.mp h
    exact ⟨[], inner', .inr ⟨hget, rfl⟩, hinner, rfl⟩

/-- What was written is read. -/
theorem valueAtPath_setAtPath (h : setAtPath value p members = some members') :
    valueAtPath p members' = .value value := by
  induction p generalizing members members' with
  | nil => cases h
  | cons key rest ih =>
    cases rest with
    | nil =>
      obtain rfl := Option.some.inj h
      simp [valueAtPath, get_insert]
    | cons next rest =>
      obtain ⟨inner, inner', -, hinner, rfl⟩ := setAtPath_cons_cons h
      simp [valueAtPath, get_insert, ih hinner]

/-- Other paths are read as before. -/
theorem valueAtPath_setAtPath_of_apart (h : setAtPath value p members = some members')
    (hapart : Apart p q) : valueAtPath q members' = valueAtPath q members := by
  induction p generalizing members members' q with
  | nil => cases h
  | cons key rest ih =>
    cases q with
    | nil => rfl
    | cons other tail =>
      by_cases hkey : other = key
      · subst hkey
        rw [apart_cons_cons] at hapart
        cases rest with
        | nil => exact absurd List.nil_prefix hapart.1
        | cons next rest =>
          cases tail with
          | nil => exact absurd List.nil_prefix hapart.2
          | cons next' tail =>
            obtain ⟨inner, inner', hget, hinner, rfl⟩ := setAtPath_cons_cons h
            have hread := ih hinner hapart
            rcases hget with hget | ⟨hget, rfl⟩
            · simp [valueAtPath, get_insert, hget, hread]
            · simp [valueAtPath, get_insert, hget, hread, valueAtPath_nil_members]
      · have hget : members'.get other = members.get other := by
          cases rest with
          | nil =>
            obtain rfl := Option.some.inj h
            rw [get_insert, if_neg hkey]
          | cons next rest =>
            obtain ⟨inner, inner', -, -, rfl⟩ := setAtPath_cons_cons h
            rw [get_insert, if_neg hkey]
        cases tail with
        | nil => simp only [valueAtPath, hget]
        | cons next' tail => simp only [valueAtPath, hget]

/-- A write fails where a read is malformed. -/
theorem setAtPath_eq_none (hp : p ≠ []) :
    setAtPath value p members = none ↔ valueAtPath p members = .malformed := by
  induction p generalizing members with
  | nil => exact absurd rfl hp
  | cons key rest ih =>
    cases rest with
    | nil =>
      simp only [setAtPath, valueAtPath, reduceCtorEq, false_iff]
      cases members.get key <;> simp
    | cons next rest =>
      unfold setAtPath valueAtPath
      split
      case h_1 inner hget => rw [Option.map_eq_none_iff, ih (by simp)]
      case h_2 => simp
      case h_3 hget =>
        rw [Option.map_eq_none_iff, ih (by simp), valueAtPath_nil_members]

/-! ## Writes that may fail -/

/-- A write that may fail, read at its path. -/
theorem valueAtPath_getD_setAtPath (hp : p ≠ []) :
    valueAtPath p ((setAtPath value p members).getD members) =
      (valueAtPath p members).overwrite value := by
  cases h : setAtPath value p members with
  | none =>
    rw [Option.getD_none, (setAtPath_eq_none hp).mp h]
    rfl
  | some members' =>
    rw [Option.getD_some, valueAtPath_setAtPath h]
    cases hread : valueAtPath p members with
    | malformed => rw [← setAtPath_eq_none hp, h] at hread; cases hread
    | _ => rfl

/-- A write that may fail, read at another path. -/
theorem valueAtPath_getD_setAtPath_of_apart (hapart : Apart p q) :
    valueAtPath q ((setAtPath value p members).getD members) = valueAtPath q members := by
  cases h : setAtPath value p members with
  | none => rfl
  | some members' => exact valueAtPath_setAtPath_of_apart h hapart

/-- A read is malformed on the way to its last key. -/
theorem valueAtPath_malformed_iff {key : String} {rest : KeyPath} {last last' : String} :
    valueAtPath (key :: rest ++ [last]) members = .malformed ↔
      valueAtPath (key :: rest ++ [last']) members = .malformed := by
  induction rest generalizing key members with
  | nil =>
    simp only [List.cons_append, List.nil_append, valueAtPath]
    cases members.get key with
    | none => exact Iff.rfl
    | some value =>
      cases value with
      | obj inner =>
        dsimp only
        cases Members.get inner last <;> cases Members.get inner last' <;> simp
      | _ => exact Iff.rfl
  | cons next rest ih =>
    simp only [List.cons_append, valueAtPath]
    cases members.get key with
    | none => exact Iff.rfl
    | some value =>
      cases value with
      | obj inner => exact ih
      | _ => exact Iff.rfl

/-! ## Objects on a path -/

/-- A write over something that is read creates no object. -/
theorem objectAtPath_setAtPath (h : setAtPath value p members = some members')
    (hread : valueAtPath p members ≠ .missing) (hq : ¬ p <+: q) :
    objectAtPath q members' = objectAtPath q members := by
  induction p generalizing members members' q with
  | nil => cases h
  | cons key rest ih =>
    cases q with
    | nil => rfl
    | cons other tail =>
      by_cases hkey : other = key
      · subst hkey
        rw [List.cons_prefix_cons] at hq
        cases rest with
        | nil => exact absurd ⟨rfl, List.nil_prefix⟩ hq
        | cons next rest =>
          obtain ⟨inner, inner', hget | ⟨hget, -⟩, hinner, rfl⟩ := setAtPath_cons_cons h
          · have hbelow : valueAtPath (next :: rest) inner ≠ .missing := by
              simpa only [valueAtPath, hget] using hread
            have hobject := ih hinner hbelow fun hprefix => hq ⟨rfl, hprefix⟩
            simp only [objectAtPath, get_insert, if_pos, hget, hobject]
          · simp only [valueAtPath, hget] at hread
            exact absurd rfl hread
      · have hget : members'.get other = members.get other := by
          cases rest with
          | nil =>
            obtain rfl := Option.some.inj h
            rw [get_insert, if_neg hkey]
          | cons next rest =>
            obtain ⟨inner, inner', -, -, rfl⟩ := setAtPath_cons_cons h
            rw [get_insert, if_neg hkey]
        simp only [objectAtPath, hget]

/-! ## Objects that grow -/

/-- Every member of an object is a member of another. -/
def Keeps (members members' : Members) : Prop :=
  ∀ key value, members.get key = some value → members'.get key = some value

/-- Then every value that is read stays. -/
theorem Keeps.valueAtPath (h : Keeps members members')
    (hread : valueAtPath p members = .value value) : valueAtPath p members' = .value value := by
  match p with
  | [] => exact hread
  | [last] =>
    cases hget : members.get last with
    | none => simp [Members.valueAtPath, hget] at hread
    | some found =>
      simp only [Members.valueAtPath, hget] at hread
      simp only [Members.valueAtPath, h last found hget]
      exact hread
  | key :: next :: rest =>
    cases hget : members.get key with
    | none => simp [Members.valueAtPath, hget] at hread
    | some found =>
      simp only [Members.valueAtPath, hget] at hread
      simp only [Members.valueAtPath, h key found hget]
      exact hread

theorem keeps_insert {key : String} (hget : members.get key = none) (value : Json) :
    Keeps members (insert key value members) := by
  intro other found hfound
  rw [get_insert, if_neg]
  · exact hfound
  · rintro rfl
    rw [hget] at hfound
    cases hfound

/-! ## Loops over paths apart -/

section

variable {σ ε : Type*} {step : σ → ε → σ} {object : σ → Members} {path : ε → KeyPath}
  {entries : List ε}

/-- A loop of which each turn rewrites what is read at its own path, and at no other. -/
theorem valueAtPath_foldl {rewrite : ε → PathValue → PathValue}
    (hframe : ∀ e ∈ entries, ∀ s q, Apart (path e) q →
      valueAtPath q (object (step s e)) = valueAtPath q (object s))
    (hself : ∀ e ∈ entries, ∀ s,
      valueAtPath (path e) (object (step s e)) = rewrite e (valueAtPath (path e) (object s)))
    (hapart : entries.Pairwise fun a b => Apart (path a) (path b)) (s : σ) :
    (∀ e ∈ entries, valueAtPath (path e) (object (entries.foldl step s)) =
        rewrite e (valueAtPath (path e) (object s))) ∧
      ∀ q, (∀ e ∈ entries, Apart (path e) q) →
        valueAtPath q (object (entries.foldl step s)) = valueAtPath q (object s) := by
  induction entries generalizing s with
  | nil => exact ⟨fun _ he => absurd he List.not_mem_nil, fun _ _ => rfl⟩
  | cons first rest ih =>
    obtain ⟨hfirst, hrest⟩ := List.pairwise_cons.mp hapart
    obtain ⟨hreads, hframes⟩ := ih (fun e he => hframe e (.tail _ he))
      (fun e he => hself e (.tail _ he)) hrest (step s first)
    refine ⟨fun e he => ?_, fun q hq => ?_⟩
    · rw [List.foldl_cons]
      rcases List.mem_cons.mp he with rfl | he'
      · rw [hframes _ fun e' he' => (hfirst e' he').symm, hself e he]
      · rw [hreads e he', hframe first (.head _) _ _ (hfirst e he')]
    · rw [List.foldl_cons, hframes q fun e he => hq e (.tail _ he),
        hframe first (.head _) _ _ (hq first (.head _))]

/-- A loop of which each turn writes over something that is read. -/
theorem objectAtPath_foldl {q : KeyPath}
    (hframe : ∀ e ∈ entries, ∀ s q, Apart (path e) q →
      valueAtPath q (object (step s e)) = valueAtPath q (object s))
    (hobject : ∀ e ∈ entries, ∀ s, valueAtPath (path e) (object s) ≠ .missing →
      objectAtPath q (object (step s e)) = objectAtPath q (object s))
    (hapart : entries.Pairwise fun a b => Apart (path a) (path b)) {s : σ}
    (hread : ∀ e ∈ entries, valueAtPath (path e) (object s) ≠ .missing) :
    objectAtPath q (object (entries.foldl step s)) = objectAtPath q (object s) := by
  induction entries generalizing s with
  | nil => rfl
  | cons first rest ih =>
    obtain ⟨hfirst, hrest⟩ := List.pairwise_cons.mp hapart
    rw [List.foldl_cons, ih (fun e he => hframe e (.tail _ he)) (fun e he => hobject e (.tail _ he))
      hrest fun e he => ?_, hobject first (.head _) s (hread first (.head _))]
    rw [hframe first (.head _) s _ (hfirst e he)]
    exact hread e (.tail _ he)

end

end Json.Members

end Machinery
