import Mathlib.Data.Nat.Notation

/-!
# Machinery/Fallible — computations that fail and keep their state

A computation on a state ends with a value or an error, and in both cases with a state: what was
done before the failure stays done.

* `After.bind`, `After.mono` — what holds at the end of a computation, from what holds at the end of
  its parts.
* `After.of_ok` — reading such a statement off a run that succeeded.
* `bind_eq_ok` — the same without a state: two computations in a row that succeeded.
-/

namespace Machinery

theorem ok_bind {ε α β : Type} (a : α) (next : α → Except ε β) :
    ((.ok a : Except ε α) >>= next) = next a := rfl

/-- Two computations without a state that succeeded, one after the other. -/
theorem bind_eq_ok {ε α β : Type} {first : Except ε α} {next : α → Except ε β} {b : β}
    (h : (first >>= next) = .ok b) : ∃ a, first = .ok a ∧ next a = .ok b := by
  cases first with
  | error error => cases h
  | ok a => exact ⟨a, rfl, h⟩

/-- A computation on a state that may fail.  A failure keeps the state it happened in. -/
def Fallible (σ ε α : Type) : Type := σ → Except ε α × σ

namespace Fallible

variable {σ ε α β : Type}

/-- One computation after the other. -/
def andThen (x : Fallible σ ε α) (f : α → Fallible σ ε β) : Fallible σ ε β := fun s =>
  match x s with
  | (.ok a, t) => f a t
  | (.error e, t) => (.error e, t)

instance : Monad (Fallible σ ε) where
  pure a := fun s => (.ok a, s)
  bind := andThen

/-- A computation that fails at once. -/
def fail (e : ε) : Fallible σ ε α := fun s => (.error e, s)

/-- A value that was computed without the state. -/
def ofExcept (value : Except ε α) : Fallible σ ε α := fun s => (value, s)

/-- **What holds at the end of a run**: `Q` of the value and the state after a success, `E` of the
state after a failure. -/
def After (x : Fallible σ ε α) (s : σ) (Q : α → σ → Prop) (E : σ → Prop) : Prop :=
  match x s with
  | (.ok a, t) => Q a t
  | (.error _, t) => E t

variable {x : Fallible σ ε α} {f : α → Fallible σ ε β} {s : σ} {Q : α → σ → Prop} {E : σ → Prop}

theorem After.pure {a : α} (h : Q a s) : After (Pure.pure a : Fallible σ ε α) s Q E := h

/-- The rule for two computations in a row. -/
theorem After.bind {R : β → σ → Prop} (h : After x s Q E)
    (hf : ∀ a t, Q a t → After (f a) t R E) : After (x >>= f) s R E := by
  change After (andThen x f) s R E
  unfold After andThen
  unfold After at h
  cases hx : x s with
  | mk result t =>
    rw [hx] at h
    cases result with
    | ok a => exact hf a t h
    | error e => exact h

/-- A run that goes on after a success. -/
theorem bind_of_ok {a : α} {t : σ} (hx : x s = (.ok a, t)) : (x >>= f) s = f a t := by
  change andThen x f s = f a t
  unfold andThen
  rw [hx]

/-- Runs that go on alike wherever the first part may lead. -/
theorem bind_congr_after {g : α → Fallible σ ε β} (h : After x s Q E)
    (hfg : ∀ a t, Q a t → f a t = g a t) : (x >>= f) s = (x >>= g) s := by
  change andThen x f s = andThen x g s
  unfold andThen
  unfold After at h
  cases hx : x s with
  | mk result t =>
    rw [hx] at h
    cases result with
    | ok a => exact hfg a t h
    | error e => rfl

theorem After.mono {Q' : α → σ → Prop} {E' : σ → Prop} (h : After x s Q E)
    (hQ : ∀ a t, Q a t → Q' a t) (hE : ∀ t, E t → E' t) : After x s Q' E' := by
  unfold After at h ⊢
  cases hx : x s with
  | mk result t =>
    rw [hx] at h
    cases result with
    | ok a => exact hQ a t h
    | error e => exact hE t h

/-- Where nothing is asked of a failure. -/
theorem After.weaken (h : After x s Q E) : After x s Q fun _ => True :=
  h.mono (fun _ _ hq => hq) fun _ _ => trivial

/-- A success, with the run it comes from. -/
theorem After.with_run (h : After x s Q E) : After x s (fun a t => x s = (.ok a, t) ∧ Q a t) E := by
  unfold After at h ⊢
  cases hx : x s with
  | mk result t =>
    rw [hx] at h
    cases result with
    | ok a => exact ⟨rfl, h⟩
    | error e => exact h

/-- What holds of the state in either case. -/
theorem After.of_either {R : σ → Prop} (h : After x s (fun _ t => R t) R) : R (x s).2 := by
  unfold After at h
  cases hx : x s with
  | mk result t =>
    rw [hx] at h
    cases result with
    | ok a => exact h
    | error e => exact h

/-- What holds after a run that succeeded. -/
theorem After.of_ok {a : α} {t : σ} (h : After x s Q E) (hx : x s = (.ok a, t)) : Q a t := by
  unfold After at h
  rwa [hx] at h

/-- What holds after a run that failed. -/
theorem After.of_error {e : ε} {t : σ} (h : After x s Q E) (hx : x s = (.error e, t)) : E t := by
  unfold After at h
  rwa [hx] at h

end Fallible

end Machinery
