import Mathlib.Data.Nat.Notation

/-!
# Machinery/Notify — waiting for an announcement without missing it

Whoever waits takes a ticket first and looks at the condition afterwards; whoever makes the condition true
announces it afterwards.  What wakes a ticket is `NotifyWakes`, a parameter: every announcement that comes after it
was taken, and nothing else.

* `Announced` — a ticket misses nothing: as soon as the condition holds, it has been called or will be.
* `Announced.of_not`, `Announced.mono`, `Announced.notify` — how it is established and kept.
-/

namespace Machinery

/-- **What a `Notify` guarantees to an enabled `Notified`.**  `woken ticket calls` says whether the future that was
taken after `ticket` calls of `notify_waiters` is ready after `calls` of them: every later call makes it so, and
nothing else does. -/
class NotifyWakes where
  woken : ℕ → ℕ → Bool
  woken_of_lt : ∀ {ticket calls : ℕ}, ticket < calls → woken ticket calls = true
  not_woken_of_le : ∀ {ticket calls : ℕ}, calls ≤ ticket → woken ticket calls = false

/-- Tickets that are numbered, and compared with the number of calls. -/
@[reducible] def numberedTickets : NotifyWakes where
  woken ticket calls := ticket < calls
  woken_of_lt h := decide_eq_true h
  not_woken_of_le h := decide_eq_false (Nat.not_lt.mpr h)

/-- A `Notify`: how often `notify_waiters` has been called on it. -/
structure Notify where
  calls : ℕ := 0
  deriving DecidableEq

namespace Notify

/-- `notified`, enabled: a ticket for the calls to come. -/
def notified (notify : Notify) : ℕ := notify.calls

/-- `notify_waiters`. -/
def notifyWaiters (notify : Notify) : Notify := ⟨notify.calls + 1⟩

variable [NotifyWakes]

/-- Whether a ticket has been called. -/
def Called (notify : Notify) (ticket : ℕ) : Prop := NotifyWakes.woken ticket notify.calls = true

instance (notify : Notify) (ticket : ℕ) : Decidable (notify.Called ticket) :=
  inferInstanceAs (Decidable (_ = true))

/-- Every ticket that was taken before is called. -/
theorem called_notifyWaiters {notify : Notify} {ticket : ℕ} (h : ticket ≤ notify.calls) :
    notify.notifyWaiters.Called ticket := NotifyWakes.woken_of_lt (Nat.lt_succ_of_le h)

/-- A ticket that has been called was taken before the last call. -/
theorem Called.lt {notify : Notify} {ticket : ℕ} (h : notify.Called ticket) : ticket < notify.calls := by
  refine Nat.lt_of_not_le fun hle => ?_
  have hnot := NotifyWakes.not_woken_of_le hle
  rw [Notify.Called, hnot] at h
  cases h

end Notify

variable [NotifyWakes]

/-- **Nothing is missed**: when the condition holds, the ticket has been called or somebody is about to
announce it. -/
def Announced (condition : Prop) (announcing : ℕ) (notify : Notify) (ticket : ℕ) : Prop :=
  condition → 0 < announcing ∨ notify.Called ticket

variable {condition condition' : Prop} {announcing announcing' ticket : ℕ} {cell : Notify}

theorem Announced.of_not (h : ¬ condition) : Announced condition announcing cell ticket :=
  fun hcondition => absurd hcondition h

/-- The condition comes to hold in no other way. -/
theorem Announced.mono (h : Announced condition announcing cell ticket) (hcondition : condition' → condition)
    (hannouncing : announcing ≤ announcing') : Announced condition' announcing' cell ticket :=
  fun hholds => (h (hcondition hholds)).imp_left fun hpos => Nat.lt_of_lt_of_le hpos hannouncing

/-- An announcement calls every ticket. -/
theorem Announced.notify (h : ticket ≤ cell.calls) :
    Announced condition announcing cell.notifyWaiters ticket :=
  fun _ => .inr (Notify.called_notifyWaiters h)

/-- When nobody is about to announce anything, the ticket has been called. -/
theorem Announced.called (h : Announced condition announcing cell ticket) (hcondition : condition)
    (hnone : announcing = 0) : cell.Called ticket :=
  (h hcondition).resolve_left (by omega)

end Machinery
