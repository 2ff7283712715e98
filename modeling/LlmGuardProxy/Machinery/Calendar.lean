import Mathlib.Algebra.Order.Group.Int
import Mathlib.Logic.Function.Iterate

/-!
# Machinery/Calendar — the proleptic Gregorian calendar

Dates are counted day by day from the first of January 1970, with the months as long as the calendar says,
also for the years before it was introduced.

* `Date.ofDay` — the date of a day number, by counting.
* `Date.ofDay_succ` — the day after a day number has the date after its date.
* `Date.ofDay_before_iff` — dates are ordered like their day numbers.
-/

namespace Machinery

/-- A year with a 29th of February. -/
def IsLeapYear (year : ℤ) : Prop := year % 4 = 0 ∧ (year % 100 ≠ 0 ∨ year % 400 = 0)

instance (year : ℤ) : Decidable (IsLeapYear year) := inferInstanceAs (Decidable (_ ∧ _))

/-- The length of a month. -/
def daysInMonth (year month : ℤ) : ℤ :=
  if month = 2 then if IsLeapYear year then 29 else 28
  else if month = 4 ∨ month = 6 ∨ month = 9 ∨ month = 11 then 30
  else 31

theorem daysInMonth_pos (year month : ℤ) : 1 ≤ daysInMonth year month := by
  unfold daysInMonth
  split_ifs <;> decide

/-- A date of the calendar. -/
@[ext]
structure Date where
  year : ℤ
  month : ℤ
  day : ℤ
  month_pos : 1 ≤ month
  month_le : month ≤ 12
  day_pos : 1 ≤ day
  day_le : day ≤ daysInMonth year month

namespace Date

variable {x y z : Date} {d e : ℤ}

/-- The first of January 1970. -/
def epoch : Date := ⟨1970, 1, 1, by decide, by decide, by decide, by decide⟩

/-- The next day. -/
def next (x : Date) : Date :=
  if hday : x.day < daysInMonth x.year x.month then
    ⟨x.year, x.month, x.day + 1, x.month_pos, x.month_le, by have := x.day_pos; omega, by omega⟩
  else if hmonth : x.month < 12 then
    ⟨x.year, x.month + 1, 1, by have := x.month_pos; omega, by omega, le_refl 1,
      daysInMonth_pos _ _⟩
  else ⟨x.year + 1, 1, 1, le_refl 1, by decide, le_refl 1, daysInMonth_pos _ _⟩

/-- The day before. -/
def prev (x : Date) : Date :=
  if hday : 1 < x.day then
    ⟨x.year, x.month, x.day - 1, x.month_pos, x.month_le, by omega, by have := x.day_le; omega⟩
  else if hmonth : 1 < x.month then
    ⟨x.year, x.month - 1, daysInMonth x.year (x.month - 1), by omega, by have := x.month_le; omega,
      daysInMonth_pos _ _, le_refl _⟩
  else ⟨x.year - 1, 12, 31, by decide, by decide, by decide, by simp [daysInMonth]⟩

/-- The date of a day number: so many days after the first of January 1970, or before it. -/
def ofDay : ℤ → Date
  | .ofNat n => next^[n] epoch
  | .negSucc n => prev^[n + 1] epoch

/-! ## Counting -/

theorem next_prev (x : Date) : x.prev.next = x := by
  have hpos := x.day_pos
  have hle := x.day_le
  have hmonth := x.month_pos
  have hmonth' := x.month_le
  unfold prev
  split_ifs with hday hfirst
  · rw [next, dif_pos (by dsimp only; omega)]
    ext <;> simp
  · rw [next, dif_neg (by simp), dif_pos (by dsimp only; omega)]
    ext
    · rfl
    · simp
    · dsimp only
      omega
  · rw [next, dif_neg (by simp [daysInMonth]), dif_neg (by simp)]
    ext
    · simp
    · dsimp only
      omega
    · dsimp only
      omega

/-- **The day after a day number has the date after its date.** -/
theorem ofDay_succ (d : ℤ) : ofDay (d + 1) = (ofDay d).next := by
  cases d with
  | ofNat n => exact Function.iterate_succ_apply' next n epoch
  | negSucc n =>
    cases n with
    | zero => exact (next_prev epoch).symm
    | succ n =>
      have hsucc : Int.negSucc (n + 1) + 1 = Int.negSucc n := by omega
      rw [hsucc]
      change prev^[n + 1] epoch = (prev^[n + 1 + 1] epoch).next
      rw [Function.iterate_succ_apply' prev (n + 1), next_prev]

/-! ## Order -/

/-- One date is before another. -/
def Before (x y : Date) : Prop :=
  x.year < y.year ∨ x.year = y.year ∧ (x.month < y.month ∨ x.month = y.month ∧ x.day < y.day)

theorem Before.trans (hxy : x.Before y) (hyz : y.Before z) : x.Before z := by
  unfold Before at *
  omega

theorem Before.irrefl (x : Date) : ¬ x.Before x := by
  unfold Before
  omega

theorem before_next (x : Date) : x.Before x.next := by
  unfold Before next
  split_ifs <;> simp

theorem ofDay_before (h : d < e) : (ofDay d).Before (ofDay e) := by
  induction e, h using Int.leInduction with
  | base =>
    rw [ofDay_succ]
    exact before_next _
  | succ e _ ih =>
    rw [ofDay_succ]
    exact ih.trans (before_next _)

/-- Later days do not have earlier years. -/
theorem year_ofDay_le (h : d ≤ e) : (ofDay d).year ≤ (ofDay e).year := by
  rcases eq_or_lt_of_le h with rfl | hlt
  · exact le_refl _
  · have hbefore := ofDay_before hlt
    rw [Before] at hbefore
    omega

/-- **Dates are ordered like their day numbers.** -/
theorem ofDay_before_iff : (ofDay d).Before (ofDay e) ↔ d < e := by
  refine ⟨fun h => ?_, ofDay_before⟩
  by_contra hge
  rcases eq_or_lt_of_le (not_lt.mp hge) with rfl | hlt
  · exact Before.irrefl _ h
  · exact Before.irrefl _ (h.trans (ofDay_before hlt))

end Date

end Machinery
