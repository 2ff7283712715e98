import LlmGuardProxy.Machinery.Text
import Mathlib.Tactic.IntervalCases
import Mathlib.Order.Defs.LinearOrder

/-!
# Machinery/Decimal — decimals of a fixed width

A number that is written with leading zeros to a width it fits in has as many digits as the width says,
so such texts are read back, and they are ordered like their numbers.

* `ofDigitChars_zeroPadded` — a padded decimal read back.
* `zeroPadded_lt_iff` — padded decimals of one width compare like numbers.
* `append_lt_append_iff` — texts compare by their first parts, when these are as long as each other.
-/

namespace Machinery

/-- `format!("{n:0width}")`: the decimal of a number, with zeros in front up to a width. -/
def zeroPadded (width n : ℕ) : Text :=
  List.replicate (width - (Nat.toDigits 10 n).length) '0' ++ Nat.toDigits 10 n

/-! ## Digits -/

theorem digitChar_lt_iff {a b : ℕ} (ha : a < 10) (hb : b < 10) :
    Nat.digitChar a < Nat.digitChar b ↔ a < b := by
  interval_cases a <;> interval_cases b <;> decide

theorem length_toDigits_le {n width : ℕ} (hpos : 0 < width) (h : n < 10 ^ width) :
    (Nat.toDigits 10 n).length ≤ width := by
  induction width generalizing n with
  | zero => omega
  | succ width ih =>
    rw [Nat.toDigits_eq_if (by decide)]
    split
    case isTrue => simp
    case isFalse hten =>
      have hwidth : 0 < width := by
        rcases width with _ | width
        · simp at h
          omega
        · omega
      have hdiv : n / 10 < 10 ^ width := by
        rw [Nat.pow_succ] at h
        omega
      have hlength := ih hwidth hdiv
      simp only [List.length_append, List.length_singleton]
      omega

/-- **The last digit comes off the end.** -/
theorem zeroPadded_succ {width n : ℕ} (hpos : 0 < width) (h : n < 10 ^ (width + 1)) :
    zeroPadded (width + 1) n = zeroPadded width (n / 10) ++ [Nat.digitChar (n % 10)] := by
  have hdiv : n / 10 < 10 ^ width := by
    rw [Nat.pow_succ] at h
    omega
  have hlength := length_toDigits_le hpos hdiv
  unfold zeroPadded
  by_cases hten : n < 10
  · have hzero : n / 10 = 0 := by omega
    have hmod : n % 10 = n := by omega
    rw [hzero, hmod, Nat.toDigits_of_lt_base hten, Nat.toDigits_zero]
    obtain ⟨width, rfl⟩ := Nat.exists_eq_add_one.mpr hpos
    simp [List.replicate_succ']
  · have hdigits := Nat.toDigits_eq_if (n := n) (b := 10) (by decide)
    rw [if_neg hten] at hdigits
    rw [hdigits, List.length_append, List.length_singleton, Nat.add_sub_add_right,
      List.append_assoc]

theorem zeroPadded_one {n : ℕ} (h : n < 10) : zeroPadded 1 n = [Nat.digitChar n] := by
  rw [zeroPadded, Nat.toDigits_of_lt_base h]
  rfl

/-- A number that fits has as many digits as the width says. -/
theorem length_zeroPadded {width n : ℕ} (hpos : 0 < width) (h : n < 10 ^ width) :
    (zeroPadded width n).length = width := by
  have hlength := length_toDigits_le hpos h
  rw [zeroPadded, List.length_append, List.length_replicate]
  omega

theorem isDigit_of_mem_zeroPadded {width n : ℕ} {c : Char} (h : c ∈ zeroPadded width n) :
    c.isDigit = true := by
  rcases List.mem_append.mp h with hzero | hdigit
  · rw [List.eq_of_mem_replicate hzero]
    rfl
  · exact Nat.isDigit_of_mem_toDigits (by decide) (by decide) hdigit

/-- **Reading back.** -/
theorem ofDigitChars_zeroPadded {width n : ℕ} :
    Nat.ofDigitChars 10 (zeroPadded width n) 0 = n := by
  rw [zeroPadded, Nat.ofDigitChars_append, Nat.ofDigitChars_replicate_zero, Nat.mul_zero,
    Nat.ofDigitChars_ten_toDigits]

theorem zeroPadded_inj {width n m : ℕ} : zeroPadded width n = zeroPadded width m ↔ n = m := by
  constructor
  · intro h
    rw [← @ofDigitChars_zeroPadded width n, h, ofDigitChars_zeroPadded]
  · rintro rfl
    rfl

/-! ## Order -/

/-- Texts compare by their first parts, when these are as long as each other. -/
theorem append_lt_append_iff {xs xs' ys ys' : Text} (h : xs.length = xs'.length) :
    xs ++ ys < xs' ++ ys' ↔ xs < xs' ∨ xs = xs' ∧ ys < ys' := by
  induction xs generalizing xs' with
  | nil =>
    obtain rfl : xs' = [] := List.length_eq_zero_iff.mp h.symm
    simp
  | cons x xs ih =>
    cases xs' with
    | nil => simp at h
    | cons x' xs' =>
      rw [List.cons_append, List.cons_append, List.cons_lt_cons_iff, List.cons_lt_cons_iff,
        ih (by simpa using h), List.cons.injEq]
      tauto

/-- **Padded decimals of one width compare like numbers.** -/
theorem zeroPadded_lt_iff {width n m : ℕ} (hpos : 0 < width) (hn : n < 10 ^ width)
    (hm : m < 10 ^ width) : zeroPadded width n < zeroPadded width m ↔ n < m := by
  induction width generalizing n m with
  | zero => omega
  | succ width ih =>
    rcases width with _ | width
    · rw [zeroPadded_one (by simpa using hn), zeroPadded_one (by simpa using hm),
        List.cons_lt_cons_iff, digitChar_lt_iff (by simpa using hn) (by simpa using hm)]
      simp
    · have hpos' : 0 < width + 1 := Nat.succ_pos width
      have hn' : n / 10 < 10 ^ (width + 1) := by
        rw [Nat.pow_succ] at hn
        omega
      have hm' : m / 10 < 10 ^ (width + 1) := by
        rw [Nat.pow_succ] at hm
        omega
      have hlast : [Nat.digitChar (n % 10)] < [Nat.digitChar (m % 10)] ↔ n % 10 < m % 10 := by
        rw [List.cons_lt_cons_iff, digitChar_lt_iff (by omega) (by omega)]
        simp
      rw [zeroPadded_succ hpos' hn, zeroPadded_succ hpos' hm, append_lt_append_iff
        (by rw [length_zeroPadded hpos' hn', length_zeroPadded hpos' hm']),
        ih hpos' hn' hm', zeroPadded_inj, hlast]
      omega

end Machinery
