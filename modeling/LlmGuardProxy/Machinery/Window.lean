import Mathlib

/-!
# Machinery/Window — tumbling windows and sliding intervals

A budget may be spent in a **tumbling window**: the window opens at some time, and is replaced by the next one
when its length has passed and somebody asks.  `Tumbling` is what holds of the times at which it was spent.
What lies in the last interval of a given length can also be asked of a **log** of entries; `Trailing` is
what holds of a log of which old entries are dropped, by their age or by their number.

* `Tumbling.reopen`, `Tumbling.keep`, `Tumbling.spend`, `Tumbling.tick` — the steps of a window.
* `Tumbling.bounded` — an interval of the length of a window, wherever it lies, holds at most twice the budget.
* `Trailing.push`, `Trailing.expire`, `Trailing.tick` — the steps of a log.
* `Trailing.sum_lt_iff` — the short log is as far below a limit as the whole one.
-/

namespace Machinery

/-- The window that was opened at `opened`, of which `spent` is used up at `clock`, after `times`: of the times
before it was opened, those less than a length ago fit the budget. -/
structure Tumbling (length budget clock : ℕ) (opened : Option ℕ) (spent : ℕ) (times : List ℕ) :
    Prop where
  split : ∃ earlier current, times = earlier ++ current ∧ current.length = spent ∧
    ∀ start, opened = some start → (∀ time ∈ earlier, time ≤ start) ∧
      ∀ a, start < a + length → earlier.countP (fun time => a ≤ time) ≤ budget
  unopened : opened = none → times = []
  opened_le : ∀ start, opened = some start → start ≤ clock
  spent_le : spent ≤ budget
  times_le : ∀ time ∈ times, time ≤ clock
  bounded : ∀ a, times.countP (fun time => a ≤ time ∧ time < a + length) ≤ 2 * budget

namespace Tumbling

variable {length budget clock spent : ℕ} {opened : Option ℕ} {times : List ℕ}

/-- No window has been opened. -/
theorem none (length budget clock : ℕ) : Tumbling length budget clock none 0 [] where
  split := ⟨[], [], rfl, rfl, fun _ h => by cases h⟩
  unopened _ := rfl
  opened_le _ h := by cases h
  spent_le := Nat.zero_le budget
  times_le _ h := by cases h
  bounded _ := Nat.zero_le _

/-- Time passes. -/
theorem tick (h : Tumbling length budget clock opened spent times) {later : ℕ}
    (hle : clock ≤ later) : Tumbling length budget later opened spent times :=
  { h with
    opened_le := fun start hstart => Nat.le_trans (h.opened_le start hstart) hle
    times_le := fun time hmem => Nat.le_trans (h.times_le time hmem) hle }

/-- **The next window.**  What was spent in the last one is all that was spent less than a length ago. -/
theorem reopen (h : Tumbling length budget clock opened spent times)
    (hpassed : length ≤ clock - opened.getD clock) :
    Tumbling length budget clock (some clock) 0 times := by
  refine ⟨⟨times, [], (List.append_nil times).symm, rfl, ?_⟩, nofun, ?_,
    Nat.zero_le budget, h.times_le, h.bounded⟩
  · rintro start ⟨⟩
    refine ⟨h.times_le, fun a ha => ?_⟩
    obtain ⟨earlier, current, rfl, hcurrent, hopened⟩ := h.split
    cases hstart : opened with
    | none =>
      rw [h.unopened hstart]
      exact Nat.zero_le budget
    | some start =>
      have hle := h.opened_le start hstart
      have hspent := h.spent_le
      rw [hstart, Option.getD_some] at hpassed
      obtain ⟨hearlier, -⟩ := hopened start hstart
      have hzero : earlier.countP (fun time => a ≤ time) = 0 := by
        refine List.countP_eq_zero.mpr fun time hmem => ?_
        have htime := hearlier time hmem
        simp only [decide_eq_true_eq]
        omega
      have hcount : current.countP (fun time => a ≤ time) ≤ current.length := List.countP_le_length
      rw [List.countP_append]
      omega
  · rintro start ⟨⟩
    exact Nat.le_refl clock

/-- The window goes on, or is opened for the first time. -/
theorem keep (h : Tumbling length budget clock opened spent times) :
    Tumbling length budget clock (some (opened.getD clock)) spent times := by
  cases hopened : opened with
  | some start =>
    rw [Option.getD_some, ← hopened]
    exact h
  | none =>
    obtain ⟨earlier, current, htimes, hcurrent, -⟩ := h.split
    have hnil := h.unopened hopened
    refine ⟨⟨earlier, current, htimes, hcurrent, fun start _ => ?_⟩, nofun, ?_,
      h.spent_le, h.times_le, h.bounded⟩
    · obtain ⟨rfl, -⟩ := List.append_eq_nil_iff.mp (htimes.symm.trans hnil)
      exact ⟨nofun, fun _ _ => Nat.zero_le budget⟩
    · rintro start ⟨⟩
      exact Nat.le_refl clock

/-- **Spending.**  An interval that holds the new time reaches behind the opening of the window by less than a
length. -/
theorem spend {start : ℕ} (h : Tumbling length budget clock (some start) spent times)
    (hbudget : spent < budget) :
    Tumbling length budget clock (some start) (spent + 1) (times ++ [clock]) := by
  obtain ⟨earlier, current, rfl, hcurrent, hopened⟩ := h.split
  obtain ⟨hearlier, hrecent⟩ := hopened start rfl
  refine ⟨⟨earlier, current ++ [clock], List.append_assoc _ _ _, ?_, ?_⟩, nofun,
    h.opened_le, hbudget, ?_, fun a => ?_⟩
  · rw [List.length_append, hcurrent, List.length_singleton]
  · rintro _ ⟨⟩
    exact ⟨hearlier, hrecent⟩
  · intro time hmem
    rcases List.mem_append.mp hmem with hold | hnew
    · exact h.times_le time hold
    · exact Nat.le_of_eq (List.mem_singleton.mp hnew)
  · rw [List.countP_append, List.countP_singleton]
    split
    next hin =>
      obtain ⟨-, hlt⟩ : a ≤ clock ∧ clock < a + length := by simpa using hin
      have hle := h.opened_le start rfl
      have hbefore : earlier.countP (fun time => a ≤ time ∧ time < a + length) ≤ budget :=
        Nat.le_trans (List.countP_mono_left fun time _ htime => by
          simp only [decide_eq_true_eq] at htime ⊢
          exact htime.1) (hrecent a (by omega))
      have hafter : current.countP (fun time => a ≤ time ∧ time < a + length) ≤ current.length :=
        List.countP_le_length
      rw [List.countP_append]
      omega
    · exact h.bounded a

end Tumbling

/-! ## Trailing logs -/

/-- An entry, with its time and its weight, lies in the last interval. -/
def inWindow (length clock : ℕ) (entry : ℕ × ℕ) : Bool := clock ≤ entry.1 + length

/-- The log without the entries in front that are too old. -/
def expire (length clock : ℕ) (kept : List (ℕ × ℕ)) : List (ℕ × ℕ) :=
  kept.dropWhile fun entry => !inWindow length clock entry

/-- The last entries of a list, `cap` of them at most. -/
def lastEntries (cap : ℕ) (kept : List (ℕ × ℕ)) : List (ℕ × ℕ) := kept.drop (kept.length - cap)

/-- What is `kept` of a log at `clock`: its last entries.  All that were dropped are too old, or there are
`cap` left. -/
structure Trailing (cap length clock : ℕ) (log kept : List (ℕ × ℕ)) : Prop where
  split : ∃ dropped, log = dropped ++ kept ∧
    ((∀ entry ∈ dropped, inWindow length clock entry = false) ∨ cap ≤ kept.length)
  ordered : log.Pairwise fun a b => a.1 ≤ b.1
  past : ∀ entry ∈ log, entry.1 ≤ clock
  weighty : ∀ entry ∈ log, 1 ≤ entry.2

namespace Trailing

variable {cap length clock : ℕ} {log kept : List (ℕ × ℕ)}

/-- The empty log. -/
theorem nil (cap length clock : ℕ) : Trailing cap length clock [] [] where
  split := ⟨[], rfl, .inl nofun⟩
  ordered := List.Pairwise.nil
  past := nofun
  weighty := nofun

/-- Time passes. -/
theorem tick (h : Trailing cap length clock log kept) {later : ℕ} (hle : clock ≤ later) :
    Trailing cap length later log kept := by
  obtain ⟨dropped, hlog, hdropped⟩ := h.split
  refine ⟨⟨dropped, hlog, hdropped.imp_left fun hold entry hentry => ?_⟩, h.ordered,
    fun entry hentry => Nat.le_trans (h.past entry hentry) hle, h.weighty⟩
  have hentry := hold entry hentry
  simp only [inWindow, decide_eq_false_iff_not] at hentry ⊢
  omega

/-- **A new entry**; the first ones go when there are more than `cap`. -/
theorem push (h : Trailing cap length clock log kept) {weight : ℕ} (hweight : 1 ≤ weight) :
    Trailing cap length clock (log ++ [(clock, weight)])
      (lastEntries cap (kept ++ [(clock, weight)])) := by
  refine ⟨?_, ?_, ?_, ?_⟩
  · obtain ⟨dropped, rfl, hdropped⟩ := h.split
    by_cases hroom : kept.length + 1 ≤ cap
    · have hlast : lastEntries cap (kept ++ [(clock, weight)]) = kept ++ [(clock, weight)] := by
        rw [lastEntries, List.length_append, List.length_singleton, Nat.sub_eq_zero_of_le hroom,
          List.drop_zero]
      refine ⟨dropped, by rw [hlast, List.append_assoc], hdropped.imp_right fun hcap => ?_⟩
      omega
    · refine ⟨dropped ++ (kept ++ [(clock, weight)]).take (kept.length + 1 - cap), ?_, .inr ?_⟩
      · rw [lastEntries, List.append_assoc, List.append_assoc, List.length_append,
          List.length_singleton, List.take_append_drop]
      · rw [lastEntries, List.length_drop, List.length_append, List.length_singleton]
        omega
  · refine List.pairwise_append.mpr ⟨h.ordered, List.pairwise_singleton _ _, ?_⟩
    intro entry hentry new hnew
    rw [List.mem_singleton.mp hnew]
    exact h.past entry hentry
  · intro entry hentry
    rcases List.mem_append.mp hentry with hold | hnew
    · exact h.past entry hold
    · obtain rfl := List.mem_singleton.mp hnew
      exact Nat.le_refl clock
  · intro entry hentry
    rcases List.mem_append.mp hentry with hold | hnew
    · exact h.weighty entry hold
    · obtain rfl := List.mem_singleton.mp hnew
      exact hweight

/-- **Entries that are too old go.**  When one does, all that were dropped before it are too old. -/
theorem expire (h : Trailing cap length clock log kept) :
    Trailing cap length clock log (expire length clock kept) := by
  refine ⟨?_, h.ordered, h.past, h.weighty⟩
  obtain ⟨dropped, rfl, hdropped⟩ := h.split
  have hsplit := List.takeWhile_append_dropWhile (l := kept)
    (p := fun entry => !inWindow length clock entry)
  cases hold : kept.takeWhile (fun entry => !inWindow length clock entry) with
  | nil =>
    have hkept : Machinery.expire length clock kept = kept := by
      rwa [hold, List.nil_append] at hsplit
    rw [hkept]
    exact ⟨dropped, rfl, hdropped⟩
  | cons first more =>
    refine ⟨dropped ++ kept.takeWhile (fun entry => !inWindow length clock entry), ?_, .inl ?_⟩
    · rw [List.append_assoc]
      exact congrArg _ hsplit.symm
    · have hfirst : first ∈ kept.takeWhile (fun entry => !inWindow length clock entry) := by
        rw [hold]
        exact List.mem_cons_self
      intro entry hentry
      rcases List.mem_append.mp hentry with hbefore | hnow
      · have hle := (List.pairwise_append.mp h.ordered).2.2 entry hbefore first
          (List.takeWhile_subset _ hfirst)
        have hout := List.mem_takeWhile_imp hfirst
        simp only [inWindow, Bool.not_eq_true', decide_eq_false_iff_not] at hout ⊢
        omega
      · simpa using List.mem_takeWhile_imp hnow

/-- In order of time, what is left lies in the last interval. -/
theorem inWindow_of_mem_expire (length clock : ℕ) (h : kept.Pairwise fun a b => a.1 ≤ b.1) :
    ∀ entry ∈ Machinery.expire length clock kept, inWindow length clock entry = true := by
  intro entry hentry
  have hne : Machinery.expire length clock kept ≠ [] := List.ne_nil_of_mem hentry
  obtain ⟨first, more, hleft⟩ := List.exists_cons_of_ne_nil hne
  have hfirst : inWindow length clock first = true := by
    have hhead := List.head_dropWhile_not (fun entry => !inWindow length clock entry) hne
    unfold Machinery.expire at hleft
    simp only [hleft, List.head_cons, Bool.not_eq_false'] at hhead
    exact hhead
  have hsorted := h.sublist (List.dropWhile_sublist fun entry => !inWindow length clock entry)
  unfold Machinery.expire at hleft hentry
  rw [hleft] at hsorted hentry
  rcases List.mem_cons.mp hentry with rfl | hmore
  · exact hfirst
  · have hle := (List.pairwise_cons.mp hsorted).1 entry hmore
    simp only [inWindow, decide_eq_true_eq] at hfirst ⊢
    omega

theorem length_le_sum {entries : List (ℕ × ℕ)} (h : ∀ entry ∈ entries, 1 ≤ entry.2) :
    entries.length ≤ (entries.map Prod.snd).sum := by
  induction entries with
  | nil => exact Nat.le_refl 0
  | cons entry entries ih =>
    have hfirst := h entry List.mem_cons_self
    have hrest := ih fun other hother => h other (List.mem_cons_of_mem _ hother)
    rw [List.length_cons, List.map_cons, List.sum_cons]
    omega

/-- **The short log is as far below a limit as the whole one**, for a limit of at most `cap`: where an entry
of the last interval was dropped, those that are left are enough. -/
theorem sum_lt_iff (h : Trailing cap length clock log kept) {limit : ℕ} (hlimit : limit ≤ cap) :
    ((Machinery.expire length clock kept).map Prod.snd).sum < limit ↔
      ((log.filter (inWindow length clock)).map Prod.snd).sum < limit := by
  obtain ⟨old, hold, -⟩ := h.split
  have hin := inWindow_of_mem_expire length clock
    (List.pairwise_append.mp (hold ▸ h.ordered)).2.1
  obtain ⟨dropped, hlog, hdropped⟩ := h.expire.split
  have hfilter : log.filter (inWindow length clock) =
      dropped.filter (inWindow length clock) ++ Machinery.expire length clock kept := by
    rw [hlog, List.filter_append, List.filter_eq_self.mpr hin]
  rw [hfilter, List.map_append, List.sum_append]
  rcases hdropped with hexpired | hcap
  · have hnone : dropped.filter (inWindow length clock) = [] :=
      List.filter_eq_nil_iff.mpr fun entry hentry => by simp [hexpired entry hentry]
    rw [hnone, List.map_nil, List.sum_nil, Nat.zero_add]
  · have henough : cap ≤ ((Machinery.expire length clock kept).map Prod.snd).sum :=
      Nat.le_trans hcap (length_le_sum fun entry hentry => h.weighty entry (by
        rw [hlog]
        exact List.mem_append_right _ hentry))
    exact iff_of_false (by omega) (by omega)

end Trailing

end Machinery
