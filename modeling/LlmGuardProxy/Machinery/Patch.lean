import LlmGuardProxy.Machinery.Search

/-!
# Machinery/Patch — a list with stretches replaced by a fixed patch

* `Patched patch s t` — `s` is `t` with some stretches replaced by `patch`.
* `Patched.starts`, `Patched.ends`, `Patched.occurs` — what of `s` does not meet the marks at the ends
  of the patch was in `t` already.
-/

namespace Machinery

variable {α : Type*} {patch : List α}

/-- `s` is `t` with some stretches replaced by the patch. -/
inductive Patched (patch : List α) : List α → List α → Prop
  | nil : Patched patch [] []
  | keep (x : α) {s t : List α} : Patched patch s t → Patched patch (x :: s) (x :: t)
  | replace (removed : List α) {s t : List α} :
      Patched patch s t → Patched patch (patch ++ s) (removed ++ t)

theorem Patched.refl : ∀ t : List α, Patched patch t t
  | [] => .nil
  | x :: t => .keep x (Patched.refl t)

theorem Patched.append {s t s' t' : List α} (h : Patched patch s t) (h' : Patched patch s' t') :
    Patched patch (s ++ s') (t ++ t') := by
  induction h with
  | nil => exact h'
  | keep x _ ih => exact .keep x ih
  | replace removed _ ih =>
    rw [List.append_assoc, List.append_assoc]
    exact .replace removed ih

theorem Patched.append_left (r : List α) {s t : List α} (h : Patched patch s t) :
    Patched patch (r ++ s) (r ++ t) := (Patched.refl r).append h

/-- A start without the first mark of the patch was the start before. -/
theorem Patched.starts {s t z : List α} {mark : α} (hmark : patch.head? = some mark)
    (h : Patched patch s t) (hz : mark ∉ z) (hstarts : z <+: s) : z <+: t := by
  induction h generalizing z with
  | nil => exact hstarts
  | @keep x s t _ ih =>
    rcases List.prefix_cons_iff.mp hstarts with rfl | ⟨z', rfl, hz'⟩
    · exact List.nil_prefix
    · refine (List.prefix_cons_inj x).mpr (ih (fun hmem => hz (List.mem_cons_of_mem x hmem)) hz')
  | @replace removed s t _ ih =>
    obtain ⟨rest, rfl⟩ := List.head?_eq_some_iff.mp hmark
    rcases List.prefix_cons_iff.mp hstarts with rfl | ⟨z', rfl, -⟩
    · exact List.nil_prefix
    · exact absurd List.mem_cons_self hz

/-- An end without the last mark of the patch was the end before, and the whole was the whole. -/
theorem Patched.ends {s t z : List α} {mark : α} (hmark : patch.getLast? = some mark)
    (h : Patched patch s t) (hz : mark ∉ z) (hsuffix : z <:+ s) : z <:+ t ∧ (z = s → z = t) := by
  induction h generalizing z with
  | nil => exact ⟨hsuffix, fun heq => heq⟩
  | @keep x s t _ ih =>
    rcases List.suffix_cons_iff.mp hsuffix with rfl | hs
    · have hs : mark ∉ s := fun hmem => hz (List.mem_cons_of_mem x hmem)
      obtain rfl := (ih hs List.suffix_rfl).2 rfl
      exact ⟨List.suffix_rfl, fun _ => rfl⟩
    · refine ⟨(ih hz hs).1.trans (List.suffix_cons x t), fun heq => ?_⟩
      rw [heq] at hs
      exact absurd hs.length_le (by simp)
  | @replace removed s t _ ih =>
    obtain ⟨front, rfl⟩ := List.getLast?_eq_some_iff.mp hmark
    have hwhole : front ++ [mark] ++ s = front ++ mark :: s := by simp
    rw [hwhole] at hsuffix ⊢
    have hs : z <:+ s := by
      rcases List.suffix_or_suffix_of_suffix hsuffix (List.suffix_append front (mark :: s)) with
        hs | hs
      · rcases List.suffix_cons_iff.mp hs with rfl | hs
        · exact absurd List.mem_cons_self hz
        · exact hs
      · exact absurd (hs.mem List.mem_cons_self) hz
    refine ⟨(ih hz hs).1.trans (List.suffix_append removed t), fun heq => ?_⟩
    exact absurd (by simp [heq]) hz

/-- A stretch without the marks at the ends of the patch was there before, or is of the patch. -/
theorem Patched.occurs {s t z : List α} {first last : α} (hfirst : patch.head? = some first)
    (hlast : patch.getLast? = some last) (h : Patched patch s t) (hzfirst : first ∉ z)
    (hzlast : last ∉ z) (hoccurs : z <:+: s) : z <:+: t ∨ z <:+: patch := by
  induction h generalizing z with
  | nil => exact .inl hoccurs
  | @keep x s t hst ih =>
    rcases List.infix_cons_iff.mp hoccurs with hstarts | hs
    · exact .inl ((Patched.keep x hst).starts hfirst hzfirst hstarts).isInfix
    · exact (ih hzfirst hzlast hs).imp_left fun ht => ht.trans (List.suffix_cons x t).isInfix
  | @replace removed s t hst ih =>
    obtain ⟨front, rfl⟩ := List.getLast?_eq_some_iff.mp hlast
    rcases eq_or_ne z [] with rfl | hz
    · exact .inl List.nil_infix
    · have hwhole : front ++ [last] ++ s = front ++ last :: s := by simp
      rw [hwhole, infix_append_cons_iff hz hzlast] at hoccurs
      rcases hoccurs with hfront | hs
      · exact .inr (List.infix_append_of_infix_left hfront)
      · exact (ih hzfirst hzlast hs).imp_left List.infix_append_of_infix_right

end Machinery
