import LlmGuardProxy.Machinery.Patch

/-!
# Machinery/Cuts — a word that the boundaries of pieces tear apart

* `Kept first last s t` — the ends of `s` that do not meet the two marks are ends of `t`.
* `isTorn marked word pieces` — the word lies across boundaries of the pieces, no part of it marked.
* `isTorn_of_occurs` — when pieces that are not marked are put together and have a marked word, the pieces
  that they were kept from tear it apart.
-/

namespace Machinery

variable {α : Type*} {first last : α}

/-- The ends of `s` without the marks are ends of `t`, and `s` without the marks is `t`. -/
def Kept (first last : α) (s t : List α) : Prop :=
  ∀ z, first ∉ z → last ∉ z → (z <+: s → z <+: t) ∧ (z <:+ s → z <:+ t) ∧ (z = s → z = t)

theorem Kept.refl (t : List α) : Kept first last t t := fun _ _ _ =>
  ⟨fun h => h, fun h => h, fun h => h⟩

theorem Kept.trans {r s t : List α} (hrs : Kept first last r s) (hst : Kept first last s t) :
    Kept first last r t := by
  intro z hfirst hlast
  obtain ⟨hstarts, hsuffix, hwhole⟩ := hrs z hfirst hlast
  obtain ⟨hstarts', hsuffix', hwhole'⟩ := hst z hfirst hlast
  exact ⟨hstarts' ∘ hstarts, hsuffix' ∘ hsuffix, hwhole' ∘ hwhole⟩

theorem Patched.kept {patch s t : List α} (hfirst : patch.head? = some first)
    (hlast : patch.getLast? = some last) (h : Patched patch s t) : Kept first last s t := by
  intro z hzfirst hzlast
  refine ⟨h.starts hfirst hzfirst, fun hz => (h.ends hlast hzlast hz).1, fun hz => ?_⟩
  exact (h.ends hlast hzlast (hz ▸ List.suffix_rfl)).2 hz

variable [DecidableEq α]

/-- Whether the pieces start with the word, no part of which is marked in its piece. -/
def startsTorn (marked : List α → Bool) : List α → List (List α) → Bool
  | word, [] => word.isEmpty
  | word, piece :: pieces =>
      word.isPrefixOf piece && !marked word ||
        piece.isPrefixOf word && !marked piece && startsTorn marked (word.drop piece.length) pieces

/-- Whether the word lies somewhere in the pieces, no part of it marked in its piece. -/
def isTorn (marked : List α → Bool) (word : List α) : List (List α) → Bool
  | [] => false
  | piece :: pieces =>
      (piece.tails.any fun part => part.isPrefixOf word && !marked part &&
        startsTorn marked (word.drop part.length) pieces) || isTorn marked word pieces

section

variable {marked : List α → Bool} (hmono : ∀ s t, s <:+: t → marked s = true → marked t = true)

include hmono

omit [DecidableEq α] in
theorem unmarked_of_isInfix {s t : List α} (h : s <:+: t) (ht : marked t = false) :
    marked s = false := by
  rw [← Bool.not_eq_true] at ht ⊢
  exact fun hs => ht (hmono s t h hs)

/-- A word at the start of kept pieces that are not marked. -/
theorem startsTorn_of_prefix {ss ts : List (List α)} (h : List.Forall₂ (Kept first last) ss ts)
    (hpieces : ∀ s ∈ ss, marked s = false) {word : List α} (hfirst : first ∉ word)
    (hlast : last ∉ word) (hword : word <+: ss.flatten) : startsTorn marked word ts = true := by
  induction h generalizing word with
  | nil => exact List.isEmpty_iff.mpr (List.prefix_nil.mp hword)
  | @cons s t ss ts hst _ ih =>
    have hs := hpieces s List.mem_cons_self
    rw [List.flatten_cons] at hword
    rw [startsTorn, Bool.or_eq_true]
    rcases List.prefix_or_prefix_of_prefix hword (List.prefix_append s ss.flatten) with
      hwithin | ⟨rest, rfl⟩
    · left
      rw [unmarked_of_isInfix hmono hwithin.isInfix hs, Bool.not_false, Bool.and_true,
        List.isPrefixOf_iff_prefix]
      exact (hst word hfirst hlast).1 hwithin
    · right
      have hrest := (List.prefix_append_right_inj s).mp hword
      rw [List.mem_append, not_or] at hfirst hlast
      obtain rfl := (hst s hfirst.1 hlast.1).2.2 rfl
      have htail := ih (fun r hr => hpieces r (List.mem_cons_of_mem s hr)) hfirst.2 hlast.2 hrest
      simp [hs, htail]

/-- **Pieces that have a marked word only together** were kept from pieces that tear it apart. -/
theorem isTorn_of_occurs {word : List α} (hmarked : marked word = true) (hne : word ≠ [])
    (hfirst : first ∉ word) (hlast : last ∉ word) {ss ts : List (List α)}
    (h : List.Forall₂ (Kept first last) ss ts) (hpieces : ∀ s ∈ ss, marked s = false)
    (hoccurs : word <:+: ss.flatten) : isTorn marked word ts = true := by
  induction h with
  | nil => exact absurd (List.infix_nil.mp hoccurs) hne
  | @cons s t ss ts hst htail ih =>
    have hs := hpieces s List.mem_cons_self
    have hss : ∀ r ∈ ss, marked r = false := fun r hr => hpieces r (List.mem_cons_of_mem s hr)
    rw [List.flatten_cons, List.infix_append_iff_ne_nil] at hoccurs
    rw [isTorn, Bool.or_eq_true]
    rcases hoccurs with hwithin | hlater | ⟨front, back, -, -, rfl, hsuffix, hstarts⟩
    · rw [unmarked_of_isInfix hmono hwithin hs] at hmarked
      cases hmarked
    · exact .inr (ih hss hlater)
    · rw [List.mem_append, not_or] at hfirst hlast
      refine .inl (List.any_eq_true.mpr ⟨front, ?_, ?_⟩)
      · exact (List.mem_tails _ _).mpr ((hst front hfirst.1 hlast.1).2.1 hsuffix)
      · have hback := startsTorn_of_prefix hmono htail hss hfirst.2 hlast.2 hstarts
        simp [unmarked_of_isInfix hmono hsuffix.isInfix hs, hback]

end

end Machinery
