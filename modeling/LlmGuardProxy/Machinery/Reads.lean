import Mathlib.Data.List.Basic

/-!
# Machinery/Reads — programs that read items and may stop

A program over a state that may fail reads a list of items, one after the other: when it succeeds it
has read all of them, and when it fails it may be one of them that is to blame.

* `Reads.bind` — one program after another reads both lists.
-/

namespace Machinery

variable {σ ε ι : Type*} {inv : List ι → σ → Prop} {other : ε → Prop} {blames : List ι → ι → ε → Prop}

/-- The program reads these items.  `inv read s` says what holds after `read`; an error is about
something other than an item, or `blames read item e` an item that came after `read`. -/
def Reads (inv : List ι → σ → Prop) (other : ε → Prop) (blames : List ι → ι → ε → Prop)
    (program : σ → Except ε σ) (items : List ι) : Prop :=
  ∀ read state, inv read state →
    (∃ after, program state = .ok after ∧ inv (read ++ items) after) ∨
    ∃ error, program state = .error error ∧ (other error ∨
      ∃ before item rest, items = before ++ item :: rest ∧ blames (read ++ before) item error)

namespace Reads

/-- A program that reads nothing and keeps the invariant. -/
theorem pure : Reads inv other blames (.ok ·) [] := by
  intro read state h
  exact .inl ⟨state, rfl, by rwa [List.append_nil]⟩

/-- **One program after another.** -/
theorem bind {first second : σ → Except ε σ} {xs ys : List ι}
    (hfirst : Reads inv other blames first xs) (hsecond : Reads inv other blames second ys) :
    Reads inv other blames (fun state => (first state).bind second) (xs ++ ys) := by
  intro read state h
  rcases hfirst read state h with ⟨after, hok, hinv⟩ | ⟨error, herror, hblame⟩
  · rcases hsecond (read ++ xs) after hinv with ⟨last, hok', hinv'⟩ | ⟨error, herror, hblame⟩
    · refine .inl ⟨last, by simpa [hok, Except.bind] using hok', ?_⟩
      rwa [← List.append_assoc]
    · refine .inr ⟨error, by simpa [hok, Except.bind] using herror, hblame.imp_right ?_⟩
      rintro ⟨before, item, rest, hsplit, hblames⟩
      refine ⟨xs ++ before, item, rest, by rw [hsplit, List.append_assoc], ?_⟩
      rwa [← List.append_assoc]
  · refine .inr ⟨error, by simp [herror, Except.bind], hblame.imp_right ?_⟩
    rintro ⟨before, item, rest, hsplit, hblames⟩
    exact ⟨before, item, rest ++ ys, by rw [hsplit, List.append_assoc, List.cons_append], hblames⟩

end Reads

end Machinery
