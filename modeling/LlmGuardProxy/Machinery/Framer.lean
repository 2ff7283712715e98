import Mathlib.Data.List.Basic

/-!
# Machinery/Framer — cutting a stream into frames as it comes

A framer takes one frame off the front of what it has, or waits for more.  If a frame it takes stays
the same when more text follows, then the frames do not depend on how the stream is cut into chunks
(`Framer.feed_flatten`).
-/

namespace Machinery

/-- A framer: taking a frame shortens the text, and does not depend on what follows. -/
structure Framer (α β : Type*) where
  next : List α → Option (β × List α)
  shortens : ∀ {text rest frame}, next text = some (frame, rest) → rest.length < text.length
  append : ∀ {text rest frame}, next text = some (frame, rest) →
    ∀ more, next (text ++ more) = some (frame, rest ++ more)

namespace Framer

variable {α β : Type*} (f : Framer α β)

/-- All frames of a text, and what is left behind them. -/
def drain (text : List α) : List β × List α :=
  match _h : f.next text with
  | none => ([], text)
  | some (frame, rest) => (frame :: (drain rest).1, (drain rest).2)
termination_by text.length
decreasing_by all_goals exact f.shortens _h

theorem drain_none {text : List α} (h : f.next text = none) : f.drain text = ([], text) := by
  rw [drain]
  split <;> simp_all

theorem drain_some {text rest : List α} {frame : β} (h : f.next text = some (frame, rest)) :
    f.drain text = (frame :: (f.drain rest).1, (f.drain rest).2) := by
  rw [drain]
  split <;> simp_all

/-- **Draining goes on where it stopped.** -/
theorem drain_append (text more : List α) :
    f.drain (text ++ more) = ((f.drain text).1 ++ (f.drain ((f.drain text).2 ++ more)).1,
      (f.drain ((f.drain text).2 ++ more)).2) := by
  induction hn : text.length using Nat.strongRecOn generalizing text with
  | _ n ih =>
    cases h : f.next text with
    | none => simp [f.drain_none h]
    | some pair =>
      obtain ⟨frame, rest⟩ := pair
      have hrest := ih rest.length (hn ▸ f.shortens h) rest rfl
      rw [f.drain_some h, f.drain_some (f.append h more), hrest]
      rfl

/-- One chunk: append it and drain. -/
def feed (s : List β × List α) (chunk : List α) : List β × List α :=
  (s.1 ++ (f.drain (s.2 ++ chunk)).1, (f.drain (s.2 ++ chunk)).2)

/-- **The frames do not depend on the chunks.** -/
theorem feed_flatten (chunks : List (List α)) (frames : List β) (text : List α) :
    chunks.foldl f.feed (frames ++ (f.drain text).1, (f.drain text).2)
      = (frames ++ (f.drain (text ++ chunks.flatten)).1,
          (f.drain (text ++ chunks.flatten)).2) := by
  induction chunks generalizing text with
  | nil => simp
  | cons chunk chunks ih =>
    have hfeed : f.feed (frames ++ (f.drain text).1, (f.drain text).2) chunk
        = (frames ++ (f.drain (text ++ chunk)).1, (f.drain (text ++ chunk)).2) := by
      rw [f.drain_append text chunk]
      simp [feed]
    rw [List.foldl_cons, hfeed, ih (text ++ chunk), List.flatten_cons, List.append_assoc]

end Framer

end Machinery
