import LlmGuardProxy.Evidence.Redaction
import LlmGuardProxy.Machinery.Patch

/-!
# Evidence/Assignments — scrubbing the values of one key, place by place

What one pass of `scrub_assignment_forms` does at the start of a text, and from that how it treats a
text put together around a quote.

* `scrub_cons`, `scrub_key` — one step: a character that is not the start of the key, and the key.
* `scrub_append_quote` — a quote cuts the pass in two, unless an assignment is still open there.
* `scrub_literal` — a literal in which nothing is assigned stays.
* `scrub_patched`, `isOpen_patched` — a pass only puts the marker in the place of values, which opens no
  assignment.
-/

namespace LlmGuardProxy.Evidence

open Machinery

/-! ## One step -/

theorem afterValue_suffix (t : Text) : afterValue t <:+ t := by
  unfold afterValue
  refine (List.dropWhile_suffix _).trans ?_
  split
  · exact (List.tail_suffix _).trans (List.dropWhile_suffix _)
  · exact List.dropWhile_suffix _

/-- More turns than characters change nothing. -/
theorem scrubAssignmentLoop_turns {key : Text} (hkey : key ≠ []) : ∀ (n : ℕ) (rest : Text),
    rest.length ≤ n → ∀ f g, rest.length < f → rest.length < g →
    scrubAssignmentLoop key f rest = scrubAssignmentLoop key g rest := by
  intro n
  induction n with
  | zero =>
    intro rest hn f g hf hg
    obtain rfl : rest = [] := List.length_eq_zero_iff.mp (Nat.le_zero.mp hn)
    obtain ⟨f, rfl⟩ := Nat.exists_eq_succ_of_ne_zero (Nat.ne_of_gt hf)
    obtain ⟨g, rfl⟩ := Nat.exists_eq_succ_of_ne_zero (Nat.ne_of_gt hg)
    simp [scrubAssignmentLoop, findText, hkey]
  | succ n ih =>
    intro rest hn f g hf hg
    obtain ⟨f, rfl⟩ := Nat.exists_eq_succ_of_ne_zero (Nat.ne_of_gt (Nat.zero_lt_of_lt hf))
    obtain ⟨g, rfl⟩ := Nat.exists_eq_succ_of_ne_zero (Nat.ne_of_gt (Nat.zero_lt_of_lt hg))
    rw [scrubAssignmentLoop, scrubAssignmentLoop]
    cases hfind : findText key (lower rest) with
    | none => rfl
    | some index =>
      have hpos : 0 < key.length := List.length_pos_iff.mpr hkey
      have hrest : 0 < rest.length := by
        refine List.length_pos_iff.mpr fun hnil => ?_
        rw [hnil] at hfind
        simp [findText, hkey] at hfind
      have hlength := List.length_drop (i := index + key.length) (l := rest)
      dsimp only
      cases assignmentDelimiter (rest.drop (index + key.length)) with
      | none =>
        dsimp only
        rw [ih _ (by omega) f g (by omega) (by omega)]
      | some found =>
        obtain ⟨skipped, delimiter⟩ := found
        have hvalue := (afterValue_suffix
          ((rest.drop (index + key.length)).drop (skipped + 1))).length_le
        rw [List.length_drop] at hvalue
        dsimp only
        rw [ih _ (by omega) f g (by omega) (by omega)]

variable {key : Text}

theorem scrub_nil (hkey : key ≠ []) : scrubAssignmentForms [] key = [] := by
  simp [scrubAssignmentForms, scrubAssignmentLoop, findText, hkey]

/-- The turns of a part of a text. -/
theorem scrubAssignmentLoop_eq (hkey : key ≠ []) {turns : ℕ} {rest : Text}
    (h : rest.length < turns) :
    scrubAssignmentLoop key turns rest = scrubAssignmentForms rest key :=
  scrubAssignmentLoop_turns hkey rest.length rest le_rfl _ _ h (Nat.lt_succ_self _)

/-- What follows a key. -/
def scrubAfterKey (key afterKey : Text) : Text :=
  match assignmentDelimiter afterKey with
  | none => scrubAssignmentForms afterKey key
  | some (skipped, delimiter) => afterKey.take skipped ++ delimiter :: redacted ++
      scrubAssignmentForms (afterValue (afterKey.drop (skipped + 1))) key

/-- **One pass, from the first occurrence of the key.** -/
theorem scrub_eq (hkey : key ≠ []) (t : Text) : scrubAssignmentForms t key =
    match findText key (lower t) with
    | none => t
    | some index => t.take (index + key.length) ++ scrubAfterKey key (t.drop (index + key.length)) := by
  rw [scrubAssignmentForms, scrubAssignmentLoop]
  cases hfind : findText key (lower t) with
  | none => rfl
  | some index =>
    have hpos : 0 < key.length := List.length_pos_iff.mpr hkey
    have ht : 0 < t.length := by
      refine List.length_pos_iff.mpr fun hnil => ?_
      rw [hnil] at hfind
      simp [findText, hkey] at hfind
    have hlength := List.length_drop (i := index + key.length) (l := t)
    unfold scrubAfterKey
    dsimp only
    cases assignmentDelimiter (t.drop (index + key.length)) with
    | none =>
      dsimp only
      rw [scrubAssignmentLoop_eq hkey (by omega)]
    | some found =>
      obtain ⟨skipped, delimiter⟩ := found
      have hvalue := (afterValue_suffix ((t.drop (index + key.length)).drop (skipped + 1))).length_le
      rw [List.length_drop] at hvalue
      dsimp only
      rw [scrubAssignmentLoop_eq hkey (by omega)]

/-- A character that is not the start of the key stays. -/
theorem scrub_cons (hkey : key ≠ []) {c : Char} {t : Text} (h : ¬ key <+: lower (c :: t)) :
    scrubAssignmentForms (c :: t) key = c :: scrubAssignmentForms t key := by
  have hfind : findText key (lower (c :: t)) = (findText key (lower t)).map (· + 1) := by
    rw [lower_cons] at h ⊢
    rw [findText, if_neg (by rwa [List.isPrefixOf_iff_prefix])]
  rw [scrub_eq hkey (c :: t), scrub_eq hkey t, hfind]
  cases findText key (lower t) with
  | none => rfl
  | some index =>
    simp only [Option.map_some]
    rw [show index + 1 + key.length = (index + key.length) + 1 by omega]
    rfl

/-- The key stays, and what it introduces goes. -/
theorem scrub_key (hkey : key ≠ []) {s : Text} (hs : lower s = key) (t : Text) :
    scrubAssignmentForms (s ++ t) key = s ++ scrubAfterKey key t := by
  have hlength : s.length = key.length := by rw [← hs, length_lower]
  have hfind : findText key (lower (s ++ t)) = some 0 := by
    rw [lower_append, hs]
    cases hcase : key ++ lower t with
    | nil => exact absurd (List.append_eq_nil_iff.mp hcase).1 hkey
    | cons c rest =>
      rw [findText, if_pos]
      rw [List.isPrefixOf_iff_prefix, ← hcase]
      exact List.prefix_append key (lower t)
  rw [scrub_eq hkey, hfind]
  simp [← hlength]

/-- A character that the key does not start with stays. -/
theorem scrub_other (hkey : key ≠ []) {c : Char} (hc : key.head? ≠ some c.toLower) (t : Text) :
    scrubAssignmentForms (c :: t) key = c :: scrubAssignmentForms t key := by
  refine scrub_cons hkey fun hstarts => ?_
  rcases key with _ | ⟨k, key⟩
  · exact hkey rfl
  · exact hc (congrArg some (List.cons_prefix_cons.mp hstarts).1)

theorem head?_ne_some {c : Char} (hc : c ∉ key) : key.head? ≠ some c :=
  fun hhead => hc (List.mem_of_head? hhead)

/-- Texts one step at a time: nothing, a character that is not the start of the key, or the key. -/
theorem scrub_induction (hkey : key ≠ []) {motive : Text → Prop} (nil : motive [])
    (cons : ∀ c t, ¬ key <+: lower (c :: t) → motive t → motive (c :: t))
    (atKey : ∀ s t, lower s = key → (∀ r, r <:+ t → motive r) → motive (s ++ t)) :
    ∀ t, motive t := by
  intro t
  induction hn : t.length using Nat.strong_induction_on generalizing t with
  | _ n ih =>
    subst hn
    cases t with
    | nil => exact nil
    | cons c t =>
      by_cases hstarts : key <+: lower (c :: t)
      · obtain ⟨rest, hrest⟩ := hstarts
        obtain ⟨s, u, hsplit, hs, -⟩ := List.map_eq_append_iff.mp hrest.symm
        rw [hsplit]
        refine atKey s u hs fun r hr => ih r.length ?_ r rfl
        have hpos : 0 < s.length := by
          rw [← length_lower s, lower, hs]
          exact List.length_pos_iff.mpr hkey
        have hlength := congrArg List.length hsplit
        rw [List.length_append] at hlength
        have hle := hr.length_le
        omega
      · exact cons c t hstarts (ih t.length (Nat.lt_succ_self _) t rfl)

/-! ## Delimiters -/

theorem assignmentDelimiter_eq_some {t : Text} {skipped : ℕ} {delimiter : Char}
    (h : assignmentDelimiter t = some (skipped, delimiter)) :
    (delimiter = ':' ∨ delimiter = '=') ∧ t = t.take skipped ++ delimiter :: t.drop (skipped + 1) := by
  fun_induction assignmentDelimiter t generalizing skipped with
  | case1 => cases h
  | case2 rest ih =>
    obtain ⟨⟨n, d⟩, hfound, heq⟩ := Option.map_eq_some_iff.mp h
    obtain ⟨rfl, rfl⟩ := Prod.mk.inj heq
    obtain ⟨hd, ht⟩ := ih hfound
    exact ⟨hd, congrArg ('\\' :: '"' :: ·) ht⟩
  | case3 c rest _ _ ih =>
    obtain ⟨⟨n, d⟩, hfound, heq⟩ := Option.map_eq_some_iff.mp h
    obtain ⟨rfl, rfl⟩ := Prod.mk.inj heq
    obtain ⟨hd, ht⟩ := ih hfound
    exact ⟨hd, congrArg (c :: ·) ht⟩
  | case4 c rest _ _ hc =>
    obtain ⟨rfl, rfl⟩ := Prod.mk.inj (Option.some.inj h)
    exact ⟨by simpa using hc, rfl⟩
  | case5 => cases h

/-- **A delimiter is found within what it ends.**  Up to the delimiter there is no bracket, and what
comes after it does not matter. -/
theorem assignmentDelimiter_found {t : Text} {skipped : ℕ} {delimiter : Char}
    (h : assignmentDelimiter t = some (skipped, delimiter)) :
    '[' ∉ t.take (skipped + 1) ∧ ']' ∉ t.take (skipped + 1) ∧
      ∀ r, assignmentDelimiter (t.take (skipped + 1) ++ r) = some (skipped, delimiter) := by
  fun_induction assignmentDelimiter t generalizing skipped with
  | case1 => cases h
  | case2 rest ih =>
    obtain ⟨⟨n, d⟩, hfound, heq⟩ := Option.map_eq_some_iff.mp h
    obtain ⟨rfl, rfl⟩ := Prod.mk.inj heq
    obtain ⟨hopen, hclose, hfront⟩ := ih hfound
    refine ⟨by simpa using hopen, by simpa using hclose, fun r => ?_⟩
    rw [List.take_succ_cons, List.take_succ_cons, List.cons_append, List.cons_append,
      assignmentDelimiter, hfront r]
    rfl
  | case3 c rest hpattern hskip ih =>
    obtain ⟨⟨n, d⟩, hfound, heq⟩ := Option.map_eq_some_iff.mp h
    obtain ⟨rfl, rfl⟩ := Prod.mk.inj heq
    obtain ⟨hopen, hclose, hfront⟩ := ih hfound
    have hcopen : '[' ≠ c := by rintro rfl; simp [isQuote] at hskip
    have hcclose : ']' ≠ c := by rintro rfl; simp [isQuote] at hskip
    refine ⟨?_, ?_, fun r => ?_⟩
    · simpa using ⟨hcopen, hopen⟩
    · simpa using ⟨hcclose, hclose⟩
    · have hc : c ≠ '\\' := by rintro rfl; simp [isQuote] at hskip
      rw [List.take_succ_cons, List.cons_append, assignmentDelimiter, if_pos hskip, hfront r]
      · rfl
      · rintro rest' rfl
        exact absurd rfl hc
  | case4 c rest hpattern hskip hc =>
    obtain ⟨rfl, rfl⟩ := Prod.mk.inj (Option.some.inj h)
    have hdelimiter : c = ':' ∨ c = '=' := by simpa using hc
    refine ⟨?_, ?_, fun r => ?_⟩
    · rcases hdelimiter with rfl | rfl <;> simp
    · rcases hdelimiter with rfl | rfl <;> simp
    · rcases hdelimiter with rfl | rfl <;> simp [assignmentDelimiter, isQuote]
  | case5 => cases h

/-- A quote after which no delimiter comes leaves the delimiter of what is before it. -/
theorem assignmentDelimiter_append_quote {rest : Text} (hrest : assignmentDelimiter rest = none)
    (t : Text) : assignmentDelimiter (t ++ '"' :: rest) = assignmentDelimiter t := by
  have hquote : assignmentDelimiter ('"' :: rest) = none := by
    rw [assignmentDelimiter]
    · simp [isQuote, hrest]
    · simp
  fun_induction assignmentDelimiter t with
  | case1 => exact hquote
  | case2 t ih =>
    rw [List.cons_append, List.cons_append, assignmentDelimiter, ih]
  | case3 c t hpattern hskip ih =>
    rw [List.cons_append, assignmentDelimiter, if_pos hskip, ih]
    rintro rest' rfl
    simp [isQuote] at hskip
  | case4 c t hpattern hskip hc =>
    rw [List.cons_append, assignmentDelimiter, if_neg hskip, if_pos hc]
    rintro rest' rfl
    simp at hc
  | case5 c t hpattern hskip hc =>
    by_cases hescape : c = '\\' ∧ t = []
    · obtain ⟨rfl, rfl⟩ := hescape
      simp [assignmentDelimiter, hrest]
    · rw [List.cons_append, assignmentDelimiter, if_neg hskip, if_neg hc]
      rintro rest' rfl htail
      rcases t with _ | ⟨d, t⟩
      · exact hescape ⟨rfl, rfl⟩
      · obtain ⟨rfl, -⟩ := List.cons.inj htail
        exact hpattern t rfl rfl

/-! ## What a pass replaces -/

theorem scrubAfterKey_patched {t : Text}
    (h : ∀ r, r <:+ t → Patched redacted (scrubAssignmentForms r key) r) :
    Patched redacted (scrubAfterKey key t) t := by
  unfold scrubAfterKey
  split
  next => exact h t List.suffix_rfl
  next skipped delimiter hfound =>
    obtain ⟨-, ht⟩ := assignmentDelimiter_eq_some hfound
    obtain ⟨value, hvalue⟩ := afterValue_suffix (t.drop (skipped + 1))
    have hrest : afterValue (t.drop (skipped + 1)) <:+ t :=
      (afterValue_suffix _).trans (List.drop_suffix _ _)
    have hafter := (Patched.replace value (h _ hrest)).append_left (t.take skipped ++ [delimiter])
    rw [hvalue] at hafter
    rw [show t.take skipped ++ [delimiter] ++ t.drop (skipped + 1) = t by
      rw [List.append_assoc]; exact ht.symm] at hafter
    simpa using hafter

/-- **A pass only puts the marker in the place of values.** -/
theorem scrub_patched (hkey : key ≠ []) :
    ∀ t, Patched redacted (scrubAssignmentForms t key) t := by
  refine scrub_induction hkey ?nil ?cons ?atKey
  case nil =>
    rw [scrub_nil hkey]
    exact .nil
  case cons =>
    intro c t hstarts ih
    rw [scrub_cons hkey hstarts]
    exact .keep c ih
  case atKey =>
    intro s t hs ih
    rw [scrub_key hkey hs]
    exact (scrubAfterKey_patched ih).append_left s

/-! ## Open assignments -/

/-- Whether an assignment to the key is still waiting for its value at the end of the text. -/
def isOpen (key t : Text) : Bool :=
  t.tails.any fun rest => key.isPrefixOf (lower rest) &&
    match assignmentDelimiter (rest.drop key.length) with
    | none => false
    | some (skipped, _) => (rest.drop (key.length + skipped + 1)).all isUnicodeWhitespace

/-- Whether an occurrence of the key in the contents of a literal, before what follows the literal, is
read as an assignment. -/
def assignsWithin (key contents post : Text) : Bool :=
  contents.tails.any fun rest => key.isPrefixOf (lower rest) &&
    (assignmentDelimiter (rest.drop key.length ++ '"' :: post)).isSome

/-- What a text has at a place, a longer text has too. -/
theorem any_tails_of_suffix {p : Text → Bool} {s t : Text} (h : s <:+ t)
    (ht : t.tails.any p = false) : s.tails.any p = false := by
  rw [List.any_eq_false] at ht ⊢
  intro rest hrest
  exact ht rest ((List.mem_tails rest t).mpr (((List.mem_tails rest s).mp hrest).trans h))

theorem isOpen_of_suffix {s t : Text} (h : s <:+ t) (ht : isOpen key t = false) :
    isOpen key s = false := any_tails_of_suffix h ht

/-- A value that has started when the literal starts. -/
theorem isOpen_key {s t : Text} (hs : lower s = key) {skipped : ℕ} {delimiter : Char}
    (hfound : assignmentDelimiter t = some (skipped, delimiter)) (h : isOpen key (s ++ t) = false) :
    ∃ c ∈ t.drop (skipped + 1), isUnicodeWhitespace c = false := by
  have hlength : s.length = key.length := by rw [← hs, length_lower]
  have hplace := List.any_eq_false.mp h (s ++ t) ((List.mem_tails _ _).mpr List.suffix_rfl)
  have hstarts : key.isPrefixOf (lower (s ++ t)) = true := by
    rw [lower_append, hs, List.isPrefixOf_iff_prefix]
    exact List.prefix_append key (lower t)
  rw [hstarts, Bool.true_and, ← hlength, List.drop_left, hfound] at hplace
  have hdrop : (s ++ t).drop (s.length + skipped + 1) = t.drop (skipped + 1) := by
    rw [Nat.add_assoc, List.drop_length_add_append]
  dsimp only at hplace
  rw [hdrop] at hplace
  simpa using hplace

/-- Where a place of a text comes apart. -/
theorem exists_of_any_tails {p : Text → Bool} {t : Text} (h : t.tails.any p = true) :
    ∃ rest, rest <:+ t ∧ p rest = true := by
  obtain ⟨rest, hrest, hp⟩ := List.any_eq_true.mp h
  exact ⟨rest, (List.mem_tails rest t).mp hrest, hp⟩

/-- A replacement opens no assignment. -/
theorem isOpen_patched (hclose : ']' ∉ key) {s t : Text} (hst : Patched redacted s t)
    (ht : isOpen key t = false) : isOpen key s = false := by
  rw [← Bool.not_eq_true] at ht ⊢
  intro hs
  obtain ⟨rest, hsuffix, hplace⟩ := exists_of_any_tails hs
  obtain ⟨hstarts, hvalue⟩ := Bool.and_eq_true_iff.mp hplace
  have hfree : ']' ∉ rest := by
    rw [List.isPrefixOf_iff_prefix, List.prefix_iff_eq_take] at hstarts
    split at hvalue
    · cases hvalue
    next skipped delimiter hfound =>
      obtain ⟨-, hfront, -⟩ := assignmentDelimiter_found hfound
      intro hmem
      rw [← List.take_append_drop key.length rest] at hmem
      rcases List.mem_append.mp hmem with hmem | hmem
      · refine hclose ?_
        rw [hstarts, lower, ← List.map_take]
        exact List.mem_map.mpr ⟨']', hmem, rfl⟩
      · rw [← List.take_append_drop (skipped + 1) (rest.drop key.length)] at hmem
        rcases List.mem_append.mp hmem with hmem | hmem
        · exact hfront hmem
        · rw [List.drop_drop] at hmem
          have hspace := List.all_eq_true.mp hvalue ']' (by rwa [Nat.add_assoc])
          exact absurd hspace (by decide)
  have hsuffix' := (hst.ends rfl hfree hsuffix).1
  refine ht (List.any_eq_true.mpr ⟨rest, (List.mem_tails rest t).mpr hsuffix', hplace⟩)

/-- Up to a quote, a value that has started ends where it ended. -/
theorem afterValue_append_quote {t : Text} (h : ∃ c ∈ t, isUnicodeWhitespace c = false) (r : Text) :
    afterValue (t ++ '"' :: r) = afterValue t ++ '"' :: r := by
  have hstop : ∀ u : Text, (u ++ '"' :: r).dropWhile (fun c => !isValueEnd c) =
      u.dropWhile (fun c => !isValueEnd c) ++ '"' :: r := by
    intro u
    rw [List.dropWhile_append]
    split
    · next hempty =>
      rw [List.isEmpty_iff.mp hempty, List.nil_append, List.dropWhile_cons_of_neg]
      simp [isValueEnd, isQuote]
    · rfl
  have htrim : (t ++ '"' :: r).dropWhile isUnicodeWhitespace =
      t.dropWhile isUnicodeWhitespace ++ '"' :: r := by
    rw [List.dropWhile_append, if_neg]
    obtain ⟨c, hc, hvisible⟩ := h
    rw [List.isEmpty_iff, List.dropWhile_eq_nil_iff]
    exact fun hall => absurd (hall c hc) (by simp [hvisible])
  unfold afterValue
  rw [htrim]
  rcases hcase : t.dropWhile isUnicodeWhitespace with _ | ⟨c, u⟩
  · obtain ⟨c, hc, hvisible⟩ := h
    exact absurd (List.dropWhile_eq_nil_iff.mp hcase c hc) (by simp [hvisible])
  · by_cases hc : isQuote c = true
    · simpa [hc] using hstop u
    · simpa [hc] using hstop (c :: u)

/-! ## Quotes -/

theorem not_key_append_quote (hquote : '"' ∉ key) {c : Char} {t : Text}
    (h : ¬ key <+: lower (c :: t)) (r : Text) : ¬ key <+: lower (c :: (t ++ '"' :: r)) := by
  rw [← List.cons_append, lower_append]
  exact fun hstarts => h ((prefix_append_cons_iff hquote).mp hstarts)

section

variable (hkey : key ≠ []) (hquote : '"' ∉ key)

include hkey hquote

theorem scrub_quote (r : Text) :
    scrubAssignmentForms ('"' :: r) key = '"' :: scrubAssignmentForms r key :=
  scrub_other hkey (c := '"') (head?_ne_some hquote) r

/-- **A quote cuts a pass in two**, unless an assignment is open before it or a delimiter comes after
it. -/
theorem scrub_append_quote {r : Text} (hr : assignmentDelimiter r = none) :
    ∀ t, isOpen key t = false →
      scrubAssignmentForms (t ++ '"' :: r) key =
        scrubAssignmentForms t key ++ '"' :: scrubAssignmentForms r key := by
  refine scrub_induction hkey ?nil ?cons ?atKey
  case nil =>
    intro _
    rw [scrub_nil hkey]
    exact scrub_quote hkey hquote r
  case cons =>
    intro c t hstarts ih hclosed
    rw [scrub_cons hkey hstarts, List.cons_append,
      scrub_cons hkey (not_key_append_quote hquote hstarts r),
      ih (isOpen_of_suffix (List.suffix_cons c t) hclosed)]
    rfl
  case atKey =>
    intro s t hs ih hclosed
    rw [scrub_key hkey hs, List.append_assoc, scrub_key hkey hs, List.append_assoc]
    congr 1
    unfold scrubAfterKey
    rw [assignmentDelimiter_append_quote hr]
    cases hfound : assignmentDelimiter t with
    | none => exact ih t List.suffix_rfl (isOpen_of_suffix (List.suffix_append s t) hclosed)
    | some found =>
      obtain ⟨skipped, delimiter⟩ := found
      obtain ⟨-, ht⟩ := assignmentDelimiter_eq_some hfound
      have hvalue := isOpen_key hs hfound hclosed
      have hlength : skipped + 1 ≤ t.length := by
        have := congrArg List.length ht
        simp at this
        omega
      have hrest : afterValue (t.drop (skipped + 1)) <:+ t :=
        (afterValue_suffix _).trans (List.drop_suffix _ _)
      dsimp only
      rw [List.take_append_of_le_length (by omega), List.drop_append_of_le_length hlength,
        afterValue_append_quote hvalue,
        ih _ hrest (isOpen_of_suffix (hrest.trans (List.suffix_append s t)) hclosed)]
      simp

/-- **A literal in which nothing is assigned stays.** -/
theorem scrub_literal {r : Text} : ∀ t, assignsWithin key t r = false →
    scrubAssignmentForms (t ++ '"' :: r) key = t ++ '"' :: scrubAssignmentForms r key := by
  refine scrub_induction hkey ?nil ?cons ?atKey
  case nil => exact fun _ => scrub_quote hkey hquote r
  case cons =>
    intro c t hstarts ih hnone
    rw [List.cons_append, scrub_cons hkey (not_key_append_quote hquote hstarts r),
      ih (any_tails_of_suffix (List.suffix_cons c t) hnone)]
    rfl
  case atKey =>
    intro s t hs ih hnone
    have hlength : s.length = key.length := by rw [← hs, length_lower]
    have hplace := List.any_eq_false.mp hnone (s ++ t) ((List.mem_tails _ _).mpr List.suffix_rfl)
    have hstarts : key.isPrefixOf (lower (s ++ t)) = true := by
      rw [lower_append, hs, List.isPrefixOf_iff_prefix]
      exact List.prefix_append key (lower t)
    rw [hstarts, Bool.true_and, ← hlength, List.drop_left] at hplace
    have hdelimiter : assignmentDelimiter (t ++ '"' :: r) = none := by simpa using hplace
    rw [List.append_assoc, scrub_key hkey hs, scrubAfterKey, hdelimiter,
      ih t List.suffix_rfl (any_tails_of_suffix (List.suffix_append s t) hnone), List.append_assoc]

end

end LlmGuardProxy.Evidence
