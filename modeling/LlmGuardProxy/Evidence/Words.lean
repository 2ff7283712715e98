import LlmGuardProxy.Evidence.Redaction
import LlmGuardProxy.Machinery.Patch
import LlmGuardProxy.Machinery.Words

/-!
# Evidence/Words — scrubbing word by word

What `scrub_bearer_and_sk_tokens` does to a word, and to a text around a word.

* `scrubWord_patched` — a word is kept but for what the marker replaces.
* `redactWrapped_colon` — a redacted word with a colon in it shows the wrappers at its ends only.
* `scrubBearerToken_append_quote` — a word with a quote in it is searched for a bearer marker before the
  quote, then after it.
-/

namespace LlmGuardProxy.Evidence

open Machinery

/-! ## What is replaced -/

theorem redactWrapped_patched (token : Text) :
    Patched redacted (redactWrappedSecretToken token) token := by
  unfold redactWrappedSecretToken
  dsimp only
  split
  · have hwhole : Patched redacted (redacted ++ []) (token ++ []) := .replace token .nil
    simpa using hwhole
  · have hsecret : Patched redacted
        (redacted ++ (token.dropWhile isLeadingSecretWrapper).rtakeWhile isTrailingSecretWrapper)
        ((token.dropWhile isLeadingSecretWrapper).rdropWhile isTrailingSecretWrapper ++
          (token.dropWhile isLeadingSecretWrapper).rtakeWhile isTrailingSecretWrapper) :=
      .replace _ (.refl _)
    have hwhole := hsecret.append_left (token.takeWhile isLeadingSecretWrapper)
    rw [List.rdropWhile_append_rtakeWhile, List.takeWhile_append_dropWhile] at hwhole
    simpa using hwhole

theorem scrubBearerToken_patched {token : Text} {scrubbed : Text × Bool}
    (h : scrubBearerToken token = some scrubbed) : Patched redacted scrubbed.1 token := by
  obtain ⟨markerStart, -, h⟩ := Option.bind_eq_some_iff.mp h
  have htoken := List.take_append_drop (markerStart + 6) token
  dsimp only at h
  split at h
  next hdrop =>
    obtain rfl := Option.some.inj h
    rw [hdrop, List.append_nil] at htoken
    rw [htoken]
    exact Patched.refl token
  next separator secret hdrop =>
    rw [hdrop] at htoken
    split at h
    · obtain rfl := Option.some.inj h
      have hsecret := (Patched.keep separator (redactWrapped_patched secret)).append_left
        (token.take (markerStart + 6))
      rwa [htoken] at hsecret
    · split at h
      · obtain rfl := Option.some.inj h
        rw [htoken]
        exact Patched.refl token
      · cases h

/-- **A word is kept but for what the marker replaces.** -/
theorem scrubWord_patched (redactNext : Bool) (token : Text) :
    Patched redacted (scrubWord redactNext token).1 token := by
  unfold scrubWord
  split
  · exact redactWrapped_patched token
  · cases hbearer : scrubBearerToken token with
    | none => exact Patched.refl token
    | some scrubbed => exact scrubBearerToken_patched hbearer

theorem spacedBefore_patched (redactNext : Bool) (words : List Text) :
    Patched redacted (spacedBefore (scrubWords redactNext words)) (spacedBefore words) := by
  induction words generalizing redactNext with
  | nil => exact .nil
  | cons word words ih =>
    exact ((scrubWord_patched redactNext word).append (.refl [' '])).append (ih _)

theorem spacedAfter_patched (redactNext : Bool) (words : List Text) :
    Patched redacted (spacedAfter (scrubWords redactNext words)) (spacedAfter words) := by
  induction words generalizing redactNext with
  | nil => exact .nil
  | cons word words ih =>
    exact (Patched.keep ' ' (scrubWord_patched redactNext word)).append (ih _)

/-! ## A word among words -/

/-- Whether the word after the words is redacted for the sake of a bearer marker. -/
def redactAfter (redactNext : Bool) (words : List Text) : Bool :=
  words.foldl (fun redactNext word => (scrubWord redactNext word).2) redactNext

theorem scrubWords_append (redactNext : Bool) (before after : List Text) :
    scrubWords redactNext (before ++ after) =
      scrubWords redactNext before ++ scrubWords (redactAfter redactNext before) after := by
  induction before generalizing redactNext with
  | nil => rfl
  | cons word before ih => exact congrArg _ (ih _)

/-- **The first pass around a word.** -/
theorem scrubBearerAndSkTokens_around (pre post : Text) {word : Text} (hword : word ≠ [])
    (h : ∀ c ∈ word, isUnicodeWhitespace c = false) :
    let scrubbed := scrubWord (redactAfter false (wordsBefore pre))
      (wordAtEnd pre ++ (word ++ wordAtStart post))
    scrubBearerAndSkTokens (pre ++ (word ++ post)) =
      spacedBefore (scrubWords false (wordsBefore pre)) ++
        (scrubbed.1 ++ spacedAfter (scrubWords scrubbed.2 (wordsAfter post))) := by
  intro scrubbed
  unfold scrubBearerAndSkTokens
  dsimp only
  rw [splitWhitespace_around pre post hword h, scrubWords_append, scrubWords, if_neg (by simp),
    joinWords_around]

/-! ## Redacted words -/

/-- **A redacted word with a colon in it shows the wrappers at its ends only.** -/
theorem redactWrapped_colon (front back : Text) :
    redactWrappedSecretToken (front ++ ':' :: back) =
      front.takeWhile isLeadingSecretWrapper ++ redacted ++ back.rtakeWhile isTrailingSecretWrapper := by
  have hcolon : isLeadingSecretWrapper ':' = false := by decide
  have htake : (front ++ ':' :: back).takeWhile isLeadingSecretWrapper =
      front.takeWhile isLeadingSecretWrapper := by
    rw [List.takeWhile_append]
    split
    · next hall => rw [List.takeWhile_cons_of_neg (by simp [hcolon]), List.append_nil,
        List.IsPrefix.eq_of_length (List.takeWhile_prefix _) hall]
    · rfl
  obtain ⟨front', hdrop⟩ : ∃ front', (front ++ ':' :: back).dropWhile isLeadingSecretWrapper =
      front' ++ ':' :: back := by
    rw [List.dropWhile_append]
    split
    · exact ⟨[], List.dropWhile_cons_of_neg (by simp [hcolon])⟩
    · exact ⟨_, rfl⟩
  unfold redactWrappedSecretToken
  dsimp only
  rw [hdrop, htake, rtakeWhile_append_cons (by decide), if_neg]
  rw [List.rdropWhile_eq_nil_iff]
  exact fun hall => absurd (hall ':' (by simp)) (by decide)

/-! ## Bearer markers and quotes -/

theorem findBearerMarkerFrom_quote (t : Text) :
    findBearerMarkerFrom (some '"') t = findBearerMarkerFrom none t := by
  cases t with
  | nil => rfl
  | cons c t => simp [findBearerMarkerFrom, show isBearerBoundary '"' = true by decide]

theorem findBearerMarkerFrom_eq_none {t : Text} (h : ¬ "bearer".toList <:+: lower t)
    (previous : Option Char) : findBearerMarkerFrom previous t = none := by
  induction t generalizing previous with
  | nil => rfl
  | cons c t ih =>
    rw [lower_cons, List.infix_cons_iff, not_or, ← lower_cons] at h
    have hstarts : "bearer".toList.isPrefixOf (lower (c :: t)) = false := by
      rw [← Bool.not_eq_true, List.isPrefixOf_iff_prefix]
      exact h.1
    rw [findBearerMarkerFrom, hstarts, ih h.2]
    rfl

/-- A marker before a quote, else one after it. -/
theorem findBearerMarkerFrom_append_quote (previous : Option Char) (s t : Text) :
    findBearerMarkerFrom previous (s ++ '"' :: t) =
      (findBearerMarkerFrom previous s).or ((findBearerMarker t).map (· + (s.length + 1))) := by
  induction s generalizing previous with
  | nil =>
    have hquote : "bearer".toList.isPrefixOf (lower ('"' :: t)) = false := by rfl
    have hstep : findBearerMarkerFrom previous ('"' :: t) =
        (findBearerMarkerFrom (some '"') t).map (· + 1) := by
      rw [findBearerMarkerFrom, hquote, Bool.false_and, Bool.false_and]
      rfl
    rw [List.nil_append, hstep, findBearerMarkerFrom_quote]
    rfl
  | cons c s ih =>
    have hstarts : "bearer".toList.isPrefixOf (lower (c :: (s ++ '"' :: t))) =
        "bearer".toList.isPrefixOf (lower (c :: s)) := by
      rw [Bool.eq_iff_iff, List.isPrefixOf_iff_prefix, List.isPrefixOf_iff_prefix,
        ← List.cons_append, lower_append]
      exact prefix_append_cons_iff (by decide)
    have hafter : "bearer".toList.isPrefixOf (lower (c :: s)) = true →
        ((s ++ '"' :: t).drop 5).head?.all isAfterBearer = (s.drop 5).head?.all isAfterBearer := by
      intro h
      have hlength := (List.isPrefixOf_iff_prefix.mp h).length_le
      rw [length_lower] at hlength
      have hlength : 5 ≤ s.length := by simpa using hlength
      rw [List.drop_append_of_le_length hlength]
      cases s.drop 5 with
      | nil =>
        have hquote : isAfterBearer '"' = true := by decide
        simp [hquote]
      | cons d rest => rfl
    have hlater : ((findBearerMarkerFrom (some c) s).or
        ((findBearerMarker t).map (· + (s.length + 1)))).map (· + 1) =
        ((findBearerMarkerFrom (some c) s).map (· + 1)).or
          ((findBearerMarker t).map (· + ((c :: s).length + 1))) := by
      cases findBearerMarkerFrom (some c) s with
      | none => simp [Function.comp_def, Nat.add_assoc]
      | some found => rfl
    rw [List.cons_append, findBearerMarkerFrom, findBearerMarkerFrom, hstarts, ih, hlater]
    cases h : "bearer".toList.isPrefixOf (lower (c :: s)) with
    | false => simp only [Bool.false_and, Bool.false_eq_true, if_false]
    | true =>
      rw [hafter h]
      split <;> rfl

theorem findBearerMarker_append_quote (s t : Text) : findBearerMarker (s ++ '"' :: t) =
    (findBearerMarker s).or ((findBearerMarker t).map (· + (s.length + 1))) :=
  findBearerMarkerFrom_append_quote none s t

/-- **No marker before a quote**: what is after it is scrubbed on its own. -/
theorem scrubBearerToken_append_quote {s : Text} (hs : findBearerMarker s = none) (t : Text) :
    scrubBearerToken (s ++ '"' :: t) =
      (scrubBearerToken t).map fun scrubbed => (s ++ '"' :: scrubbed.1, scrubbed.2) := by
  unfold scrubBearerToken
  rw [findBearerMarker_append_quote, hs, Option.none_or]
  cases findBearerMarker t with
  | none => rfl
  | some markerStart =>
    have hshift : markerStart + (s.length + 1) + 6 = s.length + (markerStart + 6 + 1) := by omega
    simp only [Option.map_some, Option.bind_some]
    rw [hshift, List.drop_length_add_append, List.drop_succ_cons, List.take_length_add_append,
      List.take_succ_cons]
    cases t.drop (markerStart + 6) with
    | nil => rfl
    | cons separator secret =>
      dsimp only
      split
      · simp
      · split
        · simp
        · rfl

/-- Where a marker is, and what follows it. -/
theorem findBearerMarkerFrom_some {previous : Option Char} {t : Text} {markerStart : ℕ}
    (h : findBearerMarkerFrom previous t = some markerStart) :
    markerStart + 6 ≤ t.length ∧ (t.drop (markerStart + 6)).head?.all isAfterBearer = true := by
  induction t generalizing previous markerStart with
  | nil => cases h
  | cons c t ih =>
    rw [findBearerMarkerFrom] at h
    split at h
    next hmarker =>
      obtain rfl := Option.some.inj h
      obtain ⟨hboth, hafter⟩ := Bool.and_eq_true_iff.mp hmarker
      have hstarts := List.isPrefixOf_iff_prefix.mp (Bool.and_eq_true_iff.mp hboth).1
      have hlength := hstarts.length_le
      rw [length_lower] at hlength
      exact ⟨hlength, hafter⟩
    next =>
      obtain ⟨found, hfound, rfl⟩ := Option.map_eq_some_iff.mp h
      obtain ⟨hlength, hafter⟩ := ih hfound
      refine ⟨by rw [List.length_cons]; omega, ?_⟩
      rwa [show found + 1 + 6 = (found + 6) + 1 by omega, List.drop_succ_cons]

/-- A marker that introduces its secret in the same word. -/
def assignsBearer (token : Text) : Bool :=
  (findBearerMarker token).any fun markerStart =>
    (token.drop (markerStart + 6)).head?.any fun separator => separator == ':' || separator == '='

/-- A marker that introduces the next word leaves its own word. -/
theorem scrubBearerToken_next {s : Text} {markerStart : ℕ}
    (hs : findBearerMarker s = some markerStart) (hassigns : assignsBearer s = false) (t : Text) :
    scrubBearerToken (s ++ '"' :: t) = some (s ++ '"' :: t, true) := by
  obtain ⟨hlength, hafter⟩ := findBearerMarkerFrom_some hs
  have hwhole := List.take_append_drop (markerStart + 6) s
  unfold scrubBearerToken
  rw [findBearerMarker_append_quote, hs, Option.some_or, Option.bind_some,
    List.take_append_of_le_length hlength, List.drop_append_of_le_length hlength]
  cases hdrop : s.drop (markerStart + 6) with
  | nil =>
    rw [hdrop, List.append_nil] at hwhole
    have hboundary : isBearerBoundary '"' = true := by decide
    simp [hwhole, hboundary]
  | cons separator secret =>
    have hnot : ¬ (separator = ':' ∨ separator = '=') := by
      rw [assignsBearer, hs, Option.any_some, hdrop] at hassigns
      simpa using hassigns
    have hboundary : isBearerBoundary separator = true := by
      have hseparator : isAfterBearer separator = true := by simpa [hdrop] using hafter
      simpa [isAfterBearer, not_or.mp hnot] using hseparator
    rw [hdrop] at hwhole
    rw [List.cons_append]
    dsimp only
    rw [if_neg hnot, if_pos hboundary, ← List.cons_append, ← List.append_assoc, hwhole]

/-- A marker that introduces its secret before a quote. -/
theorem scrubBearerToken_assigns {s : Text} (hassigns : assignsBearer s = true) :
    ∃ front secret, ∀ t, scrubBearerToken (s ++ '"' :: t) =
      some (front ++ redactWrappedSecretToken (secret ++ '"' :: t), false) := by
  unfold assignsBearer at hassigns
  cases hs : findBearerMarker s with
  | none => simp [hs] at hassigns
  | some markerStart =>
    obtain ⟨hlength, -⟩ := findBearerMarkerFrom_some hs
    rw [hs, Option.any_some] at hassigns
    cases hdrop : s.drop (markerStart + 6) with
    | nil => simp [hdrop] at hassigns
    | cons separator secret =>
      have hseparator : separator = ':' ∨ separator = '=' := by
        rw [hdrop] at hassigns
        simpa using hassigns
      refine ⟨s.take (markerStart + 6) ++ [separator], secret, fun t => ?_⟩
      unfold scrubBearerToken
      rw [findBearerMarker_append_quote, hs, Option.some_or, Option.bind_some,
        List.take_append_of_le_length hlength, List.drop_append_of_le_length hlength, hdrop,
        List.cons_append]
      dsimp only
      rw [if_pos hseparator]
      simp

end LlmGuardProxy.Evidence
