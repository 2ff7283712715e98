import LlmGuardProxy.Loop.Stuck
import LlmGuardProxy.Machinery.Json
import LlmGuardProxy.Machinery.Search

/-!
# Loop/Profile — the repeated lines of a request

`LoopInputProfile::from_value` reads every text of a request body that is under no sensitive key,
and remembers the hashes of the lines and of the token windows that come more than once.

* `observeValue_eq` — the texts are read one after the other.
* `mem_repeatedLineHashes_iff` — a line is remembered when it comes twice and its hash is one of the
  first 4096.
-/

namespace LlmGuardProxy

open Machinery

/-! ## The profile of a request -/

/-- `LOOP_INPUT_LINE_COUNT_CAP`. -/
def loopInputLineCountCap : ℕ := 4096

/-- `LOOP_INPUT_TOKEN_WINDOW_COUNT_CAP`. -/
def loopInputTokenWindowCountCap : ℕ := 8192

/-- `is_sensitive_input_key`. -/
def isSensitiveInputKey (key : String) : Bool :=
  let normalized := lower (key.toList.filter Char.isAlphanum)
  if isWord normalized ["maxtokens", "maxcompletiontokens", "maxoutputtokens", "budgettokens"] then
    false
  else
    ["authorization", "apikey", "accesskey", "privatekey", "secret", "password", "credential",
      "credentials", "bearer", "token"].any fun marker => containsText marker.toList normalized

/-- `strip_suffix('\r')`. -/
def stripReturn (line : Text) : Text := if line.getLast? = some '\r' then line.dropLast else line

/-- `str::lines`: an LF ends a line, and a CR right before it goes with it. -/
def strLines (text : Text) : List Text :=
  (completeLines text).map stripReturn ++ if openLine text = [] then [] else [openLine text]

/-- `push_token_window_hash`: the recent hashes, and the window that the token completes. -/
def pushTokenWindowHash (windowSize : ℕ) (token : Text) (recent : List UInt64) :
    List UInt64 × Option UInt64 :=
  if token = [] then (recent, none)
  else
    let hashes := recent ++ [stableHash (encodeUtf8 token)]
    let recent := hashes.drop (hashes.length - windowSize)
    (recent, if recent.length = windowSize then some (stableHashU64s recent) else none)

/-- The loop of `observe_token_window_hashes`. -/
def tokenWindowHashesLoop (u : UnicodeTables) (windowSize : ℕ) :
    Text → Text → List UInt64 → List UInt64
  | [], token, recent => (pushTokenWindowHash windowSize token recent).2.toList
  | c :: chars, token, recent =>
      if !u.isAlphanumeric c then
        let (recent, window) := pushTokenWindowHash windowSize token recent
        window.toList ++ tokenWindowHashesLoop u windowSize chars [] recent
      else if byteLen token < loopMaxTokenBytes then
        tokenWindowHashesLoop u windowSize chars (token ++ u.toLowercase c) recent
      else tokenWindowHashesLoop u windowSize chars token recent

/-- `observe_token_window_hashes`: the hashes that the closure is called with. -/
def tokenWindowHashes (u : UnicodeTables) (text : Text) (windowSize : ℕ) : List UInt64 :=
  if windowSize = 0 then [] else tokenWindowHashesLoop u windowSize text [] []

/-- A profile that is being built, with the counts of what it has read. -/
structure ProfileBuild where
  profile : LoopInputProfile := {}
  lineCounts : List (UInt64 × ℕ) := []
  tokenWindowCounts : List (UInt64 × ℕ) := []

namespace ProfileBuild

/-- The loop body of `observe_text` for a line. -/
def observeLine (u : UnicodeTables) (build : ProfileBuild) (line : Text) : ProfileBuild :=
  match normalizedLineHash u line with
  | none => build
  | some hash =>
      let (count, counts, capped) := incrementCountWithCap build.lineCounts hash
        loopInputLineCountCap build.profile.stateCapping.inputLines
      let repeated :=
        if 1 < count.getD 0 then insertKey hash build.profile.repeatedLineHashes
        else build.profile.repeatedLineHashes
      { build with
        lineCounts := counts
        profile := { build.profile with
          repeatedLineHashes := repeated
          stateCapping := { build.profile.stateCapping with inputLines := capped } } }

/-- The closure of `observe_text` for a token window. -/
def observeWindow (build : ProfileBuild) (windowHash : UInt64) : ProfileBuild :=
  let (count, counts, capped) := incrementCountWithCap build.tokenWindowCounts windowHash
    loopInputTokenWindowCountCap build.profile.stateCapping.inputTokenWindows
  let repeated :=
    if 1 < count.getD 0 then insertKey windowHash build.profile.repeatedTokenWindowHashes
    else build.profile.repeatedTokenWindowHashes
  { build with
    tokenWindowCounts := counts
    profile := { build.profile with
      repeatedTokenWindowHashes := repeated
      stateCapping := { build.profile.stateCapping with inputTokenWindows := capped } } }

/-- `observe_text`. -/
def observeText (u : UnicodeTables) (windowSize : ℕ) (build : ProfileBuild) (text : Text) :
    ProfileBuild :=
  (tokenWindowHashes u text windowSize).foldl observeWindow
    ((strLines text).foldl (observeLine u) build)

mutual

/-- `observe_value`. -/
def observeValue (u : UnicodeTables) (windowSize : ℕ) (key : Option String) :
    Json → ProfileBuild → ProfileBuild
  | .str text, build =>
      if key.any isSensitiveInputKey then build else build.observeText u windowSize text.toList
  | .arr items, build => observeItems u windowSize key items build
  | .obj members, build => observeMembers u windowSize members build
  | .null, build | .bool _, build | .num _, build => build

/-- The elements of an array, under the key of the array. -/
def observeItems (u : UnicodeTables) (windowSize : ℕ) (key : Option String) :
    List Json → ProfileBuild → ProfileBuild
  | [], build => build
  | item :: items, build =>
      observeItems u windowSize key items (observeValue u windowSize key item build)

/-- The members of an object that are under no sensitive key. -/
def observeMembers (u : UnicodeTables) (windowSize : ℕ) :
    List (String × Json) → ProfileBuild → ProfileBuild
  | [], build => build
  | (key, value) :: members, build =>
      observeMembers u windowSize members
        (if isSensitiveInputKey key then build else observeValue u windowSize (some key) value build)

end

end ProfileBuild

/-- `LoopInputProfile::from_value`. -/
def LoopInputProfile.fromValue (u : UnicodeTables) (value : Json) (tokenWindowSize : ℕ) :
    LoopInputProfile :=
  (ProfileBuild.observeValue u tokenWindowSize none value {}).profile

/-! ## The texts of a request -/

mutual

/-- The texts of a value that the profile reads. -/
def inputTexts (key : Option String) : Json → List Text
  | .str text => if key.any isSensitiveInputKey then [] else [text.toList]
  | .arr items => itemTexts key items
  | .obj members => memberTexts members
  | .null | .bool _ | .num _ => []

/-- The texts of the elements of an array. -/
def itemTexts (key : Option String) : List Json → List Text
  | [] => []
  | item :: items => inputTexts key item ++ itemTexts key items

/-- The texts of the members of an object. -/
def memberTexts : List (String × Json) → List Text
  | [] => []
  | (key, value) :: members =>
      (if isSensitiveInputKey key then [] else inputTexts (some key) value) ++ memberTexts members

end

variable {u : UnicodeTables} {windowSize : ℕ}

mutual

/-- **The texts are read one after the other.** -/
theorem observeValue_eq (key : Option String) (value : Json) (build : ProfileBuild) :
    build.observeValue u windowSize key value =
      (inputTexts key value).foldl (ProfileBuild.observeText u windowSize) build := by
  cases value with
  | str text =>
    rw [ProfileBuild.observeValue, inputTexts]
    split
    · rfl
    · rfl
  | arr items =>
    rw [ProfileBuild.observeValue, inputTexts]
    exact observeItems_eq key items build
  | obj members =>
    rw [ProfileBuild.observeValue, inputTexts]
    exact observeMembers_eq members build
  | null => rfl
  | bool b => rfl
  | num n => rfl

theorem observeItems_eq (key : Option String) (items : List Json) (build : ProfileBuild) :
    build.observeItems u windowSize key items =
      (itemTexts key items).foldl (ProfileBuild.observeText u windowSize) build := by
  cases items with
  | nil => rfl
  | cons item items =>
    rw [ProfileBuild.observeItems, itemTexts, List.foldl_append, observeValue_eq key item,
      observeItems_eq key items]

theorem observeMembers_eq (members : List (String × Json)) (build : ProfileBuild) :
    build.observeMembers u windowSize members =
      (memberTexts members).foldl (ProfileBuild.observeText u windowSize) build := by
  cases members with
  | nil => rfl
  | cons member members =>
    obtain ⟨key, value⟩ := member
    rw [ProfileBuild.observeMembers, memberTexts, List.foldl_append, observeMembers_eq members]
    split
    · rfl
    · rw [observeValue_eq (some key) value]

end

/-! ## What a table counts -/

theorem mem_of_lookup_countTable {hashes : List UInt64} {hash : UInt64}
    (h : (countTable hashes).lookup hash ≠ none) : hash ∈ hashes := (countTable_spec hashes).2 hash h

/-- A table that is not full has all its hashes. -/
theorem lookup_countTable_of_room {hashes : List UInt64}
    (hroom : (countTable hashes).length < loopOutputLineCountCap) :
    ∀ hash ∈ hashes, (countTable hashes).lookup hash ≠ none := by
  induction hashes using List.reverseRecOn with
  | nil => simp
  | append_singleton hashes next ih =>
    intro hash hmem
    rw [countTable_concat] at hroom ⊢
    rcases hrun : incrementCountWithCap (countTable hashes) next loopOutputLineCountCap 0 with
      ⟨count, counts, capped⟩
    obtain ⟨hnone, hsome⟩ := incrementCountWithCap_spec hrun
    rw [hrun] at hroom
    dsimp only at hroom ⊢
    cases count with
    | none =>
      obtain ⟨rfl, -, hfull⟩ := hnone rfl
      exact absurd hroom (Nat.not_lt.mpr hfull)
    | some count =>
      obtain ⟨hlookup, hlength⟩ := hsome (by simp)
      rw [Ne, hlookup, not_and]
      intro hne
      refine ih (hlength.trans_lt hroom) hash ?_
      rcases List.mem_append.mp hmem with hold | hnew
      · exact hold
      · exact absurd (List.mem_singleton.mp hnew) hne

/-- A hash that finds the table full is never counted. -/
theorem lookup_countTable_of_full {hashes : List UInt64} {hash : UInt64}
    (hmissing : (countTable hashes).lookup hash = none)
    (hfull : loopOutputLineCountCap ≤ (countTable hashes).length) (more : List UInt64) :
    (countTable (hashes ++ more)).lookup hash = none ∧
      loopOutputLineCountCap ≤ (countTable (hashes ++ more)).length := by
  induction more using List.reverseRecOn with
  | nil => rw [List.append_nil]; exact ⟨hmissing, hfull⟩
  | append_singleton more next ih =>
    obtain ⟨hlookup, hlength⟩ := ih
    rw [← List.append_assoc, countTable_concat]
    cases hnext : (countTable (hashes ++ more)).lookup next with
    | none =>
      rw [increment_of_full hnext hlength]
      exact ⟨hlookup, hlength⟩
    | some count =>
      rw [increment_of_some hnext]
      refine ⟨?_, hlength.trans (length_le_length_insertSorted _ _ _)⟩
      rw [lookup_insertSorted, if_neg, hlookup]
      rintro rfl
      rw [hlookup] at hnext
      cases hnext

/-- **The hashes in the table** are those that come early. -/
theorem lookup_countTable_ne_none_iff {hashes : List UInt64} {hash : UInt64} :
    (countTable hashes).lookup hash ≠ none ↔ hash ∈ hashes ∧ ComesEarly hashes hash := by
  constructor
  · intro h
    have hmem := mem_of_lookup_countTable h
    refine ⟨hmem, ?_⟩
    by_contra hlate
    have hlate : loopOutputLineCountCap ≤ (hashes.takeWhile (· ≠ hash)).toFinset.card :=
      Nat.not_lt.mp hlate
    have hfull : loopOutputLineCountCap ≤ (countTable (hashes.takeWhile (· ≠ hash))).length := by
      by_contra hroom
      have hall := lookup_countTable_of_room (Nat.not_le.mp hroom)
      have hcard : (hashes.takeWhile (· ≠ hash)).toFinset.card ≤
          (countTable (hashes.takeWhile (· ≠ hash))).length := by
        rw [← List.length_map Prod.fst]
        refine (Finset.card_le_card fun other hother => ?_).trans (List.toFinset_card_le _)
        obtain ⟨count, hcount⟩ := Option.ne_none_iff_exists'.mp
          (hall other (List.mem_toFinset.mp hother))
        have hentry := (countTable_spec (hashes.takeWhile (· ≠ hash))).1.mem_iff.mpr hcount
        exact List.mem_toFinset.mpr (List.mem_map_of_mem (f := Prod.fst) hentry)
      omega
    have hmissing : (countTable (hashes.takeWhile (· ≠ hash))).lookup hash = none := by
      by_contra hfound
      have htaken := List.mem_takeWhile_imp (mem_of_lookup_countTable hfound)
      simp at htaken
    have hsplit := List.takeWhile_append_dropWhile (p := (· ≠ hash)) (l := hashes)
    rw [← hsplit] at h
    exact h (lookup_countTable_of_full hmissing hfull _).1
  · rintro ⟨hmem, hearly⟩
    rcases hearly.hasRoom with hfound | hroom
    · exact hfound
    · exact lookup_countTable_of_room hroom hash hmem

/-- **The count of a hash in the table** is how often it came, up to the bound of a `u32`. -/
theorem eq_count_of_lookup_countTable {hashes : List UInt64} {hash : UInt64} {n : ℕ}
    (h : (countTable hashes).lookup hash = some n) : n = min (hashes.count hash) (2 ^ 32 - 1) := by
  induction hashes using List.reverseRecOn generalizing n with
  | nil => cases h
  | append_singleton hashes next ih =>
    rw [countTable_concat] at h
    rw [List.count_append, List.count_singleton]
    cases hnext : (countTable hashes).lookup next with
    | some count =>
      rw [increment_of_some hnext, lookup_insertSorted] at h
      split at h
      case isTrue heq =>
        subst heq
        rw [if_pos (by simp), ← Option.some.inj h, saturatingSucc32, ih hnext]
        omega
      case isFalse hne => rw [if_neg (by simpa using Ne.symm hne), Nat.add_zero, ih h]
    | none =>
      by_cases hfull : loopOutputLineCountCap ≤ (countTable hashes).length
      · rw [increment_of_full hnext hfull] at h
        have hne : next ≠ hash := by
          rintro rfl
          rw [hnext] at h
          cases h
        rw [if_neg (by simpa using hne), Nat.add_zero, ih h]
      · have hroom := Nat.not_le.mp hfull
        rw [increment_of_room hnext hroom, lookup_insertSorted] at h
        split at h
        case isTrue heq =>
          subst heq
          have hfresh : hash ∉ hashes := fun hmem => lookup_countTable_of_room hroom hash hmem hnext
          rw [if_pos (by simp), ← Option.some.inj h, List.count_eq_zero_of_not_mem hfresh]
          rfl
        case isFalse hne => rw [if_neg (by simpa using Ne.symm hne), Nat.add_zero, ih h]

/-! ## The repeated lines -/

/-- The lines of some texts, as the profile splits them. -/
def inputLines (texts : List Text) : List Text := texts.flatMap strLines

/-- The hashes of the lines of some texts. -/
def inputLineHashes (u : UnicodeTables) (texts : List Text) : List UInt64 :=
  (inputLines texts).filterMap (normalizedLineHash u)

/-- What a profile remembers of the lines with these hashes. -/
structure BuildInv (hashes : List UInt64) (build : ProfileBuild) : Prop where
  counts : build.lineCounts = countTable hashes
  repeated : ∀ hash, hash ∈ build.profile.repeatedLineHashes ↔
    ∃ count, 1 < count ∧ (countTable hashes).lookup hash = some count

theorem buildInv_init : BuildInv [] {} :=
  ⟨rfl, fun hash => by simp [countTable]⟩

/-- **One line.** -/
theorem BuildInv.line {hashes : List UInt64} {build : ProfileBuild} (h : BuildInv hashes build)
    (line : Text) :
    BuildInv (hashes ++ (normalizedLineHash u line).toList) (build.observeLine u line) := by
  unfold ProfileBuild.observeLine
  cases normalizedLineHash u line with
  | none =>
    rw [Option.toList_none, List.append_nil]
    exact h
  | some hash =>
    rw [Option.toList_some]
    obtain ⟨hcount, hcounts⟩ := incrementCountWithCap_capped build.lineCounts hash
      loopInputLineCountCap build.profile.stateCapping.inputLines
    have htable : (incrementCountWithCap build.lineCounts hash loopInputLineCountCap 0).2.1 =
        countTable (hashes ++ [hash]) := by
      rw [countTable_concat, h.counts]
      rfl
    refine ⟨hcounts.trans htable, fun other => ?_⟩
    change other ∈ (if 1 < (incrementCountWithCap build.lineCounts hash loopInputLineCountCap
      build.profile.stateCapping.inputLines).1.getD 0 then _ else _) ↔ _
    rw [hcount, ← htable, h.counts]
    cases hlookup : (countTable hashes).lookup hash with
    | some count =>
      have hold := h.repeated hash
      rw [increment_of_some hlookup, lookup_insertSorted]
      dsimp only [Option.getD_some]
      by_cases hother : other = hash
      · subst hother
        rw [if_pos rfl]
        rw [hlookup] at hold
        split
        case isTrue hmore => simp [mem_insertKey, hmore]
        case isFalse hless =>
          have hzero : ¬ 1 < count := fun hlt => hless (by unfold saturatingSucc32; omega)
          simp [hold, hzero, hless]
      · rw [if_neg hother, ← h.repeated other]
        split
        · simp [mem_insertKey, hother]
        · rfl
    | none =>
      by_cases hfull : loopInputLineCountCap ≤ (countTable hashes).length
      · rw [increment_of_full hlookup hfull]
        exact h.repeated other
      · rw [increment_of_room hlookup (Nat.not_le.mp hfull), lookup_insertSorted]
        dsimp only [Option.getD_some]
        rw [if_neg (lt_irrefl 1)]
        by_cases hother : other = hash
        · subst hother
          rw [if_pos rfl, h.repeated other, hlookup]
          simp
        · rw [if_neg hother]
          exact h.repeated other

theorem BuildInv.lines {hashes : List UInt64} {build : ProfileBuild} (h : BuildInv hashes build)
    (lines : List Text) :
    BuildInv (hashes ++ lines.filterMap (normalizedLineHash u))
      (lines.foldl (ProfileBuild.observeLine u) build) := by
  induction lines generalizing hashes build with
  | nil =>
    rw [List.filterMap_nil, List.append_nil]
    exact h
  | cons line lines ih =>
    have hcons : (line :: lines).filterMap (normalizedLineHash u) =
        (normalizedLineHash u line).toList ++ lines.filterMap (normalizedLineHash u) := by
      rw [List.filterMap_cons]
      cases normalizedLineHash u line with
      | none => rfl
      | some hash => rfl
    rw [List.foldl_cons, hcons, ← List.append_assoc]
    exact ih (h.line line)

/-- The token windows leave the lines alone. -/
theorem BuildInv.windows {hashes : List UInt64} {build : ProfileBuild} (h : BuildInv hashes build)
    (windows : List UInt64) : BuildInv hashes (windows.foldl ProfileBuild.observeWindow build) := by
  induction windows generalizing build with
  | nil => exact h
  | cons window windows ih =>
    rw [List.foldl_cons]
    exact ih ⟨h.counts, h.repeated⟩

/-- **The texts of a request.** -/
theorem BuildInv.texts {hashes : List UInt64} {build : ProfileBuild} (h : BuildInv hashes build)
    (texts : List Text) :
    BuildInv (hashes ++ inputLineHashes u texts)
      (texts.foldl (ProfileBuild.observeText u windowSize) build) := by
  induction texts generalizing hashes build with
  | nil =>
    rw [inputLineHashes, inputLines, List.flatMap_nil, List.filterMap_nil, List.append_nil]
    exact h
  | cons text texts ih =>
    rw [List.foldl_cons, inputLineHashes, inputLines, List.flatMap_cons, List.filterMap_append,
      ← List.append_assoc]
    exact ih ((h.lines (strLines text)).windows _)

/-- **The repeated lines of a request** are those that come twice and whose hash is one of the first
4096. -/
theorem mem_repeatedLineHashes_iff (value : Json) {hash : UInt64} :
    hash ∈ (LoopInputProfile.fromValue u value windowSize).repeatedLineHashes ↔
      2 ≤ (inputLineHashes u (inputTexts none value)).count hash ∧
        ComesEarly (inputLineHashes u (inputTexts none value)) hash := by
  have hinv : BuildInv (inputLineHashes u (inputTexts none value))
      (ProfileBuild.observeValue u windowSize none value {}) := by
    rw [observeValue_eq]
    exact buildInv_init.texts _
  rw [LoopInputProfile.fromValue, hinv.repeated]
  constructor
  · rintro ⟨count, hcount, hlookup⟩
    have heq := eq_count_of_lookup_countTable hlookup
    exact ⟨by omega, (lookup_countTable_ne_none_iff.mp (by simp [hlookup])).2⟩
  · rintro ⟨htwice, hearly⟩
    have hmem : hash ∈ inputLineHashes u (inputTexts none value) :=
      List.count_pos_iff.mp (by omega)
    obtain ⟨count, hlookup⟩ := Option.ne_none_iff_exists'.mp
      (lookup_countTable_ne_none_iff.mpr ⟨hmem, hearly⟩)
    have heq := eq_count_of_lookup_countTable hlookup
    exact ⟨count, by omega, hlookup⟩

end LlmGuardProxy
