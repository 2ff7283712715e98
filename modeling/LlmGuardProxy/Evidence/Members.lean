import LlmGuardProxy.Evidence.Assignments
import LlmGuardProxy.Evidence.Words

/-!
# Evidence/Members — a sensitive member of a JSON text

What `scrub_text` lets through of the contents of a string literal that follows a sensitive key and a
colon.

* `scrub_member`, `scrub_member_value` — a pass for another key keeps the start of the member, and the
  pass for its own key drops the literal up to the first character at which a value ends.
* `scrubText_hides_member` — two literals that are left alike behind that value give the same text.
* `scrubText_shows_second_word` — a value does not end at its closing quote when it has a blank.
-/

namespace LlmGuardProxy.Evidence

open Machinery

/-- A text with the start of a member: a key literal, a colon and the quote of a string literal. -/
def openMember (pre name rest : Text) : Text :=
  pre ++ '"' :: (name ++ '"' :: ':' :: '"' :: rest)

/-- A text with a member: a key literal, a colon and a string literal. -/
def memberText (pre name contents post : Text) : Text := openMember pre name (contents ++ '"' :: post)

/-! ## Sensitive names -/

/-- A name that is a sensitive key in any letter case. -/
def isSensitiveName (name : Text) : Bool := sensitiveKeys.any fun key => lower name = key.toList

/-- The keys that are looked for before a key is found in the name. -/
def keysBefore (name : Text) : List String :=
  sensitiveKeys.takeWhile fun key => !containsText key.toList (lower name)

/-- The first key that is found in the name. -/
def keyWithin (name : Text) : Option String :=
  sensitiveKeys.find? fun key => containsText key.toList (lower name)

theorem sensitiveKeys_plain : ∀ key ∈ sensitiveKeys, key.toList ≠ [] ∧ '"' ∉ key.toList ∧
    ':' ∉ key.toList ∧ ']' ∉ key.toList ∧ lower key.toList = key.toList := by
  decide

/-- Each key ends in the first key that is found in it, and no other occurrence starts before that. -/
theorem sensitiveKeys_within : ∀ key ∈ sensitiveKeys, ∃ found ∈ sensitiveKeys,
    keyWithin key.toList = some found ∧
    sensitiveKeys = keysBefore key.toList ++ found :: sensitiveKeys.drop
      ((keysBefore key.toList).length + 1) ∧
    key.toList.drop (key.toList.length - found.toList.length) = found.toList ∧
    found.toList.head? ∉ (key.toList.take (key.toList.length - found.toList.length)).map some := by
  decide

/-- **A sensitive name ends in the first key that is found in it.** -/
theorem exists_keyWithin {name : Text} (h : isSensitiveName name = true) :
    ∃ found ∈ sensitiveKeys, keyWithin name = some found ∧
      (∃ after, sensitiveKeys = keysBefore name ++ found :: after) ∧
      ∃ front last, name = front ++ last ∧ lower last = found.toList ∧
        ∀ c ∈ front, found.toList.head? ≠ some c.toLower := by
  obtain ⟨key, hkey, hname⟩ := List.any_eq_true.mp h
  have hname : lower name = key.toList := of_decide_eq_true hname
  obtain ⟨-, -, -, -, hlower⟩ := sensitiveKeys_plain key hkey
  obtain ⟨found, hfound, hwithin, hkeys, hlast, hfront⟩ := sensitiveKeys_within key hkey
  have hsame : lower name = lower key.toList := by rw [hname, hlower]
  have hlength : name.length = key.toList.length := by rw [← hname, length_lower]
  refine ⟨found, hfound, ?_, ⟨sensitiveKeys.drop ((keysBefore key.toList).length + 1), ?_⟩,
    name.take (key.toList.length - found.toList.length),
    name.drop (key.toList.length - found.toList.length), (List.take_append_drop _ _).symm, ?_, ?_⟩
  · rw [← hwithin, keyWithin, keyWithin, hsame]
  · rw [show keysBefore name = keysBefore key.toList by rw [keysBefore, keysBefore, hsame]]
    exact hkeys
  · rw [lower, List.map_drop, ← lower, hname, hlast]
  · intro c hc
    have hmem : c.toLower ∈ (lower name).take (key.toList.length - found.toList.length) := by
      rw [lower, ← List.map_take]
      exact List.mem_map_of_mem hc
    rw [hname] at hmem
    exact fun hhead => hfront (hhead ▸ List.mem_map_of_mem hmem)

theorem not_infix_of_mem_keysBefore {name : Text} {key : String} (h : key ∈ keysBefore name) :
    ¬ key.toList <:+: lower name := by
  have hnot := List.mem_takeWhile_imp h
  rw [← containsText_iff]
  simpa using hnot

theorem mem_sensitiveKeys {name : Text} {key : String}
    (h : key ∈ keysBefore name ++ (keyWithin name).toList) : key ∈ sensitiveKeys := by
  rcases List.mem_append.mp h with h | h
  · exact List.takeWhile_subset _ h
  · exact List.mem_of_find?_eq_some (Option.mem_toList.mp h)

/-- The characters of a sensitive name are no white space. -/
theorem not_whitespace_of_isSensitiveName {name : Text} (h : isSensitiveName name = true) :
    ∀ c ∈ name, isUnicodeWhitespace c = false := by
  obtain ⟨key, hkey, hname⟩ := List.any_eq_true.mp h
  have hname : lower name = key.toList := of_decide_eq_true hname
  have hkeys : ∀ key ∈ sensitiveKeys, key.toList.all (fun c => !isUnicodeWhitespace c) = true := by
    decide
  intro c hc
  have hmem : c.toLower ∈ key.toList := hname ▸ List.mem_map_of_mem hc
  refine isUnicodeWhitespace_of_toLower ?_
  simpa using List.all_eq_true.mp (hkeys key hkey) c.toLower hmem

/-- A sensitive name starts with a letter, which is no delimiter. -/
theorem assignmentDelimiter_of_isSensitiveName {name : Text} (h : isSensitiveName name = true)
    (t : Text) : assignmentDelimiter (name ++ t) = none := by
  obtain ⟨key, hkey, hname⟩ := List.any_eq_true.mp h
  have hname : lower name = key.toList := of_decide_eq_true hname
  have hkeys : ∀ key ∈ sensitiveKeys, key.toList.head?.all Char.isLower = true ∧ key.toList ≠ [] := by
    decide
  obtain ⟨hletter, hne⟩ := hkeys key hkey
  rcases name with _ | ⟨c, name⟩
  · exact absurd hname.symm hne
  · rw [← hname, lower_cons, List.head?_cons, Option.all_some] at hletter
    have hc : ∀ d, d.toLower.isLower = false → c ≠ d := by
      rintro d hd rfl
      rw [hletter] at hd
      cases hd
    rw [List.cons_append, assignmentDelimiter, if_neg, if_neg]
    · simp [hc ':' (by decide), hc '=' (by decide)]
    · simp [isQuote, hc ' ' (by decide), hc '\t' (by decide), hc '\r' (by decide),
        hc '\n' (by decide), hc '"' (by decide), hc '\'' (by decide), hc '`' (by decide)]
    · rintro rest rfl
      exact absurd rfl (hc '\\' (by decide))

/-! ## The second pass over a member -/

section

variable {key name : Text} (hkey : key ≠ []) (hquote : '"' ∉ key)

theorem assignsWithin_of_not_occurs (h : ¬ key <:+: lower name) (post : Text) :
    assignsWithin key name post = false := by
  rw [← Bool.not_eq_true]
  intro hassigns
  obtain ⟨rest, hsuffix, hplace⟩ := exists_of_any_tails hassigns
  obtain ⟨hstarts, -⟩ := Bool.and_eq_true_iff.mp hplace
  refine h ((List.isPrefixOf_iff_prefix.mp hstarts).isInfix.trans ?_)
  obtain ⟨front, rfl⟩ := hsuffix
  rw [lower_append]
  exact List.infix_append_right

include hkey hquote

/-- **A pass for another key keeps the start of the member.** -/
theorem scrub_member {pre rest : Text} (hcolon : ':' ∉ key) (hother : ¬ key <:+: lower name)
    (hname : ∀ t, assignmentDelimiter (name ++ t) = none) (hopen : isOpen key pre = false) :
    scrubAssignmentForms (openMember pre name rest) key =
      openMember (scrubAssignmentForms pre key) name (scrubAssignmentForms rest key) := by
  unfold openMember
  rw [scrub_append_quote hkey hquote (hname _) pre hopen,
    scrub_literal hkey hquote name (assignsWithin_of_not_occurs hother _),
    scrub_other hkey (c := ':') (head?_ne_some hcolon), scrub_quote hkey hquote]

omit hquote in
theorem scrub_skip {front : Text} (hfront : ∀ c ∈ front, key.head? ≠ some c.toLower) (t : Text) :
    scrubAssignmentForms (front ++ t) key = front ++ scrubAssignmentForms t key := by
  induction front with
  | nil => rfl
  | cons c front ih =>
    rw [List.cons_append, scrub_other hkey (hfront c List.mem_cons_self),
      ih fun d hd => hfront d (List.mem_cons_of_mem c hd)]
    rfl

/-- **The pass for the key drops the literal** up to the first character at which a value ends. -/
theorem scrub_member_value {pre rest front last : Text} (hsplit : name = front ++ last)
    (hlast : lower last = key) (hfront : ∀ c ∈ front, key.head? ≠ some c.toLower)
    (hname : ∀ t, assignmentDelimiter (name ++ t) = none) (hopen : isOpen key pre = false) :
    scrubAssignmentForms (openMember pre name rest) key =
      scrubAssignmentForms pre key ++ '"' :: (name ++ '"' :: ':' :: redacted ++
        scrubAssignmentForms (rest.dropWhile fun c => !isValueEnd c) key) := by
  have hdelimiter : assignmentDelimiter ('"' :: ':' :: '"' :: rest) = some (1, ':') := by
    simp [assignmentDelimiter, isQuote]
  have hvalue : afterValue ('"' :: rest) = rest.dropWhile fun c => !isValueEnd c := by
    have hquote : isUnicodeWhitespace '"' = false := by decide
    simp [afterValue, hquote, isQuote]
  unfold openMember
  rw [scrub_append_quote hkey hquote (hname _) pre hopen, hsplit, List.append_assoc,
    scrub_skip hkey hfront, scrub_key hkey hlast, scrubAfterKey, hdelimiter]
  simp [hvalue]

end

/-! ## All passes over a member -/

/-- The passes for the keys. -/
def scrubKeys (keys : List String) (t : Text) : Text :=
  keys.foldl (fun scrubbed key => scrubAssignmentForms scrubbed key.toList) t

theorem isOpen_scrubKeys {found : Text} (hfound : ']' ∉ found) {keys : List String}
    (hkeys : ∀ key ∈ keys, key ∈ sensitiveKeys) {pre : Text} (h : isOpen found pre = false) :
    isOpen found (scrubKeys keys pre) = false := by
  induction keys generalizing pre with
  | nil => exact h
  | cons key keys ih =>
    obtain ⟨hne, -⟩ := sensitiveKeys_plain key (hkeys key List.mem_cons_self)
    exact ih (fun k hk => hkeys k (List.mem_cons_of_mem key hk))
      (isOpen_patched hfound (scrub_patched hne pre) h)

/-- Passes for other keys keep the start of the member. -/
theorem scrubKeys_member {name : Text} (hname : ∀ t, assignmentDelimiter (name ++ t) = none)
    {keys : List String} (hkeys : ∀ key ∈ keys, key ∈ sensitiveKeys ∧ ¬ key.toList <:+: lower name)
    {pre rest : Text} (hopen : ∀ key ∈ keys, isOpen key.toList pre = false) :
    scrubKeys keys (openMember pre name rest) =
      openMember (scrubKeys keys pre) name (scrubKeys keys rest) := by
  induction keys generalizing pre rest with
  | nil => rfl
  | cons key keys ih =>
    obtain ⟨hkey, hother⟩ := hkeys key List.mem_cons_self
    obtain ⟨hne, hquote, hcolon, -⟩ := sensitiveKeys_plain key hkey
    have hstep := @scrub_member _ _ hne hquote _ rest hcolon hother hname
      (hopen key List.mem_cons_self)
    have hopen' : ∀ k ∈ keys, isOpen k.toList (scrubAssignmentForms pre key.toList) = false := by
      intro k hk
      have hk' := List.mem_cons_of_mem key hk
      obtain ⟨-, -, -, hclose, -⟩ := sensitiveKeys_plain k (hkeys k hk').1
      exact isOpen_patched hclose (scrub_patched hne pre) (hopen k hk')
    have hrest := @ih (fun k hk => hkeys k (List.mem_cons_of_mem key hk))
      (scrubAssignmentForms pre key.toList) (scrubAssignmentForms rest key.toList) hopen'
    calc scrubKeys (key :: keys) (openMember pre name rest)
        = scrubKeys keys (scrubAssignmentForms (openMember pre name rest) key.toList) := rfl
      _ = openMember (scrubKeys (key :: keys) pre) name (scrubKeys (key :: keys) rest) := by
        rw [hstep, hrest]
        rfl

/-- What is left of a literal, and of what follows it, where the pass for the member's key takes its
value to end: the passes for the keys that are looked for earlier have come before. -/
def leftOver (name rest : Text) : Text :=
  (scrubKeys (keysBefore name) rest).dropWhile fun c => !isValueEnd c

/-- **All passes show of a literal what is left behind its value**, and nothing else. -/
theorem scrubSensitiveAssignments_member {pre name : Text} (hname : isSensitiveName name = true)
    (hopen : ∀ key ∈ keysBefore name ++ (keyWithin name).toList, isOpen key.toList pre = false) :
    ∃ shown : Text → Text, ∀ rest,
      scrubSensitiveAssignments (openMember pre name rest) = shown (leftOver name rest) := by
  obtain ⟨found, hfound, hwithin, ⟨after, hkeys⟩, front, last, hsplit, hlast, hfront⟩ :=
    exists_keyWithin hname
  obtain ⟨hne, hquote, -, hclose, -⟩ := sensitiveKeys_plain found hfound
  have hdelimiter := assignmentDelimiter_of_isSensitiveName hname
  have hbefore : ∀ key ∈ keysBefore name, key ∈ sensitiveKeys := fun key hkey =>
    mem_sensitiveKeys (List.mem_append_left _ hkey)
  have hopenFound : isOpen found.toList (scrubKeys (keysBefore name) pre) = false :=
    isOpen_scrubKeys hclose hbefore (hopen found (by simp [hwithin]))
  refine ⟨fun left => scrubKeys after (scrubAssignmentForms (scrubKeys (keysBefore name) pre)
    found.toList ++ '"' :: (name ++ '"' :: ':' :: redacted ++
      scrubAssignmentForms left found.toList)), fun rest => ?_⟩
  have hmember : scrubKeys (keysBefore name) (openMember pre name rest) =
      openMember (scrubKeys (keysBefore name) pre) name (scrubKeys (keysBefore name) rest) :=
    scrubKeys_member hdelimiter
      (fun key hkey => ⟨hbefore key hkey, not_infix_of_mem_keysBefore hkey⟩)
      (fun key hkey => hopen key (List.mem_append_left _ hkey))
  calc scrubSensitiveAssignments (openMember pre name rest)
      = scrubKeys (keysBefore name ++ found :: after) (openMember pre name rest) := by
        rw [← hkeys]
        rfl
    _ = scrubKeys after (scrubAssignmentForms
          (scrubKeys (keysBefore name) (openMember pre name rest)) found.toList) := by
        simp [scrubKeys]
    _ = _ := by
        rw [hmember, scrub_member_value hne hquote hsplit hlast hfront hdelimiter hopenFound]
        rfl

/-! ## The first pass over a member -/

/-- Whether the word in which the literal starts is redacted. -/
def redactsWord (pre name rest : Text) : Bool :=
  redactAfter false (wordsBefore pre) ||
    containsText "sk-".toList (lower (openMember (wordAtEnd pre) name (wordAtStart rest)))

/-- The wrappers at the end of the word in which the literal starts. -/
def endWrappers (rest : Text) : Text := ('"' :: wordAtStart rest).rtakeWhile isTrailingSecretWrapper

/-- **The first pass around the start of a member.** -/
theorem scrubBearerAndSkTokens_member (pre rest : Text) {name : Text}
    (hname : isSensitiveName name = true) :
    let scrubbed := scrubWord (redactAfter false (wordsBefore pre))
      (openMember (wordAtEnd pre) name (wordAtStart rest))
    scrubBearerAndSkTokens (openMember pre name rest) =
      spacedBefore (scrubWords false (wordsBefore pre)) ++
        (scrubbed.1 ++ spacedAfter (scrubWords scrubbed.2 (wordsAfter rest))) := by
  have hopened : ∀ pre rest : Text,
      openMember pre name rest = pre ++ (openMember [] name [] ++ rest) := by
    simp [openMember]
  have hword : ∀ c ∈ openMember [] name [], isUnicodeWhitespace c = false := by
    intro c hc
    simp only [openMember, List.nil_append, List.mem_cons, List.mem_append, List.not_mem_nil,
      or_false] at hc
    rcases hc with rfl | hc | rfl | rfl | rfl
    · decide
    · exact not_whitespace_of_isSensitiveName hname c hc
    · decide
    · decide
    · decide
  rw [hopened pre, hopened (wordAtEnd pre)]
  exact scrubBearerAndSkTokens_around pre rest (by simp [openMember]) hword

theorem findBearerMarker_of_isSensitiveName {name : Text} (h : isSensitiveName name = true) :
    findBearerMarker name = none := by
  obtain ⟨key, hkey, hname⟩ := List.any_eq_true.mp h
  have hname : lower name = key.toList := of_decide_eq_true hname
  have hkeys : ∀ key ∈ sensitiveKeys, ¬ "bearer".toList <:+: key.toList := by decide
  refine findBearerMarkerFrom_eq_none ?_ none
  rw [hname]
  exact hkeys key hkey

/-- The first word of a literal, with a bearer marker before the member in the same word or not: the
text for it, and whether the next word is to be redacted. -/
def scrubLiteralWord (marked : Bool) (word : Text) : Text × Bool :=
  if marked then (word, true) else (scrubBearerToken word).getD (word, false)

/-- A word that is not redacted keeps the start of the member. -/
theorem scrubBearerToken_member {front name : Text} (hname : isSensitiveName name = true)
    (hassigns : assignsBearer front = false) (word : Text) :
    let scrubbed := scrubLiteralWord (findBearerMarker front).isSome word
    (scrubBearerToken (openMember front name word)).getD (openMember front name word, false) =
      (openMember front name scrubbed.1, scrubbed.2) := by
  unfold scrubLiteralWord openMember
  dsimp only
  cases hfront : findBearerMarker front with
  | some markerStart =>
    rw [scrubBearerToken_next hfront hassigns]
    rfl
  | none =>
    have hcolon : findBearerMarker [':'] = none := by decide
    rw [scrubBearerToken_append_quote hfront,
      scrubBearerToken_append_quote (findBearerMarker_of_isSensitiveName hname),
      ← List.singleton_append (x := ':'), scrubBearerToken_append_quote hcolon]
    cases scrubBearerToken word with
    | none => rfl
    | some scrubbed => rfl

/-- **A redacted word** shows the wrappers at its ends only. -/
theorem redactWrapped_member (front name word : Text) :
    redactWrappedSecretToken (openMember front name word) =
      (front ++ '"' :: (name ++ ['"'])).takeWhile isLeadingSecretWrapper ++ redacted ++
        ('"' :: word).rtakeWhile isTrailingSecretWrapper := by
  rw [← redactWrapped_colon]
  simp [openMember]

/-! ## Contents that are hidden -/

/-- Whether an assignment is open where the member starts, for its key or one looked for earlier. -/
def isOpenBefore (pre name : Text) : Bool :=
  (keysBefore name ++ (keyWithin name).toList).any fun key =>
    isOpen key.toList (spacedBefore (wordsBefore pre) ++ wordAtEnd pre)

/-- What the first pass makes of a literal and of what follows it, where it keeps the word in which the
literal starts. -/
def scrubLiteral (pre rest : Text) : Text :=
  let scrubbed := scrubLiteralWord (findBearerMarker (wordAtEnd pre)).isSome (wordAtStart rest)
  scrubbed.1 ++ spacedAfter (scrubWords scrubbed.2 (wordsAfter rest))

/-- Two literals, each with what follows it, that are hidden alike.  Either the first pass redacts the word
in which the literal starts, for both, the words end in the same wrappers and the words behind them are
left alike; or it redacts neither, no assignment is open where the member starts, and the literals are
alike from where the pass for the member's key takes its value to end. -/
def literalsAlike (pre name rest rest' : Text) : Bool :=
  redactsWord pre name rest == redactsWord pre name rest' &&
    if redactsWord pre name rest || assignsBearer (wordAtEnd pre) then
      endWrappers rest == endWrappers rest' &&
        scrubWords false (wordsAfter rest) == scrubWords false (wordsAfter rest')
    else !isOpenBefore pre name &&
      leftOver name (scrubLiteral pre rest) == leftOver name (scrubLiteral pre rest')

/-- Two contents of a member that are the same, or hidden alike. -/
def hiddenAlike (pre name post contents contents' : Text) : Bool :=
  contents == contents' || literalsAlike pre name (contents ++ '"' :: post) (contents' ++ '"' :: post)

section

variable {pre name rest rest' : Text}

/-- The word in which the literal starts, scrubbed. -/
def scrubMemberWord (pre name rest : Text) : Text × Bool :=
  scrubWord (redactAfter false (wordsBefore pre))
    (openMember (wordAtEnd pre) name (wordAtStart rest))

theorem scrubMemberWord_of_redactsWord (h : redactsWord pre name rest = true) :
    scrubMemberWord pre name rest =
      (redactWrappedSecretToken (openMember (wordAtEnd pre) name (wordAtStart rest)), false) :=
  if_pos h

theorem scrubMemberWord_of_not_redactsWord (h : redactsWord pre name rest = false) :
    scrubMemberWord pre name rest =
      (scrubBearerToken (openMember (wordAtEnd pre) name (wordAtStart rest))).getD
        (openMember (wordAtEnd pre) name (wordAtStart rest), false) := by
  have hafter : redactAfter false (wordsBefore pre) = false := (Bool.or_eq_false_iff.mp h).1
  rw [scrubMemberWord, scrubWord, if_neg (Bool.not_eq_true _ ▸ h), hafter]

/-- A redacted word does not depend on the literal, but for its end. -/
theorem scrubMemberWord_redacted
    (hword : redactsWord pre name rest = redactsWord pre name rest')
    (hredacted : (redactsWord pre name rest || assignsBearer (wordAtEnd pre)) = true)
    (hend : endWrappers rest = endWrappers rest') :
    scrubMemberWord pre name rest = scrubMemberWord pre name rest' ∧
      (scrubMemberWord pre name rest).2 = false := by
  unfold endWrappers at hend
  cases hcase : redactsWord pre name rest with
  | true =>
    rw [scrubMemberWord_of_redactsWord hcase, scrubMemberWord_of_redactsWord (hword ▸ hcase),
      redactWrapped_member, redactWrapped_member, hend]
    exact ⟨rfl, rfl⟩
  | false =>
    rw [hcase, Bool.false_or] at hredacted
    obtain ⟨front, secret, hassigns⟩ := scrubBearerToken_assigns hredacted
    have hbearer : ∀ word, scrubBearerToken (openMember (wordAtEnd pre) name word) =
        some (front ++ redactWrappedSecretToken (openMember secret name word), false) := fun word =>
      hassigns _
    rw [scrubMemberWord_of_not_redactsWord hcase,
      scrubMemberWord_of_not_redactsWord (hword ▸ hcase), hbearer, hbearer, redactWrapped_member,
      redactWrapped_member, hend]
    exact ⟨rfl, rfl⟩

/-- **A member that is not redacted** stays a member. -/
theorem scrubBearerAndSkTokens_kept (hname : isSensitiveName name = true)
    (hassigns : assignsBearer (wordAtEnd pre) = false) (hword : redactsWord pre name rest = false) :
    scrubBearerAndSkTokens (openMember pre name rest) =
      openMember (spacedBefore (scrubWords false (wordsBefore pre)) ++ wordAtEnd pre) name
        (scrubLiteral pre rest) := by
  have hfirst := scrubBearerAndSkTokens_member pre rest hname
  have hscrubbed := (scrubMemberWord_of_not_redactsWord hword).trans
    (scrubBearerToken_member hname hassigns (wordAtStart rest))
  unfold scrubMemberWord at hscrubbed
  dsimp only at hfirst
  rw [hfirst, hscrubbed]
  simp [openMember, scrubLiteral]

/-- **Literals that are hidden alike** are scrubbed alike. -/
theorem scrubText_literalsAlike (hname : isSensitiveName name = true)
    (halike : literalsAlike pre name rest rest' = true) :
    scrubText (openMember pre name rest) = scrubText (openMember pre name rest') := by
  unfold literalsAlike at halike
  obtain ⟨hword, hcase⟩ := Bool.and_eq_true_iff.mp halike
  have hword := eq_of_beq hword
  unfold scrubText
  split at hcase
  next hredacted =>
    obtain ⟨hend, hafter⟩ := Bool.and_eq_true_iff.mp hcase
    have hfirst := scrubBearerAndSkTokens_member pre rest hname
    have hfirst' := scrubBearerAndSkTokens_member pre rest' hname
    obtain ⟨hsame, hnext⟩ := scrubMemberWord_redacted hword hredacted (eq_of_beq hend)
    unfold scrubMemberWord at hsame hnext
    dsimp only at hfirst hfirst'
    rw [hfirst, hfirst', ← hsame, hnext, eq_of_beq hafter]
  next hkept =>
    obtain ⟨hnot, hassigns⟩ := Bool.or_eq_false_iff.mp (Bool.not_eq_true _ ▸ hkept)
    obtain ⟨hopen, hleft⟩ := Bool.and_eq_true_iff.mp hcase
    have hopen' : ∀ key ∈ keysBefore name ++ (keyWithin name).toList,
        isOpen key.toList (spacedBefore (scrubWords false (wordsBefore pre)) ++ wordAtEnd pre) =
          false := by
      intro key hkey
      obtain ⟨-, -, -, hclose, -⟩ := sensitiveKeys_plain key (mem_sensitiveKeys hkey)
      refine isOpen_patched hclose ((spacedBefore_patched false _).append (.refl _)) ?_
      exact Bool.not_eq_true _ ▸ List.any_eq_false.mp (Bool.not_eq_true' _ ▸ hopen) key hkey
    obtain ⟨shown, hshown⟩ := scrubSensitiveAssignments_member hname hopen'
    rw [scrubBearerAndSkTokens_kept hname hassigns hnot,
      scrubBearerAndSkTokens_kept hname hassigns (hword ▸ hnot), hshown, hshown, eq_of_beq hleft]

end

example : hiddenAlike "\x7b".toList "password".toList "\x7d".toList "a.bearer".toList "b.bearer".toList =
    true := by decide

example : hiddenAlike "\x7b".toList "password".toList "\x7d".toList "token:a".toList "token:b".toList =
    true := by decide

end LlmGuardProxy.Evidence
