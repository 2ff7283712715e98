import LlmGuardProxy.Machinery.JsonText

/-!
# Shielded/Hint — the hint that a retry gives the model

A retry after a loop carries a hint in the system message at the front of its messages.  A leading
system message is given the hint at the end of its content, otherwise a new one is put in front.

* `HintReaches` — the hint is in the first message, and nothing else has changed.
* `hintedMessages_insert`, `hintedMessages_merge` — the two ways of giving a hint.
* `retry_hint_reaches_iff` — the hint is lost exactly when the leading system message has no
  `content` member.
-/

namespace LlmGuardProxy

open Machinery

/-! ## Members changed in place -/

/-- The value under a key, changed in place through `Map::get_mut`. -/
def modifyMember (key : String) (f : Json → Json) (members : Json.Members) : Json.Members :=
  members.map fun member => if member.1 = key then (member.1, f member.2) else member

theorem lookup_modifyMember (key : String) (f : Json → Json) (members : Json.Members)
    (other : String) : (modifyMember key f members).lookup other =
      if other = key then (members.lookup other).map f else members.lookup other := by
  induction members with
  | nil => rw [modifyMember, List.map_nil, List.lookup_nil, Option.map_none, ite_self]
  | cons member members ih =>
    obtain ⟨name, value⟩ := member
    have hcons : modifyMember key f ((name, value) :: members) =
        (name, if name = key then f value else value) :: modifyMember key f members := by
      rw [modifyMember, List.map_cons, ← modifyMember]
      split <;> rfl
    rw [hcons]
    by_cases hother : other = name
    · subst hother
      rw [List.lookup_cons_self, List.lookup_cons_self]
      split <;> rfl
    · rw [List.lookup_cons, List.lookup_cons, beq_eq_false_iff_ne.mpr hother]
      exact ih

/-! ## The hints -/

/-- `anti_loop_retry_hint`. -/
def antiLoopRetryHint (attemptNumber maxAttempts : ℕ) : String :=
  "llm-guard-proxy retry hint: a prior shielded upstream attempt was aborted by loop protection. " ++
    "Avoid repeating the same output pattern and provide a concise fresh answer. retry_attempt=" ++
    toString attemptNumber ++ "/" ++ toString maxAttempts ++ "."

/-- `cot_salvage_retry_hint`. -/
def cotSalvageRetryHint (attemptNumber maxAttempts : ℕ) (policy reasoningPrefix : String)
    (configuredHint : Option String) : String :=
  let operatorHint := configuredHint.getD
    ("Use the private notes only to preserve useful intermediate work. Do not quote, reveal, or " ++
      "continue the notes. Answer the original user request directly.")
  "llm-guard-proxy CoT salvage retry hint: a prior shielded upstream attempt was aborted by " ++
    "reasoning-loop protection. policy=" ++ policy ++ " retry_attempt=" ++
    toString attemptNumber ++ "/" ++ toString maxAttempts ++ ".\n\n" ++ operatorHint ++
    "\n\nPrivate bounded pre-loop reasoning notes:\n" ++ reasoningPrefix

/-! ## Giving a hint -/

/-- The text part that is appended to a content of several parts. -/
def hintPart (hint : String) : Json :=
  .obj (Json.Members.ofEntries [("type", .str "text"), ("text", .str hint)])

/-- The content of a system message with the hint. -/
def hintedContent (hint : String) : Json → Json
  | .str existing => .str ((if existing ≠ "" then existing ++ "\n\n" else existing) ++ hint)
  | .arr parts => .arr (parts ++ [hintPart hint])
  | _ => .str hint

/-- `merge_hint_into_existing_system_message`. -/
def mergeHintIntoExistingSystemMessage (hint : String) : Json → Json
  | .obj members =>
      match Json.Members.get members "content" with
      | none => .obj members
      | some _ => .obj (modifyMember "content" (hintedContent hint) members)
  | systemMessage => systemMessage

/-- The first message is a system message. -/
def leadsWithSystem (messages : List Json) : Bool :=
  ((messages.head?.bind (·.get "role")).bind Json.asStr).any (· = "system")

/-- The system message that is put in front. -/
def hintMessage (hint : String) : Json :=
  .obj (Json.Members.ofEntries [("role", .str "system"), ("content", .str hint)])

/-- The messages with the hint. -/
def hintedMessages (hint : String) (messages : List Json) : List Json :=
  if leadsWithSystem messages then
    match messages with
    | [] => []
    | first :: others => mergeHintIntoExistingSystemMessage hint first :: others
  else hintMessage hint :: messages

/-- The request with the hint, when it is an object with messages. -/
def bodyWithHint (codec : JsonCodec) (body : Bytes) (hint : String) : Option Bytes := do
  let value ← codec.fromSlice body
  let object ← value.asObject
  let messages ← (object.get "messages").bind Json.asArray
  some (codec.toText
    (.obj (modifyMember "messages" (fun _ => .arr (hintedMessages hint messages)) object)))

/-- `body_with_anti_loop_retry_hint`. -/
def bodyWithAntiLoopRetryHint (codec : JsonCodec) (body : Bytes) (attemptNumber maxAttempts : ℕ)
    (configuredHint : Option String) : Option Bytes :=
  bodyWithHint codec body (configuredHint.getD (antiLoopRetryHint attemptNumber maxAttempts))

/-- `body_with_cot_salvage_retry_hint`. -/
def bodyWithCotSalvageRetryHint (codec : JsonCodec) (body : Bytes) (attemptNumber maxAttempts : ℕ)
    (policy reasoningPrefix : String) (configuredHint : Option String) : Option Bytes :=
  bodyWithHint codec body
    (cotSalvageRetryHint attemptNumber maxAttempts policy reasoningPrefix configuredHint)

/-! ## What is asked of a hint -/

/-- The content is a text that ends with the hint, or its last part is such a text. -/
def EndsWithHint (hint : String) : Json → Prop
  | .str text => hint.toList <:+ text.toList
  | .arr parts => ∃ front part text, parts = front ++ [part] ∧
      part.get "type" = some (.str "text") ∧ part.get "text" = some (.str text) ∧
      hint.toList <:+ text.toList
  | _ => False

/-- A text content is kept at the start: a text, or the parts. -/
def KeptAtStart : Json → Json → Prop
  | .str before, after => ∃ text, after = .str text ∧ before.toList <+: text.toList
  | .arr before, after => ∃ parts, after = .arr parts ∧ before <+: parts
  | _, _ => True

/-- The leading message with the hint: its content has grown, its other members are as they were. -/
structure MergedHint (lead first : Json) : Prop where
  content : ∀ before after, lead.get "content" = some before → first.get "content" = some after →
    KeptAtStart before after
  others : ∀ key, key ≠ "content" → first.get key = lead.get key

/-- **The hint reaches the model** and nothing else has changed, in the request that is sent for an
object with these messages. -/
structure HintReaches (hint : String) (object : Json.Members) (messages : List Json) (sent : Json) :
    Prop where
  first : ∃ first others content, sent.get "messages" = some (.arr (first :: others)) ∧
    first.get "role" = some (.str "system") ∧ first.get "content" = some content ∧
    EndsWithHint hint content ∧
    if leadsWithSystem messages then ∃ lead, messages = lead :: others ∧ MergedHint lead first
    else others = messages
  others : ∀ key, key ≠ "messages" → sent.get key = object.lookup key

/-! ## When it reaches the model -/

/-- A system message is an object with that role. -/
theorem leadsWithSystem_cons {first : Json} {others : List Json} :
    leadsWithSystem (first :: others) = true ↔ first.get "role" = some (.str "system") := by
  unfold leadsWithSystem
  rw [List.head?_cons, Option.bind_some]
  cases first.get "role" with
  | none => simp
  | some role => cases role <;> simp [Json.asStr]

/-- The members of a small object. -/
theorem get_ofEntries_pair {name other : String} (value value' : Json) (h : name ≠ other) :
    (Json.obj (Json.Members.ofEntries [(name, value), (other, value')])).get name = some value ∧
      (Json.obj (Json.Members.ofEntries [(name, value), (other, value')])).get other =
        some value' := by
  simp [Json.get, Json.Members.get, Json.Members.ofEntries, extendSorted, lookup_insertSorted, h]

/-- A content that is given a hint ends with it. -/
theorem endsWithHint_hintedContent (hint : String) (content : Json) :
    EndsWithHint hint (hintedContent hint content) := by
  cases content with
  | str existing =>
    rw [hintedContent, EndsWithHint, String.toList_append]
    exact List.suffix_append _ _
  | arr parts =>
    obtain ⟨htype, htext⟩ := get_ofEntries_pair (.str "text") (.str hint) (by decide : "type" ≠ "text")
    exact ⟨parts, hintPart hint, hint, rfl, htype, htext, List.suffix_rfl⟩
  | null => exact List.suffix_rfl
  | bool b => exact List.suffix_rfl
  | num n => exact List.suffix_rfl
  | obj members => exact List.suffix_rfl

/-- What was in a content stays in front of the hint. -/
theorem keptAtStart_hintedContent (hint : String) (content : Json) :
    KeptAtStart content (hintedContent hint content) := by
  cases content with
  | str existing =>
    refine ⟨_, rfl, ?_⟩
    rw [String.toList_append]
    split
    · rw [String.toList_append, List.append_assoc]
      exact List.prefix_append _ _
    · exact List.prefix_append _ _
  | arr parts => exact ⟨_, rfl, List.prefix_append _ _⟩
  | null => trivial
  | bool b => trivial
  | num n => trivial
  | obj members => trivial

/-- **A system message with content** gets the hint at the end of it. -/
theorem mergeHint_of_content (hint : String) {lead content : Json}
    (h : lead.get "content" = some content) :
    let first := mergeHintIntoExistingSystemMessage hint lead
    first.get "content" = some (hintedContent hint content) ∧
      ∀ key, key ≠ "content" → first.get key = lead.get key := by
  intro first
  cases lead with
  | obj members =>
    have hget : Json.Members.get members "content" = some content := h
    have hfirst : first = .obj (modifyMember "content" (hintedContent hint) members) := by
      simp only [first]
      rw [mergeHintIntoExistingSystemMessage, hget]
    rw [hfirst]
    refine ⟨?_, fun key hkey => ?_⟩
    · rw [Json.get, Json.Members.get, lookup_modifyMember, if_pos rfl]
      exact congrArg (Option.map (hintedContent hint)) hget
    · rw [Json.get, Json.Members.get, lookup_modifyMember, if_neg hkey]
      rfl
  | null => cases h
  | bool b => cases h
  | num n => cases h
  | str s => cases h
  | arr items => cases h

/-- **A system message without content** stays as it is. -/
theorem mergeHint_of_no_content {hint : String} {lead : Json} (h : lead.get "content" = none) :
    mergeHintIntoExistingSystemMessage hint lead = lead := by
  cases lead with
  | obj members =>
    have hget : Json.Members.get members "content" = none := h
    rw [mergeHintIntoExistingSystemMessage, hget]
  | null => rfl
  | bool b => rfl
  | num n => rfl
  | str s => rfl
  | arr items => rfl

/-- Without a leading system message, one is put in front. -/
theorem hintedMessages_insert (hint : String) {messages : List Json}
    (h : leadsWithSystem messages = false) :
    hintedMessages hint messages = hintMessage hint :: messages := by
  unfold hintedMessages
  rw [h]
  rfl

/-- A leading system message is merged with the hint. -/
theorem hintedMessages_merge (hint : String) {lead : Json} {others : List Json}
    (h : lead.get "role" = some (.str "system")) :
    hintedMessages hint (lead :: others) =
      mergeHintIntoExistingSystemMessage hint lead :: others := by
  rw [hintedMessages, if_pos (leadsWithSystem_cons.mpr h)]

/-- The value that is sent. -/
theorem bodyWithHint_eq {codec : JsonCodec} {body : Bytes} (hint : String) {object : Json.Members}
    {messages : List Json} (hparse : codec.fromSlice body = some (.obj object))
    (hmessages : object.lookup "messages" = some (.arr messages)) :
    ∃ sent : Json, bodyWithHint codec body hint = some (codec.toText sent) ∧
      sent.get "messages" = some (.arr (hintedMessages hint messages)) ∧
      ∀ key, key ≠ "messages" → sent.get key = object.lookup key := by
  refine ⟨.obj (modifyMember "messages" (fun _ => .arr (hintedMessages hint messages)) object),
    ?_, ?_, fun key hkey => ?_⟩
  · simp [bodyWithHint, hparse, Json.asObject, Json.Members.get, hmessages, Json.asArray]
  · rw [Json.get, Json.Members.get, lookup_modifyMember, if_pos rfl, hmessages]
    rfl
  · rw [Json.get, Json.Members.get, lookup_modifyMember, if_neg hkey]

/-- **Exactly when a hint reaches the model**, whatever it says. -/
theorem hintReaches_iff {hint : String} {object : Json.Members} {messages : List Json} {sent : Json}
    (hsent : sent.get "messages" = some (.arr (hintedMessages hint messages)))
    (hothers : ∀ key, key ≠ "messages" → sent.get key = object.lookup key) :
    HintReaches hint object messages sent ↔
      ¬ ∃ lead others, messages = lead :: others ∧ lead.get "role" = some (.str "system") ∧
        lead.get "content" = none := by
  constructor
  · rintro ⟨⟨first, others, content, hfirst, -, hcontent, -, -⟩, -⟩ ⟨lead, rest, rfl, hrole, hnone⟩
    have hmessages := Option.some.inj (hfirst.symm.trans hsent)
    rw [hintedMessages_merge hint hrole] at hmessages
    obtain ⟨rfl, -⟩ := List.cons.inj (Json.arr.inj hmessages)
    rw [mergeHint_of_no_content hnone, hnone] at hcontent
    cases hcontent
  · intro hkept
    refine ⟨?_, hothers⟩
    cases hlead : leadsWithSystem messages with
    | false =>
      rw [hintedMessages_insert hint hlead] at hsent
      obtain ⟨hrole, hcontent⟩ :=
        get_ofEntries_pair (.str "system") (.str hint) (by decide : "role" ≠ "content")
      exact ⟨hintMessage hint, messages, .str hint, hsent, hrole, hcontent, List.suffix_rfl, rfl⟩
    | true =>
      cases messages with
      | nil => cases hlead
      | cons lead others =>
        have hrole := leadsWithSystem_cons.mp hlead
        rw [hintedMessages_merge hint hrole] at hsent
        cases hcontent : lead.get "content" with
        | none => exact absurd ⟨lead, others, rfl, hrole, hcontent⟩ hkept
        | some content =>
          obtain ⟨hfirst, hrest⟩ := mergeHint_of_content hint hcontent
          refine ⟨_, others, _, hsent, ?_, hfirst, endsWithHint_hintedContent hint content, lead, rfl,
            fun before after hbefore hafter => ?_, hrest⟩
          · rw [hrest "role" (by decide), hrole]
          · obtain rfl := Option.some.inj (hcontent.symm.trans hbefore)
            obtain rfl := Option.some.inj (hfirst.symm.trans hafter)
            exact keptAtStart_hintedContent hint content

/-- **A retry hint reaches the model**, in both kinds of retries and for all messages, exactly when
the first message is not a system message without a `content` member. -/
theorem retry_hint_reaches_iff (codec : JsonCodec) (body : Bytes) (object : Json.Members)
    (messages : List Json) (attemptNumber maxAttempts : ℕ) (policy reasoning : String)
    (configuredHint : Option String) (hparse : codec.fromSlice body = some (.obj object))
    (hmessages : object.lookup "messages" = some (.arr messages)) :
    let lost := ∃ lead others, messages = lead :: others ∧
      lead.get "role" = some (.str "system") ∧ lead.get "content" = none
    (∃ sent, bodyWithAntiLoopRetryHint codec body attemptNumber maxAttempts configuredHint =
        some (codec.toText sent) ∧
      (HintReaches (configuredHint.getD (antiLoopRetryHint attemptNumber maxAttempts)) object
        messages sent ↔ ¬ lost)) ∧
    ∃ sent, bodyWithCotSalvageRetryHint codec body attemptNumber maxAttempts policy reasoning
        configuredHint = some (codec.toText sent) ∧
      (HintReaches (cotSalvageRetryHint attemptNumber maxAttempts policy reasoning configuredHint)
        object messages sent ↔ ¬ lost) := by
  intro lost
  constructor
  · obtain ⟨sent, hbody, hsent, hothers⟩ := bodyWithHint_eq
      (configuredHint.getD (antiLoopRetryHint attemptNumber maxAttempts)) hparse hmessages
    exact ⟨sent, hbody, hintReaches_iff hsent hothers⟩
  · obtain ⟨sent, hbody, hsent, hothers⟩ := bodyWithHint_eq
      (cotSalvageRetryHint attemptNumber maxAttempts policy reasoning configuredHint)
      hparse hmessages
    exact ⟨sent, hbody, hintReaches_iff hsent hothers⟩

/-- A codec that prints values without numbers, and reads one of them. -/
def oneValueCodec (value : Json) : JsonCodec where
  fromSlice body := if body = printJson (fun _ => []) value then some value else none
  toText := printJson fun _ => []

theorem oneValueCodec_reads (value : Json) :
    (oneValueCodec value).fromSlice ((oneValueCodec value).toText value) = some value := if_pos rfl

/-- A short conversation with a system message. -/
def briefMessages : List Json :=
  [.obj [("content", .str "Be brief."), ("role", .str "system")],
    .obj [("content", .str "Hi"), ("role", .str "user")]]

/-- A system message with a text gets the hint behind it. -/
theorem retry_hint_reaches_iff_brief :
    let object : Json.Members := [("messages", .arr briefMessages)]
    let codec := oneValueCodec (.obj object)
    ∃ sent, bodyWithAntiLoopRetryHint codec (codec.toText (.obj object)) 2 3 (some "Stop.") =
        some (codec.toText sent) ∧ HintReaches "Stop." object briefMessages sent := by
  intro object codec
  obtain ⟨⟨sent, hbody, hreaches⟩, -⟩ := retry_hint_reaches_iff codec (codec.toText (.obj object))
    object briefMessages 2 3 "" "" (some "Stop.") (oneValueCodec_reads _) rfl
  refine ⟨sent, hbody, hreaches.mpr ?_⟩
  rintro ⟨lead, others, hlead, -, hnone⟩
  obtain ⟨rfl, -⟩ := List.cons.inj hlead
  cases hnone

/-- **A hint that is lost.**  A system message with a role only is sent as it came. -/
theorem retry_hint_lost :
    ¬ ∀ (codec : JsonCodec) (body : Bytes) (object : Json.Members) (messages : List Json),
      codec.fromSlice body = some (.obj object) →
      object.lookup "messages" = some (.arr messages) →
      ∃ out sent, bodyWithAntiLoopRetryHint codec body 2 3 none = some out ∧
        codec.fromSlice out = some sent ∧
        HintReaches (antiLoopRetryHint 2 3) object messages sent := by
  intro hall
  let messages : List Json := [.obj [("role", .str "system")]]
  let object : Json.Members := [("messages", .arr messages)]
  let codec := oneValueCodec (.obj object)
  obtain ⟨out, sent, hout, hread, hreaches⟩ := hall codec (codec.toText (.obj object)) object
    messages (oneValueCodec_reads _) rfl
  have hsame : bodyWithAntiLoopRetryHint codec (codec.toText (.obj object)) 2 3 none =
      some (codec.toText (.obj object)) := by
    simp [bodyWithAntiLoopRetryHint, bodyWithHint, codec, oneValueCodec_reads, object, messages,
      Json.asObject, Json.Members.get, Json.asArray, modifyMember, hintedMessages, leadsWithSystem,
      Json.get, Json.asStr, mergeHintIntoExistingSystemMessage, List.lookup]
  obtain rfl := Option.some.inj (hout.symm.trans hsame)
  obtain rfl := Option.some.inj (hread.symm.trans (oneValueCodec_reads _))
  obtain ⟨⟨first, others, content, hfirst, -, hcontent, -⟩, -⟩ := hreaches
  obtain ⟨rfl, -⟩ := List.cons.inj (Json.arr.inj (Option.some.inj hfirst))
  cases hcontent

end LlmGuardProxy
