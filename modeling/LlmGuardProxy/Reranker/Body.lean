import LlmGuardProxy.Machinery.Fallible
import LlmGuardProxy.Machinery.JsonText

/-!
# Reranker/Body — the bodies that are rendered for DeepInfra

A rerank request is rendered for a DeepInfra endpoint with its query repeated once for each document.
Before that the size of the body is estimated: six bytes for each byte of a text, and a fixed amount
for everything else.

* `length_deepInfraBody` — how long the rendered body is.
* `deepInfraBody_fits_iff` — when a body that passed the estimate keeps to the limit.
-/

namespace LlmGuardProxy

open Machinery

/-! ## Rerank requests -/

/-- What a reranker request is refused with: `ProxyError::ContextBudgetExceeded`. -/
structure RerankerError where
  message : String
  param : String
  code : String
  deriving DecidableEq

/-- `invalid_request_error`. -/
def invalidRequestError (message : String) : RerankerError :=
  ⟨"invalid reranker request for selected endpoint: " ++ message, "body",
    "invalid_reranker_endpoint_request"⟩

/-- `OpenAiRerankInput`. -/
structure OpenAiRerankInput where
  model : Option String
  query : String
  documents : List String
  topN : Nat
  returnDocuments : Bool
  deriving DecidableEq

/-- `MAX_PAIR_COUNT`. -/
def maxPairCount : Nat := 1024

/-- `MAX_DEEPINFRA_RENDERED_BODY_BYTES`. -/
def maxDeepInfraRenderedBodyBytes : Nat := 1048576

/-- `DEFAULT_INSTRUCTION`. -/
def defaultInstruction : String :=
  "Given a web search query, retrieve relevant passages that answer the query"

/-! ## The estimate -/

/-- The texts of an estimate that does not fit into 64 bits. -/
def checkedSize (size : Nat) (overflow : String) : Except RerankerError Nat :=
  if size < 2 ^ 64 then .ok size else .error (invalidRequestError overflow)

/-- The loop over the documents. -/
def checkedDocuments : List String → Nat → Except RerankerError Nat
  | [], total => .ok total
  | document :: documents, total => do
      let escaped ← checkedSize ((utf8 document).length * 6) "DeepInfra document size overflow"
      let total ← checkedSize (total + escaped) "DeepInfra document total size overflow"
      checkedDocuments documents total

/-- `ensure_generated_body_fits`. -/
def ensureGeneratedBodyFits (input : OpenAiRerankInput) : Except RerankerError Unit := do
  let escapedQuery ← checkedSize ((utf8 input.query).length * 6) "DeepInfra query size overflow"
  let repeatedQueries ← checkedSize (escapedQuery * input.documents.length)
    "DeepInfra query repetition size overflow"
  let escapedDocuments ← checkedDocuments input.documents 0
  let instruction ← checkedSize ((utf8 defaultInstruction).length * 6)
    "DeepInfra instruction size overflow"
  let overhead ← checkedSize (256 + instruction) "DeepInfra JSON overhead overflow"
  let texts ← checkedSize (repeatedQueries + escapedDocuments) "DeepInfra rendered body size overflow"
  let upperBound ← checkedSize (texts + overhead) "DeepInfra rendered body size overflow"
  if maxDeepInfraRenderedBodyBytes < upperBound then
    .error (invalidRequestError "DeepInfra rendered body would exceed the endpoint body limit")
  else .ok ()

/-- The rendered body, in `render_deepinfra_with_authorization`. -/
def deepInfraBody (print : Json → Bytes) (input : OpenAiRerankInput) : Bytes :=
  print (.obj (Json.Members.ofEntries [
    ("queries", .arr ((List.replicate input.documents.length input.query).map .str)),
    ("documents", .arr (input.documents.map .str)),
    ("instruction", .str defaultInstruction)]))

/-! ## The size -/

/-- What the texts of a request take up when they are written out. -/
def escapedTexts (input : OpenAiRerankInput) : Nat :=
  escapedLength input.query * input.documents.length + (input.documents.map escapedLength).sum

/-- The members of a rendered body, in the order in which they are written. -/
theorem ofEntries_deepInfra (queries documents instruction : Json) :
    Json.Members.ofEntries [("queries", queries), ("documents", documents),
        ("instruction", instruction)] =
      [("documents", documents), ("instruction", instruction), ("queries", queries)] := by
  have hdocuments : "documents" < "queries" := by decide
  have hinstruction : ¬ "instruction" < "documents" := by decide
  have hqueries : "instruction" < "queries" := by decide
  simp only [Json.Members.ofEntries, extendSorted, List.foldl_cons, List.foldl_nil, insertSorted,
    if_pos hdocuments, if_neg hinstruction, if_pos hqueries, String.reduceEq, if_false]

/-- **The length of the rendered body**: the texts, and for each document two pairs of quotes and two
commas that the estimate does not count. -/
theorem length_deepInfraBody {print : Json → Bytes} (hprint : PrintsCompact print)
    (input : OpenAiRerankInput) :
    (deepInfraBody print input).length =
      escapedTexts input + 4 * input.documents.length + 2 * (input.documents.length - 1) + 120 := by
  have hbody : deepInfraBody print input =
      [0x7B] ++ (quoteText "documents" ++ [0x3A] ++
        ([0x5B] ++ printItems (fun n => print (.num n)) (input.documents.map .str) ++ [0x5D]) ++
        [0x2C] ++ (quoteText "instruction" ++ [0x3A] ++ quoteText defaultInstruction ++ [0x2C] ++
          (quoteText "queries" ++ [0x3A] ++ ([0x5B] ++ printItems (fun n => print (.num n))
            ((List.replicate input.documents.length input.query).map .str) ++ [0x5D])))) ++ [0x7D] := by
    rw [deepInfraBody, ofEntries_deepInfra, hprint]
    simp [printJson, printMembers]
  have hkeys : escapedLength "documents" = 9 ∧ escapedLength "instruction" = 11 ∧
      escapedLength "queries" = 7 ∧ escapedLength defaultInstruction = 74 := by decide
  have hqueries : ((List.replicate input.documents.length input.query).map escapedLength).sum =
      escapedLength input.query * input.documents.length := by
    rw [List.map_replicate, List.sum_replicate_nat, Nat.mul_comm]
  rw [hbody]
  simp only [List.length_append, List.length_cons, List.length_nil, length_quoteText,
    length_printItems_str, hkeys, hqueries, List.length_replicate, escapedTexts]
  omega

/-! ## What passes the estimate -/

theorem checkedSize_eq_ok {size result : Nat} {overflow : String} :
    checkedSize size overflow = .ok result ↔ size < 2 ^ 64 ∧ size = result := by
  unfold checkedSize
  split <;> simp_all

/-- A size that fits into 64 bits goes on. -/
theorem checkedSize_bind {β : Type} {size : Nat} {overflow : String}
    {next : Nat → Except RerankerError β} (h : size < 2 ^ 64) :
    (checkedSize size overflow >>= next) = next size := by
  rw [checkedSize_eq_ok.mpr ⟨h, rfl⟩]
  rfl

/-- What the estimate counts. -/
def estimatedTexts (input : OpenAiRerankInput) : Nat :=
  (utf8 input.query).length * 6 * input.documents.length +
    (input.documents.map fun document => (utf8 document).length * 6).sum

theorem checkedDocuments_eq_ok {documents : List String} {total result : Nat} :
    checkedDocuments documents total = .ok result →
      result = total + (documents.map fun document => (utf8 document).length * 6).sum := by
  induction documents generalizing total with
  | nil =>
    intro h
    cases h
    simp
  | cons document documents ih =>
    intro h
    rw [checkedDocuments] at h
    obtain ⟨escaped, hescaped, h⟩ := bind_eq_ok h
    obtain ⟨next, hnext, h⟩ := bind_eq_ok h
    obtain ⟨-, rfl⟩ := checkedSize_eq_ok.mp hescaped
    obtain ⟨-, rfl⟩ := checkedSize_eq_ok.mp hnext
    rw [ih h, List.map_cons, List.sum_cons]
    omega

/-- The loop over the documents, when their sum fits into 64 bits. -/
theorem checkedDocuments_of_lt {documents : List String} {total : Nat}
    (h : total + (documents.map fun document => (utf8 document).length * 6).sum < 2 ^ 64) :
    checkedDocuments documents total =
      .ok (total + (documents.map fun document => (utf8 document).length * 6).sum) := by
  induction documents generalizing total with
  | nil => simp [checkedDocuments]
  | cons document documents ih =>
    rw [List.map_cons, List.sum_cons] at h
    rw [checkedDocuments, checkedSize_bind (by omega), checkedSize_bind (by omega), ih (by omega),
      List.map_cons, List.sum_cons, Nat.add_assoc]

theorem length_defaultInstruction : (utf8 defaultInstruction).length = 74 := by decide

/-- **What passes the estimate** keeps six times its bytes, and 700, below the limit. -/
theorem estimated_of_ensureGeneratedBodyFits {input : OpenAiRerankInput}
    (h : ensureGeneratedBodyFits input = .ok ()) :
    estimatedTexts input + 700 ≤ maxDeepInfraRenderedBodyBytes := by
  unfold ensureGeneratedBodyFits at h
  obtain ⟨query, hquery, h⟩ := bind_eq_ok h
  obtain ⟨queries, hqueries, h⟩ := bind_eq_ok h
  obtain ⟨documents, hdocuments, h⟩ := bind_eq_ok h
  obtain ⟨instruction, hinstruction, h⟩ := bind_eq_ok h
  obtain ⟨overhead, hoverhead, h⟩ := bind_eq_ok h
  obtain ⟨texts, htexts, h⟩ := bind_eq_ok h
  obtain ⟨bound, hbound, h⟩ := bind_eq_ok h
  obtain ⟨-, rfl⟩ := checkedSize_eq_ok.mp hquery
  obtain ⟨-, rfl⟩ := checkedSize_eq_ok.mp hqueries
  obtain ⟨-, rfl⟩ := checkedSize_eq_ok.mp hinstruction
  obtain ⟨-, rfl⟩ := checkedSize_eq_ok.mp hoverhead
  obtain ⟨-, rfl⟩ := checkedSize_eq_ok.mp htexts
  obtain ⟨-, rfl⟩ := checkedSize_eq_ok.mp hbound
  rw [checkedDocuments_eq_ok hdocuments, length_defaultInstruction] at h
  split at h
  · cases h
  next hfits =>
    unfold estimatedTexts
    omega

/-- The estimate lets a request through whose texts are small enough. -/
theorem ensureGeneratedBodyFits_of_le {input : OpenAiRerankInput} (hne : input.documents ≠ [])
    (h : estimatedTexts input + 700 ≤ maxDeepInfraRenderedBodyBytes) :
    ensureGeneratedBodyFits input = .ok () := by
  have hlimit : maxDeepInfraRenderedBodyBytes = 1048576 := rfl
  have hcount : 1 ≤ input.documents.length := List.length_pos_iff.mpr hne
  have hquery : (utf8 input.query).length * 6 ≤
      (utf8 input.query).length * 6 * input.documents.length := Nat.le_mul_of_pos_right _ hcount
  unfold estimatedTexts at h
  have hdocuments : checkedDocuments input.documents 0 = .ok (0 +
      (input.documents.map fun document => (utf8 document).length * 6).sum) :=
    checkedDocuments_of_lt (by omega)
  unfold ensureGeneratedBodyFits
  rw [length_defaultInstruction]
  rw [checkedSize_bind (by omega), checkedSize_bind (by omega), hdocuments, ok_bind,
    checkedSize_bind (by decide), checkedSize_bind (by decide), checkedSize_bind (by omega),
    checkedSize_bind (by omega), if_neg (by omega)]

/-! ## The limit -/

theorem escapedTexts_le (input : OpenAiRerankInput) : escapedTexts input ≤ estimatedTexts input := by
  unfold escapedTexts estimatedTexts
  refine Nat.add_le_add (Nat.mul_le_mul_right _ ?_) ?_
  · have hquery := escapedLength_le input.query
    omega
  · induction input.documents with
    | nil => simp
    | cons document documents ih =>
      have hdocument := escapedLength_le document
      simp only [List.map_cons, List.sum_cons]
      omega

/-- **When a body that passed the estimate keeps to the limit**: the quotes and commas, six bytes for
each document, have to be covered by the 582 bytes that the estimate has to spare, by what it leaves
below the limit, and by what it counts too much for bytes that are not written with six. -/
theorem deepInfraBody_fits_iff {print : Json → Bytes} (hprint : PrintsCompact print)
    {input : OpenAiRerankInput} (h : ensureGeneratedBodyFits input = .ok ()) :
    (deepInfraBody print input).length ≤ maxDeepInfraRenderedBodyBytes ↔
      6 * input.documents.length ≤ 582 +
        (maxDeepInfraRenderedBodyBytes - (estimatedTexts input + 700)) +
        (estimatedTexts input - escapedTexts input) := by
  have hestimate := estimated_of_ensureGeneratedBodyFits h
  have hescaped := escapedTexts_le input
  have hlimit : maxDeepInfraRenderedBodyBytes = 1048576 := rfl
  rw [length_deepInfraBody hprint]
  rcases Nat.eq_zero_or_pos input.documents.length with hzero | hcount
  · have htexts : escapedTexts input = 0 := by
      rw [escapedTexts, List.length_eq_zero_iff.mp hzero]
      simp
    omega
  · omega

/-- One document and its query. -/
def pairInput : OpenAiRerankInput where
  model := none
  query := "capital of France"
  documents := ["Paris"]
  topN := 1
  returnDocuments := false

theorem deepInfraBody_fits_pair :
    ensureGeneratedBodyFits pairInput = .ok () ∧
      ∀ number, (deepInfraBody (printJson number) pairInput).length ≤ maxDeepInfraRenderedBodyBytes := by
  have hfits : ensureGeneratedBodyFits pairInput = .ok () := by decide
  refine ⟨hfits, fun number => ?_⟩
  exact (deepInfraBody_fits_iff (printsCompact_printJson number) hfits).mpr (by decide)

/-- As many documents as a request may have, all empty but one of control characters. -/
def crowdedInput : OpenAiRerankInput where
  model := none
  query := ""
  documents := String.ofList (List.replicate 174646 '\x01') :: List.replicate 1023 ""
  topN := 1024
  returnDocuments := false

theorem utf8_ofList (cs : List Char) : utf8 (String.ofList cs) = encodeUtf8 cs := by
  simp [utf8, encodeUtf8, List.utf8Encode]

theorem utf8_control (n : Nat) :
    utf8 (String.ofList (List.replicate n '\x01')) = List.replicate n 1 := by
  have hchar : String.utf8EncodeChar '\x01' = [1] := by decide
  rw [utf8_ofList]
  induction n with
  | zero => rfl
  | succ n ih => rw [List.replicate_succ, encodeUtf8_cons, ih, hchar, List.replicate_succ]; rfl

theorem escapedLength_control (n : Nat) :
    escapedLength (String.ofList (List.replicate n '\x01')) = n * 6 := by
  rw [escapedLength, utf8_control, List.map_replicate, List.sum_replicate_nat]
  rfl

/-- The estimate lets a body through that is longer than the limit. -/
theorem deepInfraBody_exceeds_crowded :
    crowdedInput.documents.length ≤ maxPairCount ∧ ensureGeneratedBodyFits crowdedInput = .ok () ∧
      ∀ number, maxDeepInfraRenderedBodyBytes < (deepInfraBody (printJson number) crowdedInput).length := by
  have hcount : crowdedInput.documents.length = 1024 := by
    rw [crowdedInput, List.length_cons, List.length_replicate]
  have hlimit : maxDeepInfraRenderedBodyBytes = 1048576 := rfl
  have hempty : (utf8 "").length = 0 ∧ escapedLength "" = 0 := by decide
  have hestimate : estimatedTexts crowdedInput = 1047876 := by
    rw [estimatedTexts, hcount, crowdedInput]
    simp only [List.map_cons, List.sum_cons, List.map_replicate, List.sum_replicate_nat, hempty,
      utf8_control, List.length_replicate]
  have hescaped : escapedTexts crowdedInput = 1047876 := by
    rw [escapedTexts, hcount, crowdedInput]
    simp only [List.map_cons, List.sum_cons, List.map_replicate, List.sum_replicate_nat, hempty,
      escapedLength_control]
  refine ⟨by rw [hcount]; decide, ensureGeneratedBodyFits_of_le ?_ ?_, fun number => ?_⟩
  · rw [crowdedInput]
    exact List.cons_ne_nil _ _
  · omega
  · rw [length_deepInfraBody (printsCompact_printJson number), hcount, hescaped]
    decide

end LlmGuardProxy
