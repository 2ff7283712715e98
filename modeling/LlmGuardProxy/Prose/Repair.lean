import LlmGuardProxy.Chat.Roundtrip
import LlmGuardProxy.Machinery.Collector
import LlmGuardProxy.Machinery.Decimal
import LlmGuardProxy.Prose.Validate

/-!
# Prose/Repair — the hint of a constraint repair

The violations of every choice of a completion are collected, and the retry gets as many of them as
fit between a fixed start and a fixed instruction.

* `Report`, `violatedTemplates` — the sequence of templates and numbers that a response violates.
* `repairContextForResponse_eq` — the repair is a function of that sequence.
* `boundedRetryFeedback_eq` — the feedback in a hint is a cut of the joined messages.
* `repair_hint_has_no_text` — a hint carries nothing of the prompt or of the answer.
-/

namespace LlmGuardProxy

open Machinery

/-! ## Repairs -/

/-- `MAX_RETRY_HINT_CHARS`. -/
def maxRetryHintChars : ℕ := 256

/-- `MAX_FEEDBACK_PER_CHOICE`. -/
def maxFeedbackPerChoice : ℕ := 8

/-- `MAX_REPAIR_FEEDBACK`. -/
def maxRepairFeedback : ℕ := 8

/-- The messages for the retry. -/
structure ConstraintRepair where
  feedback : List Text
  deriving DecidableEq

/-- A message with the index of its choice. -/
def choiceMessage (choiceIndex : ℕ) (failure : Text) : Text :=
  "Choice ".toList ++ Nat.toDigits 10 choiceIndex ++ " violates: ".toList ++ failure

/-- The message for a completion with too many texts. -/
def tooManyMessage : Text := "response contains too many textual choices to validate safely".toList

/-- The messages of one answer, behind those of the answers before it. -/
def pushAnswer (u : UnicodeTables) (prompt : Text) (feedback : Collector Text)
    (answer : ℕ × Text) : Collector Text :=
  let choiceFeedback := (Collector.withLimit maxFeedbackPerChoice).pushAll
    ((answerViolations u prompt answer.2).map Violation.text)
  feedback.pushAll (choiceFeedback.entries.map (choiceMessage answer.1))

/-- `repair_context_for_response`. -/
def repairContextForResponse (u : UnicodeTables) (codec : JsonCodec)
    (requestBody completionBody : Bytes) : Option ConstraintRepair :=
  (requestText codec requestBody).bind fun prompt =>
    let lowered := lower prompt
    let anaphora := quotedValueAfter prompt lowered "every line must begin with the word".toList
    if constraintsAreContradictory anaphora (prohibitedLetterAfter prompt lowered) then none
    else
      (completionTexts codec completionBody).bind fun
        | .tooMany => some ⟨[tooManyMessage]⟩
        | .texts answers =>
            let feedback :=
              answers.foldl (pushAnswer u prompt) (Collector.withLimit maxRepairFeedback)
            if feedback.entries ≠ [] then some ⟨feedback.entries⟩ else none

/-! ## Hints -/

/-- `RETRY_HINT_PREFIX`. -/
def retryHintPrefix : Text := "llm-guard-proxy constraint-repair retry hint: ".toList

/-- The instruction at the end of a hint. -/
def retryInstruction : Text :=
  " Re-read the original user message for literal targets.".toList ++
    " Return only the complete corrected answer. retry_attempt=".toList

/-- The end of a hint: the instruction, and the number of the attempt. -/
def retryHintSuffix (attemptNumber maxAttempts : UInt32) : Text :=
  retryInstruction ++ Nat.toDigits 10 attemptNumber.toNat ++ ['/'] ++
    Nat.toDigits 10 maxAttempts.toNat ++ ['.']

/-- `append_up_to_char_limit`. -/
def appendUpToCharLimit (output value : Text) (maxChars : ℕ) : Text :=
  output ++ value.take (maxChars - output.length)

/-- What stands between two messages. -/
def feedbackSeparator : Text := "; ".toList

/-- The loop of `bounded_retry_feedback`. -/
def boundedRetryFeedbackLoop (maxChars : ℕ) : List Text → Text → Text
  | [], bounded => bounded
  | failure :: feedback, bounded =>
      let bounded :=
        if bounded ≠ [] then appendUpToCharLimit bounded feedbackSeparator maxChars else bounded
      let bounded := appendUpToCharLimit bounded failure maxChars
      if bounded.length = maxChars then bounded
      else boundedRetryFeedbackLoop maxChars feedback bounded

/-- `bounded_retry_feedback`. -/
def boundedRetryFeedback (feedback : List Text) (maxChars : ℕ) : Text :=
  boundedRetryFeedbackLoop maxChars feedback []

/-- `ConstraintRepair::retry_hint`. -/
def ConstraintRepair.retryHint (repair : ConstraintRepair) (attemptNumber maxAttempts : UInt32) :
    Text :=
  let suffix := retryHintSuffix attemptNumber maxAttempts
  let feedbackLimit := maxRetryHintChars - (retryHintPrefix.length + suffix.length)
  let feedback := boundedRetryFeedback repair.feedback feedbackLimit
  (retryHintPrefix ++ feedback ++ suffix).take maxRetryHintChars

/-! ## The violated templates -/

/-- A message of a repair: a template and its numbers. -/
inductive Report where
  | choice (index : ℕ) (failure : Violation)
  | tooManyChoices
  deriving DecidableEq

/-- The message. -/
def Report.text : Report → Text
  | choice index failure => choiceMessage index failure.text
  | tooManyChoices => tooManyMessage

/-- **The sequence of templates and numbers that a response violates**, over all its choices. -/
def violatedTemplates (u : UnicodeTables) (codec : JsonCodec) (requestBody completionBody : Bytes) :
    List Report :=
  match requestText codec requestBody with
  | none => []
  | some prompt =>
      let lowered := lower prompt
      let anaphora := quotedValueAfter prompt lowered "every line must begin with the word".toList
      if constraintsAreContradictory anaphora (prohibitedLetterAfter prompt lowered) then []
      else
        match completionTexts codec completionBody with
        | none => []
        | some .tooMany => [.tooManyChoices]
        | some (.texts answers) =>
            answers.flatMap fun answer => (answerViolations u prompt answer.2).map (.choice answer.1)

/-- The repair for a sequence of violated templates. -/
def repairOf (reports : List Report) : Option ConstraintRepair :=
  let feedback := (Collector.withLimit maxRepairFeedback).pushAll (reports.map Report.text)
  if feedback.entries ≠ [] then some ⟨feedback.entries⟩ else none

/-! ## The repair is a function of the violated templates -/

theorem choiceMessage_injective (choiceIndex : ℕ) : Function.Injective (choiceMessage choiceIndex) :=
  fun _ _ h => List.append_cancel_left h

/-- One answer pushes the messages of all its violations: the limit for a choice is that of the
whole repair, so it leaves out nothing that would be kept. -/
theorem pushAnswer_eq (u : UnicodeTables) (prompt : Text) {feedback : Collector Text}
    (hlimit : feedback.limit ≤ maxFeedbackPerChoice) (answer : ℕ × Text) :
    pushAnswer u prompt feedback answer = feedback.pushAll
      (((answerViolations u prompt answer.2).map (Report.choice answer.1)).map Report.text) := by
  rw [pushAnswer, Collector.pushAll_kept feedback (choiceMessage_injective answer.1) hlimit,
    List.map_map, List.map_map]
  rfl

theorem foldl_pushAnswer (u : UnicodeTables) (prompt : Text) (answers : List (ℕ × Text))
    {feedback : Collector Text} (hlimit : feedback.limit ≤ maxFeedbackPerChoice) :
    answers.foldl (pushAnswer u prompt) feedback = feedback.pushAll
      ((answers.flatMap fun answer =>
        (answerViolations u prompt answer.2).map (Report.choice answer.1)).map Report.text) := by
  induction answers generalizing feedback with
  | nil => rfl
  | cons answer answers ih =>
    rw [List.foldl_cons, pushAnswer_eq u prompt hlimit answer,
      ih (by rw [Collector.limit_pushAll]; exact hlimit), List.flatMap_cons, List.map_append,
      Collector.pushAll_append]

/-- **The repair is a function of the violated templates.** -/
theorem repairContextForResponse_eq (u : UnicodeTables) (codec : JsonCodec)
    (requestBody completionBody : Bytes) :
    repairContextForResponse u codec requestBody completionBody =
      repairOf (violatedTemplates u codec requestBody completionBody) := by
  rw [repairContextForResponse, violatedTemplates]
  cases requestText codec requestBody with
  | none => rfl
  | some prompt =>
    dsimp only [Option.bind_some]
    split
    · rfl
    · cases completionTexts codec completionBody with
      | none => rfl
      | some found =>
        cases found with
        | tooMany => rfl
        | texts answers =>
          dsimp only [Option.bind_some]
          rw [foldl_pushAnswer u prompt answers le_rfl]
          rfl

/-- The messages of a repair are those of some violated templates, in order. -/
theorem exists_feedback_of_repairOf {reports : List Report} {repair : ConstraintRepair}
    (h : repairOf reports = some repair) :
    ∃ kept : List Report, kept.Sublist reports ∧ repair.feedback = kept.map Report.text := by
  rw [repairOf] at h
  split at h
  · obtain rfl := Option.some.inj h
    obtain ⟨kept, hkept, hmap⟩ := List.sublist_map_iff.mp
      (Collector.pushAll_sublist maxRepairFeedback (reports.map Report.text))
    exact ⟨kept, hkept, hmap⟩
  · exact absurd h (by simp)

/-! ## The feedback in a hint -/

/-- A cut text with a further text, cut again. -/
theorem appendUpToCharLimit_take (output value : Text) (maxChars : ℕ) :
    appendUpToCharLimit (output.take maxChars) value maxChars = (output ++ value).take maxChars := by
  rw [appendUpToCharLimit, List.take_append, List.length_take]
  congr 2
  omega

/-- The messages behind a first one. -/
def furtherFeedback (feedback : List Text) : Text := feedback.flatMap (feedbackSeparator ++ ·)

theorem boundedRetryFeedbackLoop_eq (maxChars : ℕ) (feedback : List Text) {front : Text}
    (hfront : front ≠ []) :
    boundedRetryFeedbackLoop maxChars feedback (front.take maxChars) =
      (front ++ furtherFeedback feedback).take maxChars := by
  induction feedback generalizing front with
  | nil => rw [boundedRetryFeedbackLoop, furtherFeedback, List.flatMap_nil, List.append_nil]
  | cons failure feedback ih =>
    have hseparated : (if front.take maxChars ≠ [] then
        appendUpToCharLimit (front.take maxChars) feedbackSeparator maxChars
        else front.take maxChars) = (front ++ feedbackSeparator).take maxChars := by
      by_cases hnone : maxChars = 0
      · subst hnone
        rfl
      · rw [if_pos (by simp [List.take_eq_nil_iff, hfront, hnone]), appendUpToCharLimit_take]
    rw [boundedRetryFeedbackLoop, hseparated, appendUpToCharLimit_take]
    have hsplit : front ++ furtherFeedback (failure :: feedback) =
        (front ++ feedbackSeparator ++ failure) ++ furtherFeedback feedback := by
      simp [furtherFeedback]
    rw [hsplit]
    split
    case isTrue hfull =>
      rw [List.length_take] at hfull
      exact (List.take_append_of_le_length (by omega)).symm
    case isFalse => exact ih (by simp [hfront])

/-- The messages of a repair, joined. -/
def joinFeedback (feedback : List Text) : Text := feedbackSeparator.intercalate feedback

theorem joinFeedback_cons (failure : Text) (feedback : List Text) :
    joinFeedback (failure :: feedback) = failure ++ furtherFeedback feedback := by
  induction feedback generalizing failure with
  | nil => simp [joinFeedback, furtherFeedback]
  | cons next feedback ih =>
    have hnext := ih next
    rw [joinFeedback] at hnext ⊢
    rw [List.intercalate_cons_cons, hnext, furtherFeedback, furtherFeedback, List.flatMap_cons]
    simp

/-- **The feedback in a hint** is a cut of the joined messages. -/
theorem boundedRetryFeedback_eq {feedback : List Text} (h : ∀ failure ∈ feedback, failure ≠ [])
    (maxChars : ℕ) : boundedRetryFeedback feedback maxChars = (joinFeedback feedback).take maxChars := by
  cases feedback with
  | nil => simp [boundedRetryFeedback, boundedRetryFeedbackLoop, joinFeedback]
  | cons failure feedback =>
    have hfirst : appendUpToCharLimit [] failure maxChars = failure.take maxChars := by
      rw [appendUpToCharLimit, List.nil_append, List.length_nil, Nat.sub_zero]
    rw [boundedRetryFeedback, boundedRetryFeedbackLoop, joinFeedback_cons,
      if_neg (c := ([] : Text) ≠ []) (fun hne => hne rfl), hfirst]
    split
    case isTrue hfull =>
      rw [List.length_take] at hfull
      exact (List.take_append_of_le_length (by omega)).symm
    case isFalse => exact boundedRetryFeedbackLoop_eq maxChars feedback (h failure (by simp))

theorem Report.text_ne_nil (report : Report) : report.text ≠ [] := by
  cases report with
  | choice index failure => exact List.cons_ne_nil _ _
  | tooManyChoices => exact List.cons_ne_nil _ _

/-! ## The whole hint -/

theorem length_digits_le (n : UInt32) : (Nat.toDigits 10 n.toNat).length ≤ 10 := by
  have hbound : n.toNat < 10 ^ 10 := lt_of_lt_of_le n.toNat_lt (by norm_num)
  exact length_toDigits_le (by decide) hbound

/-- The fixed parts of a hint leave room for feedback. -/
theorem length_fixed_le (attemptNumber maxAttempts : UInt32) :
    retryHintPrefix.length + (retryHintSuffix attemptNumber maxAttempts).length ≤
      maxRetryHintChars := by
  have hlead : retryHintPrefix.length = 46 := by decide
  have hinstruction : retryInstruction.length = 55 + 58 :=
    List.length_append.trans (congrArg₂ (· + ·) (by decide) (by decide))
  have hattempt := length_digits_le attemptNumber
  have hmax := length_digits_le maxAttempts
  rw [retryHintSuffix, hlead, maxRetryHintChars]
  simp only [List.length_append, hinstruction, List.length_singleton]
  omega

/-- A hint whose messages are not empty: the fixed start, a cut of the messages, and the whole
instruction. -/
theorem retryHint_eq {repair : ConstraintRepair} (h : ∀ failure ∈ repair.feedback, failure ≠ [])
    (attemptNumber maxAttempts : UInt32) :
    ∃ shown : Text, shown <+: joinFeedback repair.feedback ∧
      repair.retryHint attemptNumber maxAttempts =
        retryHintPrefix ++ shown ++ retryHintSuffix attemptNumber maxAttempts := by
  have hfixed := length_fixed_le attemptNumber maxAttempts
  refine ⟨(joinFeedback repair.feedback).take (maxRetryHintChars -
    (retryHintPrefix.length + (retryHintSuffix attemptNumber maxAttempts).length)),
    List.take_prefix _ _, ?_⟩
  rw [ConstraintRepair.retryHint, boundedRetryFeedback_eq h]
  apply List.take_of_length_le
  rw [List.length_append, List.length_append, List.length_take]
  omega

/-- **Hints carry no text of the user or of the model.**  A hint is at most as long as its limit;
between its fixed start and its whole instruction stands a cut of the joined messages of violated
templates; and responses that violate the same templates with the same numbers get the same hint. -/
theorem repair_hint_has_no_text (u : UnicodeTables) (codec : JsonCodec)
    (requestBody completionBody : Bytes) (attemptNumber maxAttempts : UInt32) :
    (∀ repair, repairContextForResponse u codec requestBody completionBody = some repair →
      (repair.retryHint attemptNumber maxAttempts).length ≤ 256 ∧
      ∃ (shown : Text) (kept : List Report),
        repair.retryHint attemptNumber maxAttempts =
          retryHintPrefix ++ shown ++ retryHintSuffix attemptNumber maxAttempts ∧
        kept.Sublist (violatedTemplates u codec requestBody completionBody) ∧
        shown <+: joinFeedback (kept.map Report.text)) ∧
    ∀ requestBody' completionBody', violatedTemplates u codec requestBody' completionBody' =
        violatedTemplates u codec requestBody completionBody →
      (repairContextForResponse u codec requestBody' completionBody').map
          (·.retryHint attemptNumber maxAttempts) =
        (repairContextForResponse u codec requestBody completionBody).map
          (·.retryHint attemptNumber maxAttempts) := by
  constructor
  · intro repair hrepair
    refine ⟨List.length_take_le _ _, ?_⟩
    rw [repairContextForResponse_eq] at hrepair
    obtain ⟨kept, hkept, hfeedback⟩ := exists_feedback_of_repairOf hrepair
    have hne : ∀ failure ∈ repair.feedback, failure ≠ [] := by
      intro failure hmem
      rw [hfeedback] at hmem
      obtain ⟨report, -, rfl⟩ := List.mem_map.mp hmem
      exact report.text_ne_nil
    obtain ⟨shown, hshown, hhint⟩ := retryHint_eq hne attemptNumber maxAttempts
    rw [hfeedback] at hshown
    exact ⟨shown, kept, hhint, hkept, hshown⟩
  · intro requestBody' completionBody' hsame
    rw [repairContextForResponse_eq, repairContextForResponse_eq, hsame]

/-- A request with one user message. -/
def userRequest (prompt : String) : Json :=
  .obj [("messages", .arr [.obj [("content", .str prompt), ("role", .str "user")]])]

/-- A completion with one choice. -/
def oneChoiceCompletion (answer : String) : Json :=
  .obj [("choices", .arr [.obj [("message", .obj [("content", .str answer)])]])]

/-- A codec that reads two requests that prohibit commas, and two answers with a comma. -/
def commasCodec : JsonCodec :=
  plainCodec [userRequest "do not use any commas", userRequest "must not use any commas",
    oneChoiceCompletion ",", oneChoiceCompletion "a,"]

theorem repair_hint_has_no_text_commas :
    repairContextForResponse asciiTables commasCodec (plainText (userRequest "do not use any commas"))
        (plainText (oneChoiceCompletion ",")) =
      some ⟨[Report.text (.choice 0 (.prohibitedMark .comma))]⟩ ∧
    (ConstraintRepair.retryHint ⟨[Report.text (.choice 0 (.prohibitedMark .comma))]⟩ 2 3).length ≤
      256 ∧
    (repairContextForResponse asciiTables commasCodec (plainText (userRequest "must not use any commas"))
        (plainText (oneChoiceCompletion "a,"))).map (·.retryHint 2 3) =
      (repairContextForResponse asciiTables commasCodec (plainText (userRequest "do not use any commas"))
        (plainText (oneChoiceCompletion ","))).map (·.retryHint 2 3) :=
  have hrepair : repairContextForResponse asciiTables commasCodec
      (plainText (userRequest "do not use any commas")) (plainText (oneChoiceCompletion ",")) =
      some ⟨[Report.text (.choice 0 (.prohibitedMark .comma))]⟩ := by decide
  have hhint := repair_hint_has_no_text asciiTables commasCodec
    (plainText (userRequest "do not use any commas")) (plainText (oneChoiceCompletion ",")) 2 3
  ⟨hrepair, (hhint.1 _ hrepair).1, hhint.2 _ _ (by decide)⟩

end LlmGuardProxy
