import LlmGuardProxy.Watchdog.FastPath

/-!
# Watchdog/Chunking — progress and the way a stream was cut

The bytes of a stream reach the observer in chunks of any size.  Until it knows the framing it keeps
what came, and a chunk that does not fit behind that makes the response unobservable, however short
its lines are.  Then the parser holds the line it is in beside the data of the event it is in, and
both together have to stay within the bound.

* `hasSseFraming_iff` — a line starts with the name of a field.
* `isSome_consume_iff` — when the parser can hold what it reads.
* `progress_independent_iff` — which streams have the same progress in whatever way they are cut.
-/

namespace LlmGuardProxy.Watchdog

open Machinery

/-! ## Framing -/

/-- The names of fields end in a colon, and start with no line ending. -/
theorem framingName {name : Bytes} (h : name ∈ framingNames) :
    name.getLast? = some 0x3A ∧ name ≠ [] ∧ name.head? ≠ some 0x0A := by
  have hall : framingNames.all (fun name =>
      decide (name.getLast? = some 0x3A ∧ name ≠ [] ∧ name.head? ≠ some 0x0A)) = true := by decide
  exact forall_mem_of_all hall name h

theorem not_lf_of_framingName {name rest : Bytes} (h : name ∈ framingNames) :
    ¬ name <+: 0x0A :: rest := by
  obtain ⟨-, hne, hhead⟩ := framingName h
  rintro ⟨tail, htail⟩
  obtain ⟨byte, more, rfl⟩ := List.exists_cons_of_ne_nil hne
  obtain ⟨rfl, -⟩ := List.cons.inj htail
  exact hhead rfl

/-- The end of a line, or the beginning of the bytes. -/
def AtLineStart (front : Bytes) : Prop := ∀ byte ∈ front.getLast?, byte = 0x0A ∨ byte = 0x0D

theorem getLast?_behind (line more : Bytes) (ending : UInt8) :
    (line ++ ending :: more).getLast? = some (more.getLast?.getD ending) := by
  simp [List.getLast?_cons]

theorem AtLineStart.append {front : Bytes} (h : AtLineStart front) (line : Bytes) {ending : UInt8}
    (hending : ending = 0x0A ∨ ending = 0x0D) : AtLineStart (line ++ ending :: front) := by
  intro byte hbyte
  rw [getLast?_behind, Option.mem_def, Option.some.injEq] at hbyte
  cases hfront : front.getLast? with
  | none =>
    rw [hfront] at hbyte
    exact hbyte ▸ hending
  | some last =>
    rw [hfront] at hbyte
    exact h byte (hfront.trans (congrArg some hbyte))

/-- A line start behind the first line. -/
theorem AtLineStart.tail {front line rest tail : Bytes} {ending : UInt8} (h : AtLineStart front)
    (hfront : front ≠ []) (hline : ∀ byte ∈ line, byte ≠ 0x0A ∧ byte ≠ 0x0D)
    (heq : front ++ tail = line ++ ending :: rest) :
    ∃ more, front = line ++ ending :: more ∧ rest = more ++ tail ∧ AtLineStart more := by
  have hlast := List.getLast?_eq_some_getLast hfront
  generalize front.getLast hfront = last at hlast
  have hin : last ∉ line := fun hin => by
    have hplain := hline last hin
    rcases h last hlast with rfl | rfl
    · exact hplain.1 rfl
    · exact hplain.2 rfl
  rcases List.append_eq_append_iff.mp heq with ⟨as, hline', -⟩ | ⟨bs, hfront', hrest⟩
  · exact absurd (hline' ▸ List.mem_append_left _ (List.mem_of_getLast? hlast)) hin
  · cases bs with
    | nil =>
      rw [List.append_nil] at hfront'
      exact absurd (hfront' ▸ List.mem_of_getLast? hlast) hin
    | cons byte more =>
      obtain ⟨rfl, rfl⟩ := List.cons.inj hrest
      refine ⟨more, hfront', rfl, fun byte hbyte => h byte ?_⟩
      rw [hfront', getLast?_behind, Option.mem_def.mp hbyte]
      rfl

/-- **A line starts with the name of a field.** -/
theorem hasSseFraming_iff (bytes : Bytes) : hasSseFraming bytes = true ↔
    ∃ front rest, bytes = front ++ rest ∧ AtLineStart front ∧
      ∃ name ∈ framingNames, name <+: rest := by
  induction hlength : bytes.length using Nat.strong_induction_on generalizing bytes with
  | _ length ih =>
    subst hlength
    rw [hasSseFraming]
    by_cases hbytes : bytes = []
    · subst hbytes
      rw [if_pos rfl]
      refine iff_of_false (by decide) ?_
      rintro ⟨front, rest, hsplit, -, name, hname, hprefix⟩
      obtain ⟨rfl, rfl⟩ := List.append_eq_nil_iff.mp hsplit.symm
      exact (framingName hname).2.1 (List.prefix_nil.mp hprefix)
    · rw [if_neg hbytes]
      by_cases hany : framingNames.any (·.isPrefixOf bytes) = true
      · rw [if_pos hany]
        obtain ⟨name, hname, hprefix⟩ := List.any_eq_true.mp hany
        exact iff_of_true rfl
          ⟨[], bytes, rfl, nofun, name, hname, List.isPrefixOf_iff_prefix.mp hprefix⟩
      · rw [if_neg hany]
        have hfirst : ∀ {front rest : Bytes}, bytes = front ++ rest →
            (∃ name ∈ framingNames, name <+: rest) → front ≠ [] := by
          rintro front rest rfl ⟨name, hname, hprefix⟩ rfl
          exact hany (List.any_eq_true.mpr ⟨name, hname, List.isPrefixOf_iff_prefix.mpr hprefix⟩)
        split
        · rename_i hnext
          refine iff_of_false (by decide) ?_
          rintro ⟨front, rest, hsplit, hstart, hnamed⟩
          have hlast := List.getLast?_eq_some_getLast (hfirst hsplit hnamed)
          have hin : front.getLast (hfirst hsplit hnamed) ∈ bytes :=
            hsplit ▸ List.mem_append_left _ (List.mem_of_getLast? hlast)
          have hplain := nextSseLine_eq_none hnext _ hin
          rcases hstart _ hlast with hlf | hcr
          · exact hplain.1 hlf
          · exact hplain.2 hcr
        · rename_i line rest hnext
          rw [ih rest.length (length_of_nextSseLine hnext) rest rfl]
          obtain ⟨hline, hending⟩ := nextSseLine_eq_some hnext
          constructor
          · rintro ⟨front, tail, rfl, hstart, hnamed⟩
            rcases hending with hinput | hinput | ⟨hinput, -⟩
            · exact ⟨line ++ 0x0A :: front, tail, by simp [hinput], hstart.append line (.inl rfl), hnamed⟩
            · exact ⟨line ++ 0x0D :: 0x0A :: front, tail, by simp [hinput],
                (hstart.append [] (.inl rfl)).append line (.inr rfl), hnamed⟩
            · exact ⟨line ++ 0x0D :: front, tail, by simp [hinput], hstart.append line (.inr rfl), hnamed⟩
          · rintro ⟨front, tail, hsplit, hstart, hnamed⟩
            have hne := hfirst hsplit hnamed
            rcases hending with hinput | hinput | ⟨hinput, -⟩
            · obtain ⟨more, -, hrest, hmore⟩ := hstart.tail hne hline (hsplit.symm.trans hinput)
              exact ⟨more, tail, hrest, hmore, hnamed⟩
            · obtain ⟨more, -, hrest, hmore⟩ := hstart.tail hne hline (hsplit.symm.trans hinput)
              cases more with
              | nil =>
                obtain ⟨name, hname, hprefix⟩ := hnamed
                rw [List.nil_append] at hrest
                exact absurd (hrest ▸ hprefix) (not_lf_of_framingName hname)
              | cons byte more =>
                obtain ⟨rfl, htail⟩ := List.cons.inj hrest
                refine ⟨more, tail, htail, fun byte hbyte => hmore byte ?_, hnamed⟩
                rw [Option.mem_def] at hbyte ⊢
                rw [List.getLast?_cons, hbyte]
                rfl
            · obtain ⟨more, -, hrest, hmore⟩ := hstart.tail hne hline (hsplit.symm.trans hinput)
              exact ⟨more, tail, hrest, hmore, hnamed⟩

theorem hasSseFraming_colon (rest : Bytes) : hasSseFraming (0x3A :: rest) = true :=
  (hasSseFraming_iff _).mpr ⟨[], 0x3A :: rest, rfl, nofun, [0x3A], by decide, rest, rfl⟩

/-- A framing shows with a colon. -/
theorem hasSseFraming_of_concat {bytes : Bytes} {byte : UInt8}
    (h : hasSseFraming (bytes ++ [byte]) = true) (hbyte : byte ≠ 0x3A) :
    hasSseFraming bytes = true := by
  obtain ⟨lines, rest, hsplit, hstart, name, hname, tail, rfl⟩ := (hasSseFraming_iff _).mp h
  rcases List.eq_nil_or_concat tail with rfl | ⟨tail, last, rfl⟩
  · have hlast := congrArg List.getLast? hsplit
    simp [(framingName hname).1] at hlast
    exact absurd hlast hbyte
  · rw [List.concat_eq_append, ← List.append_assoc, ← List.append_assoc] at hsplit
    obtain ⟨rfl, -⟩ := List.append_inj' hsplit rfl
    exact (hasSseFraming_iff _).mpr ⟨lines, name ++ tail, by simp, hstart, name, hname, tail, rfl⟩

/-- **Where a framing shows**: in front of a colon it does not. -/
theorem exists_colon_of_hasSseFraming {body : Bytes} (h : hasSseFraming body = true) :
    ∃ front rest, body = front ++ 0x3A :: rest ∧ hasSseFraming front = false := by
  induction body using List.reverseRecOn with
  | nil => rw [hasSseFraming] at h; cases h
  | append_singleton body byte ih =>
    by_cases hbody : hasSseFraming body = true
    · obtain ⟨front, rest, rfl, hfront⟩ := ih hbody
      exact ⟨front, rest ++ [byte], by simp, hfront⟩
    · by_cases hbyte : byte = 0x3A
      · exact ⟨body, [], by rw [hbyte], by simpa using hbody⟩
      · exact absurd (hasSseFraming_of_concat h hbyte) hbody

/-! ## What a reader of the stream holds -/

namespace SseEventParser

/-- The end of a line, for a reader without a bound. -/
def endLine (parser : SseEventParser) : SseEventParser :=
  if parser.line = [] then { parser with data := [], hasData := false }
  else
    match fieldData parser.line with
    | some value => ({ parser with line := [] } : SseEventParser).push value
    | none => { parser with line := [] }

/-- One byte, for a reader without a bound. -/
def advance (parser : SseEventParser) (byte : UInt8) : SseEventParser :=
  let next := { parser with skipLfAfterCr := false }
  if parser.skipLfAfterCr ∧ byte = 0x0A then next
  else if byte = 0x0D then { next.endLine with skipLfAfterCr := true }
  else if byte = 0x0A then next.endLine
  else { next with line := next.line ++ [byte] }

/-- What a reader without a bound holds behind the bytes. -/
def advances (parser : SseEventParser) (bytes : Bytes) : SseEventParser := bytes.foldl advance parser

end SseEventParser

/-- **The line and the data of the event, as far as they go, stay within the bound** at every byte. -/
def Fits (body : Bytes) : Prop :=
  ∀ front, front <+: body →
    (({} : SseEventParser).advances front).retainedLen ≤ maxPendingSseResidualBytes

/-- Each line and the data of each event stay within the bound. -/
def WithinBounds (body : Bytes) : Prop :=
  ∀ front, front <+: body →
    (({} : SseEventParser).advances front).line.length ≤ maxPendingSseResidualBytes ∧
      (({} : SseEventParser).advances front).data.length ≤ maxPendingSseResidualBytes

namespace SseEventParser

variable {codec : JsonCodec} {progressUnit : WatchdogProgressUnit} {parser residual : SseEventParser}
  {units : ℕ}

/-- A value is shorter than its line. -/
theorem length_of_fieldData {line value : Bytes} (h : fieldData line = some value) :
    value.length + 5 ≤ line.length := by
  obtain ⟨field, hfield, rfl⟩ := Option.map_eq_some_iff.mp h
  obtain rfl := stripPrefix_eq_some.mp hfield
  have hname : (utf8 "data:").length = 5 := rfl
  have hvalue : ((stripPrefix (utf8 " ") field).getD field).length ≤ field.length := by
    cases hspace : stripPrefix (utf8 " ") field with
    | none => exact le_rfl
    | some rest =>
      obtain rfl := stripPrefix_eq_some.mp hspace
      simp
  rw [List.length_append, hname]
  omega

/-- Ending a line leaves no more than there was. -/
theorem retainedLen_endLine (parser : SseEventParser) :
    parser.endLine.retainedLen ≤ parser.retainedLen := by
  unfold endLine
  split
  · exact Nat.add_le_add_left (Nat.zero_le _) _
  · split
    · rename_i value hvalue
      have hlength := length_data_push ({ parser with line := [] } : SseEventParser) value
      have hvalue := length_of_fieldData hvalue
      have hbool := Bool.toNat_le parser.hasData
      unfold retainedLen
      rw [hlength]
      simp only [push, joinedLen, List.length_nil]
      omega
    · exact Nat.add_le_add_right (Nat.zero_le _) _

theorem retainedLen_advance (parser : SseEventParser) (byte : UInt8) :
    (parser.advance byte).retainedLen ≤ parser.retainedLen + 1 := by
  have hend := retainedLen_endLine { parser with skipLfAfterCr := false }
  unfold advance
  dsimp only
  split
  · exact Nat.le_add_right _ _
  · split
    · exact hend.trans (Nat.le_add_right _ _)
    · split
      · exact hend.trans (Nat.le_add_right _ _)
      · simp only [retainedLen, List.length_append, List.length_singleton]
        omega

theorem retainedLen_advances (parser : SseEventParser) (bytes : Bytes) :
    (parser.advances bytes).retainedLen ≤ parser.retainedLen + bytes.length := by
  induction bytes generalizing parser with
  | nil => exact le_rfl
  | cons byte bytes ih =>
    have hfirst := retainedLen_advance parser byte
    have hrest := ih (parser.advance byte)
    rw [List.length_cons]
    calc (parser.advances (byte :: bytes)).retainedLen
        ≤ (parser.advance byte).retainedLen + bytes.length := hrest
      _ ≤ parser.retainedLen + (bytes.length + 1) := by omega

/-- The end of a line that the parser could hold. -/
theorem finishLine_eq (codec : JsonCodec) (progressUnit : WatchdogProgressUnit)
    (hparser : parser.retainedLen ≤ maxPendingSseResidualBytes) :
    ∃ units, parser.finishLine codec progressUnit = some (units, parser.endLine) := by
  unfold finishLine endLine
  by_cases hline : parser.line = []
  · rw [if_pos hline, if_pos hline]
    exact ⟨_, by rw [hline]⟩
  · rw [if_neg hline, if_neg hline]
    cases hvalue : fieldData parser.line with
    | none => exact ⟨0, rfl⟩
    | some value =>
      have hlength := length_of_fieldData hvalue
      have hbool := Bool.toNat_le parser.hasData
      have hshort : ¬ maxPendingSseResidualBytes < parser.joinedLen value := by
        unfold retainedLen at hparser
        unfold joinedLen
        omega
      exact ⟨0, if_neg hshort⟩

/-- **One byte**: the parser goes on where a reader without a bound holds no more than it may. -/
theorem consumeNext_eq (codec : JsonCodec) (progressUnit : WatchdogProgressUnit)
    (hparser : parser.retainedLen ≤ maxPendingSseResidualBytes) (byte : UInt8) :
    (∃ units, parser.consumeNext codec progressUnit byte = some (units, parser.advance byte)) ∧
        (parser.advance byte).retainedLen ≤ maxPendingSseResidualBytes ∨
      parser.consumeNext codec progressUnit byte = none ∧
        maxPendingSseResidualBytes < (parser.advance byte).retainedLen := by
  have hnext : ({ parser with skipLfAfterCr := false } : SseEventParser).retainedLen ≤
      maxPendingSseResidualBytes := hparser
  have hend := (retainedLen_endLine _).trans hnext
  obtain ⟨units, hfinish⟩ := finishLine_eq codec progressUnit hnext
  unfold consumeNext advance
  dsimp only
  by_cases hskip : parser.skipLfAfterCr = true ∧ byte = 0x0A
  · rw [if_pos hskip, if_pos hskip]
    exact .inl ⟨⟨0, rfl⟩, hparser⟩
  · rw [if_neg hskip, if_neg hskip]
    unfold consumeByte
    by_cases hcr : byte = 0x0D
    · rw [if_pos hcr, if_pos hcr, hfinish]
      exact .inl ⟨⟨units, rfl⟩, hend⟩
    · rw [if_neg hcr, if_neg hcr]
      by_cases hlf : byte = 0x0A
      · rw [if_pos hlf, if_pos hlf, hfinish]
        exact .inl ⟨⟨units, rfl⟩, hend⟩
      · rw [if_neg hlf, if_neg hlf]
        dsimp only
        split
        · rename_i hlong
          exact .inr ⟨rfl, hlong⟩
        · rename_i hshort
          exact .inl ⟨⟨0, rfl⟩, not_lt.mp hshort⟩

/-- **The parser can hold what it reads** just when a reader without a bound never holds more. -/
theorem isSome_consume_iff (hparser : parser.retainedLen ≤ maxPendingSseResidualBytes) (bytes : Bytes) :
    (parser.consume codec progressUnit bytes).isSome ↔ ∀ front, front <+: bytes →
      (parser.advances front).retainedLen ≤ maxPendingSseResidualBytes := by
  induction bytes generalizing parser with
  | nil =>
    refine iff_of_true rfl fun front hfront => ?_
    rw [List.prefix_nil.mp hfront]
    exact hparser
  | cons byte bytes ih =>
    rcases consumeNext_eq codec progressUnit hparser byte with
      ⟨⟨units, hnext⟩, hbound⟩ | ⟨hnext, hlong⟩
    · have hrest : (parser.consume codec progressUnit (byte :: bytes)).isSome ↔
          ((parser.advance byte).consume codec progressUnit bytes).isSome := by
        simp only [consume, hnext, Option.bind_eq_bind, Option.bind_some, Option.pure_def]
        cases (parser.advance byte).consume codec progressUnit bytes <;> simp
      rw [hrest, ih hbound]
      constructor
      · intro hall front hfront
        rcases List.prefix_cons_iff.mp hfront with rfl | ⟨rest, rfl, hrest⟩
        · exact hparser
        · exact hall rest hrest
      · intro hall front hfront
        exact hall (byte :: front) (List.cons_prefix_cons.mpr ⟨rfl, hfront⟩)
    · have hnone : parser.consume codec progressUnit (byte :: bytes) = none := by
        simp only [consume, hnext, Option.bind_eq_bind, Option.bind_none]
      rw [hnone]
      refine iff_of_false (by decide) fun hall => ?_
      exact absurd (hall [byte] (List.cons_prefix_cons.mpr ⟨rfl, List.nil_prefix⟩))
        (not_le.mpr hlong)

/-- Reading on behind what was read. -/
theorem consume_append {front rest : Bytes} :
    parser.consume codec progressUnit (front ++ rest) = some (units, residual) ↔
      ∃ first next more, parser.consume codec progressUnit front = some (first, next) ∧
        next.consume codec progressUnit rest = some (more, residual) ∧ first + more = units := by
  induction front generalizing parser units with
  | nil =>
    constructor
    · exact fun h => ⟨0, parser, units, rfl, h, Nat.zero_add _⟩
    · rintro ⟨first, next, more, hfirst, hmore, rfl⟩
      obtain ⟨rfl, rfl⟩ := Prod.mk.inj (Option.some.inj hfirst)
      rwa [Nat.zero_add]
  | cons byte front ih =>
    rw [List.cons_append, consume_cons]
    constructor
    · rintro ⟨first, next, more, hfirst, hmore, rfl⟩
      obtain ⟨second, last, rest, hsecond, hlast, rfl⟩ := ih.mp hmore
      exact ⟨first + second, last, rest, consume_cons.mpr ⟨first, next, second, hfirst, hsecond, rfl⟩,
        hlast, by omega⟩
    · rintro ⟨first, next, more, hfirst, hmore, rfl⟩
      obtain ⟨second, last, rest, hsecond, hlast, rfl⟩ := consume_cons.mp hfirst
      exact ⟨second, last, rest + more, hsecond, ih.mpr ⟨rest, next, more, hlast, hmore, rfl⟩, by omega⟩

end SseEventParser

open LlmGuardProxy.Watchdog.SseEventParser

/-- A short body fits. -/
theorem fits_of_length {body : Bytes} (h : body.length ≤ maxPendingSseResidualBytes) : Fits body :=
  fun front hfront => (retainedLen_advances _ front).trans
    ((Nat.zero_add _).trans_le (hfront.length_le.trans h))

/-! ## The observer over the chunks -/

/-- The units of a state. -/
def WatchdogProgressState.units : WatchdogProgressState → ℕ
  | .progress units => units
  | .incomplete | .unobservableOversize => 0

section

variable (codec : JsonCodec) (progressUnit : WatchdogProgressUnit)

/-- The states that the observer reports, chunk by chunk. -/
def observed (parser : WatchdogProgressParser) : List Bytes → List WatchdogProgressState
  | [] => []
  | chunk :: chunks =>
      let next := parser.emittedProgress codec progressUnit chunk
      next.state :: observed next chunks

/-- The units that it reports in all. -/
def totalUnits (parser : WatchdogProgressParser) (chunks : List Bytes) : ℕ :=
  ((observed codec progressUnit parser chunks).map WatchdogProgressState.units).sum

/-- **A body that is a stream**: its framing shows, and where results come as documents, no part of it
is one before that. -/
structure SseBody (body : Bytes) : Prop where
  framed : hasSseFraming body = true
  noDocument : progressUnit = .embedding ∨ progressUnit = .reranker → ∀ front, front <+: body →
    hasSseFraming front = false → codec.fromSlice front = none

/-- What the observer has made of the bytes so far: it waits for the framing, or it has read them. -/
structure Follows (seen : Bytes) (parser : WatchdogProgressParser) (total : ℕ) : Prop where
  observable : parser.state ≠ .unobservableOversize
  reading : (parser.sseFraming = false ∧ parser.pending = seen ∧ parser.sse = {} ∧
      hasSseFraming seen = false ∧ total = 0) ∨
    (parser.sseFraming = true ∧
      ({} : SseEventParser).consume codec progressUnit seen = some (total, parser.sse))

end

section

variable {codec : JsonCodec} {progressUnit : WatchdogProgressUnit} {body seen chunk : Bytes}
  {parser : WatchdogProgressParser} {total : ℕ}

theorem units_progressState (progress : ℕ) : (progressState progress).units = progress := by
  unfold progressState
  split
  · rename_i hzero
    rw [hzero]
    rfl
  · rfl

theorem progressState_ne (progress : ℕ) : progressState progress ≠ .unobservableOversize := by
  unfold progressState
  split <;> nofun

theorem le_residualCap (progressUnit : WatchdogProgressUnit) (pending chunk : Bytes) :
    maxPendingSseResidualBytes ≤ residualCap progressUnit pending chunk := by
  unfold residualCap
  split <;> (try split) <;> decide

/-- What is recorded of a chunk behind the framing. -/
theorem follows_record (hparser : parser.sseFraming = true) {first more : ℕ} {sse : SseEventParser}
    (hseen : ({} : SseEventParser).consume codec progressUnit seen = some (first + more, sse)) :
    Follows codec progressUnit seen (parser.recordSseProgress (some (more, sse)))
      (first + (parser.recordSseProgress (some (more, sse))).state.units) := by
  refine ⟨progressState_ne more, .inr ⟨hparser, ?_⟩⟩
  rw [hseen]
  exact congrArg (fun units => some (first + units, sse)) (units_progressState more).symm

/-- A chunk that the parser can hold is read the same in both ways. -/
theorem emittedSse_eq {more : ℕ} {sse : SseEventParser}
    (h : parser.sse.consume codec progressUnit chunk = some (more, sse)) :
    parser.emittedSse codec progressUnit chunk = parser.recordSseProgress (some (more, sse)) := by
  unfold WatchdogProgressParser.emittedSse
  split
  · rename_i hlarge
    have hempty : parser.sse = {} := of_decide_eq_true hlarge.1
    rw [completeSseProgressWithoutBuffering_eq (hempty ▸ h), recordFastSseProgress_outcome]
  · rw [h]

/-- A body that fits is read as far as one likes. -/
theorem Fits.consume (h : Fits body) (codec : JsonCodec) (progressUnit : WatchdogProgressUnit)
    {front : Bytes} (hfront : front <+: body) :
    ∃ units sse, ({} : SseEventParser).consume codec progressUnit front = some (units, sse) := by
  have hsome : (({} : SseEventParser).consume codec progressUnit front).isSome :=
    (isSome_consume_iff (Nat.zero_le _) front).mpr fun other hother => h other (hother.trans hfront)
  obtain ⟨⟨units, sse⟩, hconsume⟩ := Option.isSome_iff_exists.mp hsome
  exact ⟨units, sse, hconsume⟩

/-- A chunk that does not fit behind what is pending, of a body that shows its framing at once. -/
theorem follows_oversize (hpending : parser.pending = seen) (hunframed : hasSseFraming seen = false)
    (hstart : body.head? = some 0x3A) (hseen : seen ++ chunk <+: body) (hchunk : chunk ≠ [])
    {units : ℕ} {sse : SseEventParser}
    (hconsume : ({} : SseEventParser).consume codec progressUnit (seen ++ chunk) = some (units, sse)) :
    Follows codec progressUnit (seen ++ chunk) (parser.emittedOversize codec progressUnit chunk)
      (0 + (parser.emittedOversize codec progressUnit chunk).state.units) := by
  obtain ⟨rest, rfl⟩ := List.head?_eq_some_iff.mp hstart
  obtain rfl : seen = [] := by
    cases seen with
    | nil => rfl
    | cons byte seen =>
      obtain ⟨rfl, -⟩ := List.cons_prefix_cons.mp hseen
      exact absurd (hasSseFraming_colon seen) (by rw [hunframed]; decide)
  obtain ⟨byte, tail, rfl⟩ := List.exists_cons_of_ne_nil hchunk
  obtain ⟨rfl, -⟩ := List.cons_prefix_cons.mp hseen
  rw [List.nil_append] at hconsume ⊢
  unfold WatchdogProgressParser.emittedOversize
  rw [if_pos hpending, if_pos (hasSseFraming_colon tail),
    completeSseProgressWithoutBuffering_eq hconsume, recordFastSseProgress_outcome]
  exact follows_record rfl (by rw [hconsume, Nat.zero_add])

/-- A chunk behind what is pending. -/
theorem follows_pending (hbody : SseBody codec progressUnit body) (hframing : parser.sseFraming = false)
    (hpending : parser.pending = seen) (hsse : parser.sse = {}) (hseen : seen ++ chunk <+: body)
    {units : ℕ} {sse : SseEventParser}
    (hconsume : ({} : SseEventParser).consume codec progressUnit (seen ++ chunk) = some (units, sse)) :
    Follows codec progressUnit (seen ++ chunk) (parser.emittedPending codec progressUnit chunk)
      (0 + (parser.emittedPending codec progressUnit chunk).state.units) := by
  unfold WatchdogProgressParser.emittedPending
  dsimp only
  rw [hpending, hsse]
  split
  · rw [hconsume]
    exact follows_record rfl (by rw [hconsume, Nat.zero_add])
  · rename_i hframed
    have hstill : hasSseFraming (seen ++ chunk) = false := by simpa using hframed
    have hnone : progressUnit = .embedding ∨ progressUnit = .reranker →
        documentProgress codec progressUnit (seen ++ chunk) = none := fun hunit => by
      rw [documentProgress, hbody.noDocument hunit _ hseen hstill]
      rfl
    cases progressUnit with
    | embedding =>
      simp only [hnone (.inl rfl)]
      exact ⟨nofun, .inl ⟨hframing, rfl, rfl, hstill, rfl⟩⟩
    | reranker =>
      simp only [hnone (.inr rfl)]
      exact ⟨nofun, .inl ⟨hframing, rfl, rfl, hstill, rfl⟩⟩
    | chat => exact ⟨nofun, .inl ⟨hframing, rfl, rfl, hstill, rfl⟩⟩
    | completion => exact ⟨nofun, .inl ⟨hframing, rfl, rfl, hstill, rfl⟩⟩

/-- **One chunk** of a body that fits, and is short or shows its framing at once. -/
theorem Follows.step (hbody : SseBody codec progressUnit body) (hfits : Fits body)
    (hstart : body.length ≤ maxPendingSseResidualBytes ∨ body.head? = some 0x3A)
    (hseen : seen ++ chunk <+: body) (h : Follows codec progressUnit seen parser total) :
    Follows codec progressUnit (seen ++ chunk) (parser.emittedProgress codec progressUnit chunk)
      (total + (parser.emittedProgress codec progressUnit chunk).state.units) := by
  obtain ⟨units, sse, hconsume⟩ := hfits.consume codec progressUnit hseen
  unfold WatchdogProgressParser.emittedProgress
  rw [if_neg h.observable]
  rcases h.reading with ⟨hframing, hpending, hsse, hunframed, rfl⟩ | ⟨hframing, hread⟩
  · rw [hframing, if_neg (by decide), hpending]
    split
    · rename_i hlarge
      have hcap := le_residualCap progressUnit seen chunk
      have hlength := hseen.length_le
      rw [List.length_append] at hlength
      have hchunk : chunk ≠ [] := fun heq => by
        rw [heq] at hlarge
        exact absurd hlarge (Nat.not_lt_zero _)
      exact follows_oversize hpending hunframed (hstart.resolve_left (by omega)) hseen hchunk hconsume
    · exact follows_pending hbody hframing hpending hsse hseen hconsume
  · rw [if_pos hframing]
    obtain ⟨first, next, more, hfirst, hmore, rfl⟩ := consume_append.mp hconsume
    rw [hread] at hfirst
    obtain ⟨rfl, rfl⟩ := Prod.mk.inj (Option.some.inj hfirst)
    rw [emittedSse_eq hmore]
    exact follows_record hframing hconsume

/-- **All chunks**: the observer reports the units of the body, and observes to its end. -/
theorem Follows.run (hbody : SseBody codec progressUnit body) (hfits : Fits body)
    (hstart : body.length ≤ maxPendingSseResidualBytes ∨ body.head? = some 0x3A)
    {chunks : List Bytes} (hchunks : seen ++ chunks.flatten = body)
    (h : Follows codec progressUnit seen parser total) :
    .unobservableOversize ∉ observed codec progressUnit parser chunks ∧
      ∃ sse, ({} : SseEventParser).consume codec progressUnit body =
        some (total + totalUnits codec progressUnit parser chunks, sse) := by
  induction chunks generalizing seen parser total with
  | nil =>
    rw [List.flatten_nil, List.append_nil] at hchunks
    subst hchunks
    refine ⟨nofun, ?_⟩
    rcases h.reading with ⟨-, -, -, hunframed, -⟩ | ⟨-, hread⟩
    · exact absurd hbody.framed (by rw [hunframed]; decide)
    · exact ⟨parser.sse, hread⟩
  | cons chunk chunks ih =>
    rw [List.flatten_cons, ← List.append_assoc] at hchunks
    have hnext := h.step hbody hfits hstart ⟨_, hchunks⟩
    obtain ⟨hobserved, sse, hread⟩ := ih hchunks hnext
    refine ⟨fun hin => ?_, sse, ?_⟩
    · rcases List.mem_cons.mp hin with hfirst | hrest
      · exact hnext.observable hfirst.symm
      · exact hobserved hrest
    · rw [hread, Nat.add_assoc]
      rfl

/-! ## Cuts that hide the framing -/

theorem residualCap_of_framed (progressUnit : WatchdogProgressUnit) (pending : Bytes)
    (h : hasSseFraming chunk = true) :
    residualCap progressUnit pending chunk = maxPendingSseResidualBytes := by
  unfold residualCap
  rw [h]
  cases progressUnit <;> simp

theorem hasSseFraming_nil : hasSseFraming [] = false := by
  rw [hasSseFraming, if_pos rfl]

/-- Bytes without a framing wait, or are too many. -/
theorem waits_of_unframed (hbody : SseBody codec progressUnit body) {front : Bytes}
    (hfront : front <+: body) (hunframed : hasSseFraming front = false) :
    (({} : WatchdogProgressParser).emittedProgress codec progressUnit front).state =
        .unobservableOversize ∨
      ∃ state, state ≠ .unobservableOversize ∧
        ({} : WatchdogProgressParser).emittedProgress codec progressUnit front =
          { pending := front, state := state } := by
  have hdocument : progressUnit = .embedding ∨ progressUnit = .reranker →
      documentProgress codec progressUnit front = none := fun hunit => by
    rw [documentProgress, hbody.noDocument hunit front hfront hunframed]
    rfl
  unfold WatchdogProgressParser.emittedProgress
  rw [if_neg (by decide), if_neg (by decide)]
  split
  · unfold WatchdogProgressParser.emittedOversize
    rw [if_pos rfl, hunframed, if_neg (by decide)]
    left
    cases progressUnit with
    | embedding => simp only [completeProgressWithoutBuffering, hdocument (.inl rfl)]; rfl
    | reranker => simp only [completeProgressWithoutBuffering, hdocument (.inr rfl)]; rfl
    | chat => rfl
    | completion => rfl
  · unfold WatchdogProgressParser.emittedPending
    dsimp only
    rw [List.nil_append, hunframed, if_neg (by decide)]
    right
    cases progressUnit with
    | embedding => exact ⟨.incomplete, nofun, by simp only [hdocument (.inl rfl)]⟩
    | reranker => exact ⟨.incomplete, nofun, by simp only [hdocument (.inr rfl)]⟩
    | chat => exact ⟨.incomplete, nofun, rfl⟩
    | completion => exact ⟨.incomplete, nofun, rfl⟩

/-- **A cut in front of the colon that shows the framing**, when more than the bound follows. -/
theorem oversize_of_cut (hbody : SseBody codec progressUnit body) {front rest : Bytes}
    (hfront : front ≠ []) (hunframed : hasSseFraming front = false) (hsplit : body = front ++ 0x3A :: rest)
    (hlong : maxPendingSseResidualBytes < body.length) :
    .unobservableOversize ∈ observed codec progressUnit {} [front, 0x3A :: rest] := by
  simp only [observed]
  rcases waits_of_unframed hbody ⟨_, hsplit.symm⟩ hunframed with hoversize | ⟨state, hstate, hwaits⟩
  · rw [hoversize]
    exact List.mem_cons_self
  · refine List.mem_cons_of_mem _ (List.mem_cons.mpr (.inl ?_))
    rw [hsplit, List.length_append, List.length_cons] at hlong
    have hlarge : residualCap progressUnit front (0x3A :: rest) - front.length <
        (0x3A :: rest).length := by
      rw [residualCap_of_framed progressUnit front (hasSseFraming_colon rest), List.length_cons]
      omega
    rw [hwaits]
    unfold WatchdogProgressParser.emittedProgress
    rw [if_neg hstate, if_neg Bool.false_ne_true, if_pos hlarge]
    unfold WatchdogProgressParser.emittedOversize
    rw [if_neg hfront]
    rfl

/-- Where the observer gets through byte by byte, the parser can hold what it reads. -/
theorem isSome_consume_of_observed (hframing : parser.sseFraming = true) {bytes : Bytes}
    (hstate : parser.state ≠ .unobservableOversize)
    (h : .unobservableOversize ∉ observed codec progressUnit parser (bytes.map ([·]))) :
    (parser.sse.consume codec progressUnit bytes).isSome := by
  induction bytes generalizing parser with
  | nil => rfl
  | cons byte bytes ih =>
    have hemitted : parser.emittedProgress codec progressUnit [byte] =
        parser.recordSseProgress (parser.sse.consume codec progressUnit [byte]) := by
      unfold WatchdogProgressParser.emittedProgress WatchdogProgressParser.emittedSse
      rw [if_neg hstate, if_pos hframing, if_neg fun hlarge => absurd hlarge.2 ?_]
      exact of_decide_eq_false rfl
    simp only [List.map_cons, observed, hemitted, List.mem_cons, not_or] at h
    cases hconsume : parser.sse.consume codec progressUnit [byte] with
    | none =>
      rw [hconsume] at h
      exact absurd rfl h.1
    | some result =>
      obtain ⟨units, sse⟩ := result
      rw [hconsume] at h
      have hnext : (parser.recordSseProgress (some (units, sse))).sseFraming = true := hframing
      have hrest := ih hnext (Ne.symm h.1) h.2
      obtain ⟨⟨more, last⟩, hlast⟩ := Option.isSome_iff_exists.mp hrest
      have hall := consume_append.mpr ⟨units, sse, more, hconsume, hlast, rfl⟩
      rw [List.singleton_append] at hall
      rw [hall]
      rfl

/-- A colon shows the framing. -/
theorem emittedProgress_colon :
    ({} : WatchdogProgressParser).emittedProgress codec progressUnit [0x3A] =
      { sse := { line := [0x3A] }, sseFraming := true } := by
  have hcap := le_residualCap progressUnit [] [0x3A]
  have hbound : 1 ≤ maxPendingSseResidualBytes := by decide
  unfold WatchdogProgressParser.emittedProgress
  rw [if_neg (by decide), if_neg (by decide), if_neg (by
    simp only [List.length_nil, List.length_singleton, Nat.sub_zero]
    omega)]
  unfold WatchdogProgressParser.emittedPending
  dsimp only
  rw [List.nil_append, if_pos (hasSseFraming_colon [])]
  rfl

/-- The units of a stream within the bounds are those of its reading, in whatever way it is cut. -/
theorem totalUnits_of_consume (hbody : SseBody codec progressUnit body)
    (hcond : body.length ≤ maxPendingSseResidualBytes ∨ body.head? = some 0x3A ∧ Fits body)
    {units : ℕ} {sse : SseEventParser}
    (hread : ({} : SseEventParser).consume codec progressUnit body = some (units, sse))
    {chunks : List Bytes} (hchunks : chunks.flatten = body) :
    totalUnits codec progressUnit {} chunks = units ∧
      .unobservableOversize ∉ observed codec progressUnit {} chunks := by
  have hfits : Fits body := hcond.elim fits_of_length And.right
  have hinitial : Follows codec progressUnit [] {} 0 :=
    ⟨nofun, .inl ⟨rfl, rfl, rfl, hasSseFraming_nil, rfl⟩⟩
  obtain ⟨hobserved, last, htotal⟩ := hinitial.run hbody hfits (hcond.imp_right And.left) hchunks
  rw [hread, Nat.zero_add] at htotal
  exact ⟨(Prod.mk.inj (Option.some.inj htotal)).1.symm, hobserved⟩

/-- **Which streams have the same progress in whatever way they are cut**: those within the bound as a
whole, and those that start with a colon, so that their framing shows at once, and fit. -/
theorem progress_independent_iff (hbody : SseBody codec progressUnit body) :
    (∃ total, ∀ chunks : List Bytes, chunks.flatten = body →
      totalUnits codec progressUnit {} chunks = total ∧
        .unobservableOversize ∉ observed codec progressUnit {} chunks) ↔
    body.length ≤ maxPendingSseResidualBytes ∨ body.head? = some 0x3A ∧ Fits body := by
  constructor
  · rintro ⟨total, hall⟩
    by_cases hshort : body.length ≤ maxPendingSseResidualBytes
    · exact .inl hshort
    · obtain ⟨front, rest, rfl, hunframed⟩ := exists_colon_of_hasSseFraming hbody.framed
      obtain rfl : front = [] := by
        by_contra hfront
        exact (hall [front, 0x3A :: rest] (by simp)).2
          (oversize_of_cut hbody hfront hunframed rfl (not_le.mp hshort))
      refine .inr ⟨rfl, ?_⟩
      have hcut : ([0x3A] :: rest.map ([·])).flatten = [] ++ 0x3A :: rest := by
        rw [List.flatten_cons, ← List.flatMap_def, List.flatMap_singleton']
        rfl
      have hobserved := (hall _ hcut).2
      simp only [observed, emittedProgress_colon, List.mem_cons, not_or] at hobserved
      have hrest := isSome_consume_of_observed rfl (Ne.symm hobserved.1) hobserved.2
      obtain ⟨⟨more, last⟩, hlast⟩ := Option.isSome_iff_exists.mp hrest
      have hread : ({} : SseEventParser).consume codec progressUnit ([0x3A] ++ rest) =
          some (0 + more, last) := consume_append.mpr ⟨0, _, more, rfl, hlast, rfl⟩
      exact (isSome_consume_iff (Nat.zero_le _) _).mp (Option.isSome_of_mem hread)
  · intro hcond
    have hfits : Fits body := hcond.elim fits_of_length And.right
    obtain ⟨units, sse, hread⟩ := hfits.consume codec progressUnit (List.prefix_refl body)
    exact ⟨units, fun chunks hchunks => totalUnits_of_consume hbody hcond hread hchunks⟩

/-- The data line of one word, and blank lines behind it. -/
def wordThenBlankLines (n : ℕ) : Bytes :=
  utf8 "data: \x7b\"choices\":[\x7b\"text\":\"a\"\x7d]\x7d" ++ List.replicate n 0x0A

/-- Blank lines leave no more than there was. -/
theorem retainedLen_advances_replicate (parser : SseEventParser) (n : ℕ) :
    (parser.advances (List.replicate n 0x0A)).retainedLen ≤ parser.retainedLen := by
  induction n generalizing parser with
  | zero => exact le_rfl
  | succ n ih =>
    have hfirst : (parser.advance 0x0A).retainedLen ≤ parser.retainedLen := by
      unfold advance
      dsimp only
      split
      · exact le_rfl
      · rw [if_neg (by decide), if_pos rfl]
        exact retainedLen_endLine _
    exact (ih _).trans hfirst

theorem fits_wordThenBlankLines (n : ℕ) : Fits (wordThenBlankLines n) := by
  have hword : ∀ front, front <+: utf8 "data: \x7b\"choices\":[\x7b\"text\":\"a\"\x7d]\x7d" →
      (({} : SseEventParser).advances front).retainedLen ≤ maxPendingSseResidualBytes :=
    fits_of_length (by decide)
  rintro front ⟨tail, hfront⟩
  rcases List.append_eq_append_iff.mp hfront with ⟨rest, hin, -⟩ | ⟨rest, rfl, hrest⟩
  · exact hword front ⟨rest, hin.symm⟩
  · obtain ⟨m, rfl⟩ : ∃ m, rest = List.replicate m 0x0A :=
      ⟨rest.length, List.eq_replicate_of_mem fun byte hbyte =>
        List.eq_of_mem_replicate (hrest ▸ List.mem_append_left _ hbyte)⟩
    unfold advances
    rw [List.foldl_append]
    exact (retainedLen_advances_replicate _ m).trans (hword _ (List.prefix_refl _))

theorem consume_replicate (n : ℕ) :
    ({} : SseEventParser).consume codec progressUnit (List.replicate n 0x0A) = some (0, {}) := by
  induction n with
  | zero => rfl
  | succ n ih => exact consume_cons.mpr ⟨0, {}, 0, rfl, ih, rfl⟩

theorem WithinBounds.of_fits {body : Bytes} (h : Fits body) : WithinBounds body := fun front hfront =>
  ⟨(Nat.le_add_right _ _).trans (h front hfront), (Nat.le_add_left _ _).trans (h front hfront)⟩

/-- The word is one unit, and nothing is left behind the blank lines. -/
theorem consume_wordThenBlankLines (n : ℕ) :
    ({} : SseEventParser).consume oneWordCodec .completion (wordThenBlankLines (n + 2)) =
      some (1, {}) := by
  have hword : ({} : SseEventParser).consume oneWordCodec .completion
      (utf8 "data: \x7b\"choices\":[\x7b\"text\":\"a\"\x7d]\x7d" ++ [0x0A, 0x0A]) = some (1, {}) := by
    decide
  unfold wordThenBlankLines
  rw [Nat.add_comm, ← List.replicate_append_replicate, ← List.append_assoc]
  exact consume_append.mpr ⟨1, {}, 0, hword, consume_replicate n, rfl⟩

theorem sseBody_wordThenBlankLines (n : ℕ) :
    SseBody oneWordCodec .completion (wordThenBlankLines n) :=
  ⟨(hasSseFraming_iff _).mpr ⟨[], _, rfl, nofun, utf8 "data:", by decide, _, rfl⟩,
    fun hunit => by rcases hunit with h | h <;> cases h⟩

/-- One word is one unit, however it is cut. -/
theorem progress_independent_word :
    (wordThenBlankLines 2).length ≤ maxPendingSseResidualBytes ∧
      ∀ chunks : List Bytes, chunks.flatten = wordThenBlankLines 2 →
        totalUnits oneWordCodec .completion {} chunks = 1 ∧
          .unobservableOversize ∉ observed oneWordCodec .completion {} chunks := by
  have hbody := sseBody_wordThenBlankLines 2
  have hshort : (wordThenBlankLines 2).length ≤ maxPendingSseResidualBytes := by decide
  obtain ⟨total, hall⟩ := (progress_independent_iff hbody).mpr (.inl hshort)
  have hwhole := totalUnits_of_consume hbody (.inl hshort) (consume_wordThenBlankLines 0)
    List.flatten_singleton
  obtain rfl : 1 = total := hwhole.1.symm.trans (hall _ List.flatten_singleton).1
  exact ⟨hshort, hall⟩

theorem length_wordThenBlankLines (n : ℕ) : (wordThenBlankLines n).length = 32 + n := by
  unfold wordThenBlankLines
  rw [List.length_append, List.length_replicate]
  rfl

/-- As a whole it is observed. -/
theorem observed_wordThenBlankLines {n : ℕ}
    (hlong : maxPendingSseResidualBytes < (wordThenBlankLines (n + 2)).length) :
    observed oneWordCodec .completion {} [wordThenBlankLines (n + 2)] = [.progress 1] := by
  have hcap : residualCap .completion ({} : WatchdogProgressParser).pending
      (wordThenBlankLines (n + 2)) - ({} : WatchdogProgressParser).pending.length <
      (wordThenBlankLines (n + 2)).length := hlong
  simp only [observed]
  unfold WatchdogProgressParser.emittedProgress
  rw [if_neg (by decide), if_neg (by decide), if_pos hcap]
  unfold WatchdogProgressParser.emittedOversize
  rw [if_pos rfl, if_pos (sseBody_wordThenBlankLines _).framed,
    completeSseProgressWithoutBuffering_eq (consume_wordThenBlankLines n)]
  rfl

theorem hasSseFraming_data : hasSseFraming (utf8 "data") = false := by
  have hany : framingNames.any (·.isPrefixOf (utf8 "data")) = false := by decide
  have hnext : nextSseLine (utf8 "data") = none := by decide
  rw [hasSseFraming, if_neg (by decide), hany, if_neg (by decide)]
  split
  · rfl
  · rename_i hsome
    rw [hnext] at hsome
    cases hsome

/-- **A cut inside the name of the first field** makes a stream of one word and blank lines, which is
observed as a whole, unobservable. -/
theorem cut_in_name_hides_stream :
    WithinBounds (wordThenBlankLines 65536) ∧
      SseBody oneWordCodec .completion (wordThenBlankLines 65536) ∧
      observed oneWordCodec .completion {} [wordThenBlankLines 65536] = [.progress 1] ∧
      ∃ rest, utf8 "data" ++ rest = wordThenBlankLines 65536 ∧
        .unobservableOversize ∈ observed oneWordCodec .completion {} [utf8 "data", rest] := by
  have hlong : maxPendingSseResidualBytes < (wordThenBlankLines 65536).length := by
    rw [length_wordThenBlankLines]
    decide
  have hbody := sseBody_wordThenBlankLines 65536
  have hsplit : ∃ rest, wordThenBlankLines 65536 = utf8 "data" ++ 0x3A :: rest := ⟨_, rfl⟩
  obtain ⟨rest, hsplit⟩ := hsplit
  exact ⟨.of_fits (fits_wordThenBlankLines _), hbody, observed_wordThenBlankLines hlong,
    0x3A :: rest, hsplit.symm, oversize_of_cut hbody (by decide) hasSseFraming_data hsplit hlong⟩

end

end LlmGuardProxy.Watchdog
