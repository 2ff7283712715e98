import LlmGuardProxy.Settings.Source

/-!
# Settings/Publish — reloading a configuration that is published by replacement

The configuration path is only ever made to lead to another complete, valid file, which nobody modifies.  A
file of that kind may have the device and the inode of an earlier one that nothing refers to any more.  A poll
takes such a file for the earlier one, modified in place, when it observed nothing else in between.

* `finish_eq` — a poll here ends as a reload among modified files does.
* `PollInv.step` — what a poll has seen when the path did not change.
* `published_picked_up_iff` — when every poll picks up what is published.
-/

namespace LlmGuardProxy.Settings

open Machinery

variable {Config : Type*} {hooks : ReloadHooks Config}

/-! ## The machine -/

/-- A file that can be published: it loads, and it is never modified. -/
structure ConfigFile (hooks : ReloadHooks Config) where
  id : Identity
  version : Version
  requested : Config
  valid : hooks.load version.content = some requested

/-- The metadata of a published file. -/
def ConfigFile.generation (file : ConfigFile hooks) : SourceGeneration :=
  generationOf file.id file.version

/-- What a poll has done so far, as in `ReloadPhase`. -/
inductive PollPhase (hooks : ReloadHooks Config) where
  | idle
  | opened (fd : ConfigFile hooks)
  | reading (fd : ConfigFile hooks) (before : SourceGeneration) (contents : Bytes)
  | captured (fd : ConfigFile hooks) (before : SourceGeneration) (contents : Bytes)
  | checked (fd : ConfigFile hooks) (before after : SourceGeneration) (contents : Bytes)

/-- The file that is open. -/
def PollPhase.fd : PollPhase hooks → Option (ConfigFile hooks)
  | .idle => none
  | .opened fd | .reading fd _ _ | .captured fd _ _ | .checked fd _ _ _ => some fd

/-- How a poll ends: the error of `load_reload_config`, or the requested configuration, which is rejected
by the live one or applied to it. -/
inductive PollOutcome (Config : Type*) where
  | unstableGeneration
  | inPlaceUpdate
  | notLoaded
  | rejected (requested : Config)
  | applied (requested live : Config)
  deriving DecidableEq

/-- The report of a poll: whether the path stayed during it, and what it led to at its end. -/
structure PollReport (hooks : ReloadHooks Config) where
  quiet : Bool
  published : ConfigFile hooks
  outcome : PollOutcome Config

/-- A configuration manager, and the published file; none before the first one is published. -/
structure PublishState (hooks : ReloadHooks Config) where
  published : Option (ConfigFile hooks)
  live : Config
  observed : Option SourceGeneration
  phase : PollPhase hooks := .idle
  quiet : Bool := true
  reports : List (PollReport hooks) := []

/-- The end of `read_stable_source`, of `load_reload_config` and of `reload`: the outcome, and the generation
that is observed. -/
def pollOutcome (hooks : ReloadHooks Config) (live : Config) (observed : Option SourceGeneration)
    (before after published : SourceGeneration) (contents : Bytes) :
    PollOutcome Config × Option SourceGeneration :=
  if before ≠ after ∨ after ≠ published then
    (.unstableGeneration, some (if before.sameIdentity published then before else published))
  else if observed.any fun observed => observed.sameIdentity published && observed != published then
    (.inPlaceUpdate, observed)
  else
    let observed :=
      if observed.all fun observed => !observed.sameIdentity published then some published else observed
    match hooks.load contents with
    | none => (.notLoaded, observed)
    | some requested =>
        match hooks.install live requested with
        | none => (.rejected requested, observed)
        | some live => (.applied requested live, observed)

/-- The live configuration after a poll. -/
def PollOutcome.liveAfter (outcome : PollOutcome Config) (live : Config) : Config :=
  match outcome with
  | .applied _ live => live
  | _ => live

/-- **A poll ends as a reload among modified files does.** -/
theorem finish_eq (state : ReloadState Config) (fd : Identity) (before : SourceGeneration)
    (since : List Version) (after : SourceGeneration) (contents : Bytes)
    (published : SourceGeneration) :
    (state.finish hooks fd before since after contents published).observed =
        (pollOutcome hooks state.live state.observed before after published contents).2 ∧
      (state.finish hooks fd before since after contents published).live =
        (pollOutcome hooks state.live state.observed before after published contents).1.liveAfter
          state.live := by
  grind [ReloadState.finish, ReloadState.finishStable, ReloadState.observe, pollOutcome,
    PollOutcome.liveAfter]

/-- What may happen: the path is made to lead to another file, and the steps of a poll, each of which may
fail.  The change time of a file that the path does not lead to any more is the answer of the system. -/
inductive PublishAction (hooks : ReloadHooks Config) where
  | publish (file : ConfigFile hooks)
  | openSource
  | statBefore (changed : ℤ × ℤ)
  | readChunk (more : ℕ)
  | statAfter (changed : ℤ × ℤ)
  | statPath
  | fail

namespace PublishState

/-- The metadata of the open file. -/
def statOpen (state : PublishState hooks) (fd : ConfigFile hooks) (changed : ℤ × ℤ) :
    SourceGeneration :=
  if state.published.any (·.id == fd.id) then fd.generation
  else generationOf fd.id { fd.version with changed }

/-- One step.  A file can be published under an identity that neither the published nor the open file has. -/
def step (state : PublishState hooks) : PublishAction hooks → Option (PublishState hooks)
  | .publish file =>
      if (state.published.any (·.id == file.id)) || (state.phase.fd.any (·.id == file.id)) then none
      else some { state with published := some file, quiet := false }
  | .openSource =>
      match state.phase, state.published with
      | .idle, some file => some { state with phase := .opened file, quiet := true }
      | _, _ => none
  | .statBefore changed =>
      match state.phase with
      | .opened fd => some { state with phase := .reading fd (state.statOpen fd changed) [] }
      | _ => none
  | .readChunk more =>
      match state.phase with
      | .reading fd before contents =>
          let chunk := (fd.version.content.drop contents.length).take (more + 1)
          if chunk = [] then some { state with phase := .captured fd before contents }
          else some { state with phase := .reading fd before (contents ++ chunk) }
      | _ => none
  | .statAfter changed =>
      match state.phase with
      | .captured fd before contents =>
          some { state with phase := .checked fd before (state.statOpen fd changed) contents }
      | _ => none
  | .statPath =>
      match state.phase, state.published with
      | .checked _ before after contents, some file =>
          let (outcome, observed) :=
            pollOutcome hooks state.live state.observed before after file.generation contents
          some { state with
            phase := .idle
            live := outcome.liveAfter state.live
            observed
            reports := ⟨state.quiet, file, outcome⟩ :: state.reports }
      | _, _ => none
  | .fail =>
      match state.phase with
      | .idle => none
      | _ => some { state with phase := .idle }

/-- The manager after `load_initial_config`: it observed the file that the path led to, if there was one. -/
def started (published : Option (ConfigFile hooks)) (live : Config) : PublishState hooks where
  published
  live
  observed := published.map (·.generation)

end PublishState

/-- The machine of the publisher and the manager. -/
def publishMachine (hooks : ReloadHooks Config) : Machine (PublishState hooks) (PublishAction hooks) :=
  ⟨PublishState.step⟩

/-! ## What a poll has seen -/

variable {state next : PublishState hooks} {fd file : ConfigFile hooks}

/-- The open file is the published one, or the path changed and leads to a file of another identity. -/
def Held (state : PublishState hooks) (fd : ConfigFile hooks) : Prop :=
  if state.quiet then state.published = some fd
  else ∃ file, state.published = some file ∧ file.id ≠ fd.id

/-- Metadata of the open file: of its identity, and its own as long as the path stayed. -/
def Stat (state : PublishState hooks) (fd : ConfigFile hooks) (generation : SourceGeneration) : Prop :=
  (state.quiet = true → generation = fd.generation) ∧
    ∃ version, generation = generationOf fd.id version

/-- What a poll has seen so far. -/
def PollInv (state : PublishState hooks) : Prop :=
  match state.phase with
  | .idle => True
  | .opened fd => Held state fd
  | .reading fd before contents =>
      Held state fd ∧ Stat state fd before ∧ contents <+: fd.version.content
  | .captured fd before contents =>
      Held state fd ∧ Stat state fd before ∧ contents = fd.version.content
  | .checked fd before after contents =>
      Held state fd ∧ Stat state fd before ∧ Stat state fd after ∧ contents = fd.version.content

theorem stat_statOpen (h : Held state fd) (changed : ℤ × ℤ) :
    Stat state fd (state.statOpen fd changed) := by
  unfold PublishState.statOpen
  constructor
  · intro hquiet
    rw [Held, if_pos hquiet] at h
    simp [h]
  · split
    case isTrue => exact ⟨_, rfl⟩
    case isFalse => exact ⟨_, rfl⟩

/-- The path is made to lead to another file. -/
theorem PollInv.publish (h : PollInv state)
    (hnew : state.phase.fd.any (·.id == file.id) = false) :
    PollInv { state with published := some file, quiet := false } := by
  have hheld : ∀ fd, state.phase.fd = some fd →
      Held { state with published := some file, quiet := false } fd := by
    intro fd hfd
    rw [hfd] at hnew
    exact ⟨file, rfl, fun heq => by simp [heq] at hnew⟩
  have hstat : ∀ {fd generation}, Stat state fd generation →
      Stat { state with published := some file, quiet := false } fd generation :=
    fun hstat => ⟨by simp, hstat.2⟩
  unfold PollInv at h ⊢
  cases hphase : state.phase with
  | idle => trivial
  | opened fd => exact hheld fd (by rw [hphase]; rfl)
  | reading fd before contents =>
    rw [hphase] at h
    exact ⟨hheld fd (by rw [hphase]; rfl), hstat h.2.1, h.2.2⟩
  | captured fd before contents =>
    rw [hphase] at h
    exact ⟨hheld fd (by rw [hphase]; rfl), hstat h.2.1, h.2.2⟩
  | checked fd before after contents =>
    rw [hphase] at h
    exact ⟨hheld fd (by rw [hphase]; rfl), hstat h.2.1, hstat h.2.2.1, h.2.2.2⟩

/-- One read: the file never changes. -/
theorem prefix_of_readChunk {contents content : Bytes} (h : contents <+: content) (more : ℕ) :
    ((content.drop contents.length).take (more + 1) = [] → contents = content) ∧
      contents ++ (content.drop contents.length).take (more + 1) <+: content := by
  obtain ⟨rest, rfl⟩ := h
  rw [List.drop_left]
  constructor
  · intro hempty
    have hrest : rest = [] := by
      cases rest with
      | nil => rfl
      | cons b rest => simp at hempty
    rw [hrest, List.append_nil]
  · exact List.prefix_append_right_inj contents |>.mpr (List.take_prefix _ _)

/-- **A poll sees the published file**, whatever else happens, as long as the path stays. -/
theorem PollInv.step (h : PollInv state) {action : PublishAction hooks}
    (hstep : state.step action = some next) : PollInv next := by
  cases action with
  | publish file =>
    dsimp only [PublishState.step] at hstep
    split at hstep
    case isTrue => cases hstep
    case isFalse hnew =>
      obtain rfl := Option.some.inj hstep
      rw [Bool.or_eq_true, not_or] at hnew
      exact h.publish (by simpa using hnew.2)
  | openSource =>
    dsimp only [PublishState.step] at hstep
    split at hstep
    case h_1 file hphase hpublished =>
      obtain rfl := Option.some.inj hstep
      exact hpublished
    case h_2 => cases hstep
  | statBefore changed =>
    dsimp only [PublishState.step] at hstep
    split at hstep
    case h_1 fd hphase =>
      obtain rfl := Option.some.inj hstep
      rw [PollInv, hphase] at h
      exact ⟨h, stat_statOpen h changed, List.nil_prefix⟩
    case h_2 => cases hstep
  | readChunk more =>
    dsimp only [PublishState.step] at hstep
    split at hstep
    case h_1 fd before contents hphase =>
      rw [PollInv, hphase] at h
      obtain ⟨hheld, hstat, hprefix⟩ := h
      obtain ⟨hall, hmore⟩ := prefix_of_readChunk hprefix more
      split at hstep
      case isTrue hempty =>
        obtain rfl := Option.some.inj hstep
        exact ⟨hheld, hstat, hall hempty⟩
      case isFalse =>
        obtain rfl := Option.some.inj hstep
        exact ⟨hheld, hstat, hmore⟩
    case h_2 => cases hstep
  | statAfter changed =>
    dsimp only [PublishState.step] at hstep
    split at hstep
    case h_1 fd before contents hphase =>
      obtain rfl := Option.some.inj hstep
      rw [PollInv, hphase] at h
      obtain ⟨hheld, hstat, hcontents⟩ := h
      exact ⟨hheld, hstat, stat_statOpen hheld changed, hcontents⟩
    case h_2 => cases hstep
  | statPath =>
    dsimp only [PublishState.step] at hstep
    split at hstep
    case h_1 =>
      obtain rfl := Option.some.inj hstep
      trivial
    case h_2 => cases hstep
  | fail =>
    dsimp only [PublishState.step] at hstep
    split at hstep
    case h_1 => cases hstep
    case h_2 =>
      obtain rfl := Option.some.inj hstep
      trivial

/-! ## The end of a poll -/

/-- The poll applied the published configuration, or reported why the live one rejects it. -/
def PollReport.PicksUp (report : PollReport hooks) : Prop :=
  report.outcome = .rejected report.published.requested ∨
    ∃ live, report.outcome = .applied report.published.requested live

/-- The generation that was observed last is that of another file with the device and the inode of the
published one. -/
def Mistaken (state : PublishState hooks) : Prop :=
  ∃ file ∈ state.published, ∃ observed ∈ state.observed,
    observed.sameIdentity file.generation = true ∧ observed ≠ file.generation

theorem mistaken_iff (h : state.published = some file) :
    Mistaken state ↔
      state.observed.any (fun o => o.sameIdentity file.generation && o != file.generation) = true := by
  unfold Mistaken
  cases state.observed with
  | none => simp
  | some o => simp [h]

/-- A poll during which the path stayed loads the file, unless it was observed as another one. -/
theorem pollOutcome_of_quiet (live : Config) (observed : Option SourceGeneration)
    (file : ConfigFile hooks) :
    let result := pollOutcome hooks live observed file.generation file.generation file.generation
      file.version.content
    (observed.any (fun o => o.sameIdentity file.generation && o != file.generation) = true ∧
        result = (.inPlaceUpdate, observed)) ∨
      (observed.any (fun o => o.sameIdentity file.generation && o != file.generation) = false ∧
        (result.1 = .rejected file.requested ∨ ∃ live, result.1 = .applied file.requested live) ∧
        result.2 = some file.generation) := by
  intro result
  have hresult : result = pollOutcome hooks live observed file.generation file.generation
    file.generation file.version.content := rfl
  unfold pollOutcome at hresult
  rw [if_neg (by simp), file.valid] at hresult
  cases hstale : observed.any (fun o => o.sameIdentity file.generation && o != file.generation) with
  | true =>
    rw [if_pos hstale] at hresult
    exact .inl ⟨rfl, hresult⟩
  | false =>
    rw [if_neg (by simp [hstale])] at hresult
    have hobserved : (if observed.all fun o => !o.sameIdentity file.generation then
        some file.generation else observed) = some file.generation := by
      split
      case isTrue => rfl
      case isFalse hseen =>
        cases observed with
        | none => simp at hseen
        | some o => simp_all
    refine .inr ⟨rfl, ?_⟩
    rw [hresult]
    dsimp only
    rw [hobserved]
    cases hooks.install live file.requested with
    | none => exact ⟨.inl rfl, rfl⟩
    | some live => exact ⟨.inr ⟨live, rfl⟩, rfl⟩

/-- A poll during which the path changed observes the file that it leads to. -/
theorem pollOutcome_of_moved (live : Config) (observed : Option SourceGeneration)
    {before after : SourceGeneration} {contents : Bytes} (hid : file.id ≠ fd.id)
    (hbefore : ∃ version, before = generationOf fd.id version)
    (hafter : ∃ version, after = generationOf fd.id version) :
    (pollOutcome hooks live observed before after file.generation contents).2 =
      some file.generation := by
  obtain ⟨v, rfl⟩ := hbefore
  obtain ⟨w, rfl⟩ := hafter
  have hne : ∀ version, (generationOf fd.id version).sameIdentity file.generation = false := by
    intro version
    rw [Bool.eq_false_iff, Ne, ConfigFile.generation, sameIdentity_generationOf]
    exact fun heq => hid heq.symm
  have hunstable : generationOf fd.id w ≠ file.generation := by
    intro heq
    have hself := hne w
    rw [heq, ConfigFile.generation, Bool.eq_false_iff, Ne, sameIdentity_generationOf] at hself
    exact hself rfl
  unfold pollOutcome
  rw [if_pos (.inr hunstable), hne v]
  rfl

/-- **All that the end of a poll can do**: a poll during which the path stayed picks up the published file or
mistakes it for another one; any other one observes the published file. -/
theorem statPath_cases (h : PollInv state) (hstep : state.step .statPath = some next) :
    ∃ file outcome, state.published = some file ∧ next.published = some file ∧
      next.reports = ⟨state.quiet, file, outcome⟩ :: state.reports ∧
      ((state.quiet = true ∧ Mistaken state ∧ outcome = .inPlaceUpdate ∧
          next.observed = state.observed) ∨
        (¬ (state.quiet = true ∧ Mistaken state) ∧ next.observed = some file.generation ∧
          (state.quiet = true → PollReport.PicksUp ⟨true, file, outcome⟩))) := by
  dsimp only [PublishState.step] at hstep
  split at hstep
  case h_2 => cases hstep
  case h_1 fd before after contents file hphase hpublished =>
    obtain rfl := Option.some.inj hstep
    rw [PollInv, hphase] at h
    obtain ⟨hheld, hbefore, hafter, hcontents⟩ := h
    refine ⟨file, _, hpublished, hpublished, rfl, ?_⟩
    cases hquiet : state.quiet with
    | true =>
      rw [Held, if_pos hquiet, hpublished] at hheld
      obtain rfl := Option.some.inj hheld
      rw [hbefore.1 hquiet, hafter.1 hquiet, hcontents, mistaken_iff hpublished]
      rcases pollOutcome_of_quiet state.live state.observed file with ⟨hany, hresult⟩ |
        ⟨hany, hpicked, hobserved⟩
      · rw [hresult]
        exact .inl ⟨rfl, hany, rfl, rfl⟩
      · exact .inr ⟨by simp [hany], hobserved, fun _ => hpicked⟩
    | false =>
      rw [Held, hquiet] at hheld
      obtain ⟨moved, hmoved, hid⟩ := hheld
      rw [hpublished] at hmoved
      obtain rfl := Option.some.inj hmoved
      exact .inr ⟨by simp, pollOutcome_of_moved _ _ hid hbefore.2 hafter.2, by simp⟩

/-- The other steps report and observe nothing, and only a publication changes what is published. -/
theorem step_keeps {action : PublishAction hooks} (hstep : state.step action = some next)
    (hend : action ≠ .statPath) :
    next.reports = state.reports ∧ next.observed = state.observed ∧
      (next.published = state.published ∨
        ∃ file, action = .publish file ∧ next.published = some file) := by
  cases action with
  | publish file =>
    dsimp only [PublishState.step] at hstep
    split at hstep
    case isTrue => cases hstep
    case isFalse =>
      obtain rfl := Option.some.inj hstep
      exact ⟨rfl, rfl, .inr ⟨file, rfl, rfl⟩⟩
  | openSource =>
    dsimp only [PublishState.step] at hstep
    split at hstep
    case h_1 =>
      obtain rfl := Option.some.inj hstep
      exact ⟨rfl, rfl, .inl rfl⟩
    case h_2 => cases hstep
  | statBefore changed =>
    dsimp only [PublishState.step] at hstep
    split at hstep
    case h_1 =>
      obtain rfl := Option.some.inj hstep
      exact ⟨rfl, rfl, .inl rfl⟩
    case h_2 => cases hstep
  | readChunk more =>
    dsimp only [PublishState.step] at hstep
    split at hstep
    case h_1 =>
      split at hstep
      case isTrue =>
        obtain rfl := Option.some.inj hstep
        exact ⟨rfl, rfl, .inl rfl⟩
      case isFalse =>
        obtain rfl := Option.some.inj hstep
        exact ⟨rfl, rfl, .inl rfl⟩
    case h_2 => cases hstep
  | statAfter changed =>
    dsimp only [PublishState.step] at hstep
    split at hstep
    case h_1 =>
      obtain rfl := Option.some.inj hstep
      exact ⟨rfl, rfl, .inl rfl⟩
    case h_2 => cases hstep
  | statPath => exact absurd rfl hend
  | fail =>
    dsimp only [PublishState.step] at hstep
    split at hstep
    case h_1 => cases hstep
    case h_2 =>
      obtain rfl := Option.some.inj hstep
      exact ⟨rfl, rfl, .inl rfl⟩

/-! ## Every run -/

/-- Every poll during which the path stayed picked up what was published. -/
def AllPickedUp (state : PublishState hooks) : Prop :=
  ∀ report ∈ state.reports, report.quiet = true → report.PicksUp

/-- A step that does not end a poll, during which the path stayed, with a mistaken file. -/
def Recognizes (state : PublishState hooks) (action : PublishAction hooks) : Prop :=
  action = .statPath → state.quiet = true → ¬ Mistaken state

/-- A step that does not publish a file with the device and the inode of the generation observed last, unless
it shows all metadata of that generation. -/
def FreshIdentity (state : PublishState hooks) (action : PublishAction hooks) : Prop :=
  ∀ file, action = .publish file → ∀ observed ∈ state.observed,
    observed.sameIdentity file.generation = true → observed = file.generation

theorem AllPickedUp.step (h : PollInv state) (hall : AllPickedUp state)
    {action : PublishAction hooks} (hknown : Recognizes state action)
    (hstep : state.step action = some next) : AllPickedUp next := by
  by_cases hend : action = .statPath
  · subst hend
    obtain ⟨file, outcome, -, -, hreports, ⟨hquiet, hmistaken, -⟩ | ⟨-, -, hpicked⟩⟩ :=
      statPath_cases h hstep
    · exact absurd hmistaken (hknown rfl hquiet)
    · intro report hreport hquiet
      rw [hreports] at hreport
      rcases List.mem_cons.mp hreport with rfl | hold
      · exact hpicked hquiet
      · exact hall report hold hquiet
  · unfold AllPickedUp
    rw [(step_keeps hstep hend).1]
    exact hall

theorem not_allPickedUp (h : PollInv state) {action : PublishAction hooks}
    (hstep : state.step action = some next) (hunknown : ¬ Recognizes state action) :
    ¬ AllPickedUp next := by
  simp only [Recognizes, Classical.not_imp, not_not] at hunknown
  obtain ⟨rfl, hquiet, hmistaken⟩ := hunknown
  obtain ⟨file, outcome, -, -, hreports, ⟨-, -, houtcome, -⟩ | ⟨hknown, -⟩⟩ := statPath_cases h hstep
  · intro hall
    have hreport : PollReport.mk state.quiet file outcome ∈ next.reports := by
      rw [hreports]
      exact List.mem_cons_self
    rcases hall _ hreport hquiet with hrejected | ⟨live, happlied⟩
    · rw [houtcome] at hrejected
      cases hrejected
    · rw [houtcome] at happlied
      cases happlied
  · exact absurd ⟨hquiet, hmistaken⟩ hknown

/-- No file is mistaken for another one when none is published under an observed identity. -/
theorem not_mistaken_step (h : PollInv state) (hknown : ¬ Mistaken state)
    {action : PublishAction hooks} (hfresh : FreshIdentity state action)
    (hstep : state.step action = some next) : ¬ Mistaken next := by
  rintro ⟨file, hfile, observed, hobserved, hsame, hne⟩
  by_cases hend : action = .statPath
  · subst hend
    obtain ⟨published, outcome, hpublished, hnext, -, ⟨-, hmistaken, -⟩ | ⟨-, hlast, -⟩⟩ :=
      statPath_cases h hstep
    · exact hknown hmistaken
    · rw [hnext] at hfile
      rw [hlast] at hobserved
      obtain rfl := Option.some.inj hfile
      exact hne (Option.some.inj hobserved).symm
  · obtain ⟨-, hobs, hpublished | ⟨new, rfl, hpublished⟩⟩ := step_keeps hstep hend
    · rw [hobs] at hobserved
      rw [hpublished] at hfile
      exact hknown ⟨file, hfile, observed, hobserved, hsame, hne⟩
    · rw [hobs] at hobserved
      rw [hpublished] at hfile
      obtain rfl := Option.some.inj hfile
      exact hne (hfresh new rfl observed hobserved hsame)

/-- **Every atomically published configuration is picked up, unless it is mistaken for the one observed last.**
In every interleaving of publications and polls after the start of the manager: all polls during which the path
stayed apply or report the published configuration, exactly when none of them finds that the generation
observed last is that of another file with the device and the inode of the published one; and so it is when no
file is published under the device and the inode of the generation observed last. -/
theorem published_picked_up_iff (hooks : ReloadHooks Config) (published : Option (ConfigFile hooks))
    (live : Config) (actions : List (PublishAction hooks)) :
    ((publishMachine hooks).Always AllPickedUp (.started published live) actions ↔
        (publishMachine hooks).Each Recognizes (.started published live) actions) ∧
      ((publishMachine hooks).Each FreshIdentity (.started published live) actions →
        (publishMachine hooks).Always AllPickedUp (.started published live) actions) := by
  have hstart : PollInv (PublishState.started published live) := trivial
  have hnone : AllPickedUp (PublishState.started published live) := fun _ hreport => by cases hreport
  have hiff : (publishMachine hooks).Always AllPickedUp (.started published live) actions ↔
      (publishMachine hooks).Each Recognizes (.started published live) actions :=
    Machine.always_iff_each (I := PollInv) (J := AllPickedUp)
      (fun _ _ _ hinv hstep => hinv.step hstep)
      (fun _ _ _ hinv hall hknown hstep => hall.step hinv hknown hstep)
      (fun _ _ hall => hall)
      (fun _ _ _ hinv hstep hunknown => not_allPickedUp hinv hstep hunknown) hstart hnone
  refine ⟨hiff, fun hfresh => hiff.mpr ?_⟩
  have hknown : ¬ Mistaken (PublishState.started published live) := by
    rintro ⟨file, hfile, observed, hobserved, -, hne⟩
    obtain rfl : published = some file := hfile
    exact hne (Option.some.inj hobserved).symm
  have halways := hfresh.always (I := fun state => PollInv state ∧ ¬ Mistaken state)
    (fun _ _ _ hinv hq hstep => ⟨hinv.1.step hstep, not_mistaken_step hinv.1 hinv.2 hq hstep⟩)
    ⟨hstart, hknown⟩
  exact halways.each fun _ _ hinv _ _ => hinv.2

/-- A file with settings, on one device. -/
def settingsFile (inode : ℕ) (changed : ℤ) (text : String) : ConfigFile textHooks :=
  ⟨(1, inode), ⟨0o100600, (changed, 0), (changed, 0), utf8 text⟩, utf8 text, rfl⟩

/-- Two replacements before the next poll, the second by a file that has the inode of the first file. -/
def reusedInode : List (PublishAction textHooks) :=
  [.publish (settingsFile 8 20 "[heartbeat]\ninterval_secs = 7\n"),
    .publish (settingsFile 7 30 "[heartbeat]\ninterval_secs = 8\n"),
    .openSource, .statBefore (0, 0), .readChunk 99, .readChunk 99, .statAfter (0, 0), .statPath]

/-- **A published configuration is rejected as an edit in place.** -/
theorem reused_inode_rejected :
    ((publishMachine textHooks).run
        (.started (some (settingsFile 7 10 "[heartbeat]\ninterval_secs = 6\n")) []) reusedInode).map
      (fun state => state.reports.map fun report => (report.quiet, report.outcome)) =
        some [(true, .inPlaceUpdate)] ∧
      ¬ (publishMachine textHooks).Always AllPickedUp
        (.started (some (settingsFile 7 10 "[heartbeat]\ninterval_secs = 6\n")) []) reusedInode := by
  have hfacts : ((publishMachine textHooks).run
      (.started (some (settingsFile 7 10 "[heartbeat]\ninterval_secs = 6\n")) []) reusedInode).map
        (fun state => state.reports.map fun report => (report.quiet, report.outcome)) =
          some [(true, .inPlaceUpdate)] := by
    decide
  refine ⟨hfacts, fun halways => ?_⟩
  obtain ⟨state, hrun, hreports⟩ := Option.map_eq_some_iff.mp hfacts
  have hmem : (true, PollOutcome.inPlaceUpdate) ∈
      state.reports.map fun report => (report.quiet, report.outcome) := by
    rw [hreports]
    exact List.mem_singleton_self _
  obtain ⟨report, hreport, hsame⟩ := List.mem_map.mp hmem
  obtain ⟨hquiet, houtcome⟩ := Prod.mk.inj hsame
  rcases halways.last hrun report hreport hquiet with hrejected | ⟨live, happlied⟩
  · rw [houtcome] at hrejected
    cases hrejected
  · rw [houtcome] at happlied
    cases happlied

end LlmGuardProxy.Settings
