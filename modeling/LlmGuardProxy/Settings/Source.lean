import LlmGuardProxy.Machinery.Bytes
import LlmGuardProxy.Machinery.Machine
import Mathlib.Data.List.Nodup
import Mathlib.Logic.Function.Basic

/-!
# Settings/Source — reloading the configuration file while it is written

A reload opens the configuration file, asks for its metadata, reads it, and asks for the metadata of the
open file and of the path again.  Between any two of these steps files are modified in place and the path
is made to lead to other files.  Every modification of a file gives it a change time it never had.

* `Inode.eq_of_changed` — a file that shows a change time of the past was not modified since.
* `Reads.step` — what a read has seen, whatever happens to the files.
* `applied_stable` — what is applied is the whole content of one version of the file.
* `applied_first_observed` — what is applied of the file that was observed last is what was observed of it
  first, unless the path led to another file and back during one reload.
-/

namespace LlmGuardProxy.Settings

open Machinery

/-! ## Files -/

/-- The device and the number of an inode. -/
abbrev Identity := ℕ × ℕ

/-- A version of a file: its mode, its modification and its change time, and its bytes. -/
structure Version where
  mode : ℕ
  modified : ℤ × ℤ
  changed : ℤ × ℤ
  content : Bytes

/-- A file with its versions, the current one and the older ones.  No change time occurs twice. -/
structure Inode where
  current : Version
  older : List Version
  stamped : ((current :: older).map Version.changed).Nodup

/-- All versions of a file, the newest first. -/
def Inode.versions (inode : Inode) : List Version := inode.current :: inode.older

/-- A modification in place: a write, a truncation, or a change of the metadata. -/
def Inode.modify (inode : Inode) (version : Version) : Option Inode :=
  if h : version.changed ∉ inode.versions.map Version.changed then
    some ⟨version, inode.versions, List.nodup_cons.mpr ⟨h, inode.stamped⟩⟩
  else none

/-- The files, and the one the configuration path leads to. -/
structure FileSystem where
  inodes : Identity → Inode
  path : Option Identity

/-- `SourceGeneration`. -/
structure SourceGeneration where
  device : ℕ
  inode : ℕ
  mode : ℕ
  size : ℕ
  modifiedSeconds : ℤ
  modifiedNanoseconds : ℤ
  changedSeconds : ℤ
  changedNanoseconds : ℤ
  deriving DecidableEq

/-- `SourceGeneration::same_identity`. -/
def SourceGeneration.sameIdentity (a b : SourceGeneration) : Bool :=
  a.device == b.device && a.inode == b.inode

/-- `SourceGeneration::from` the metadata of a version. -/
def generationOf (id : Identity) (version : Version) : SourceGeneration where
  device := id.1
  inode := id.2
  mode := version.mode
  size := version.content.length
  modifiedSeconds := version.modified.1
  modifiedNanoseconds := version.modified.2
  changedSeconds := version.changed.1
  changedNanoseconds := version.changed.2

/-- The metadata of a file. -/
def FileSystem.metadata (files : FileSystem) (id : Identity) : SourceGeneration :=
  generationOf id (files.inodes id).current

/-! ## Reloads -/

/-- What a reload has done so far: it opened a file, it is reading it after it asked for its metadata, it has
read it to the end, or it asked for the metadata again.  With the metadata stand the versions the file had
then. -/
inductive ReloadPhase where
  | idle
  | opened (fd : Identity)
  | reading (fd : Identity) (before : SourceGeneration) (since : List Version) (contents : Bytes)
  | captured (fd : Identity) (before : SourceGeneration) (since : List Version) (contents : Bytes)
  | checked (fd : Identity) (before : SourceGeneration) (since : List Version)
      (after : SourceGeneration) (until_ : List Version) (contents : Bytes)

/-- Contents that were applied: the file they were read from, its versions when the read began and when it
ended, the generation, and what was observed last and what was observed first of that file before. -/
structure AppliedRead where
  fd : Identity
  since : List Version
  versions : List Version
  generation : SourceGeneration
  contents : Bytes
  observed : Option SourceGeneration
  first : Option SourceGeneration

/-- The parts of a reload that do not look at the file: `load` decodes, parses and validates its contents,
and `install` projects the reloadable settings onto the live configuration and validates the result. -/
structure ReloadHooks (Config : Type*) where
  load : Bytes → Option Config
  install : Config → Config → Option Config

/-- A configuration manager among the files.  `first` is the generation that was observed first of the file
that was observed last. -/
structure ReloadState (Config : Type*) where
  files : FileSystem
  live : Config
  phase : ReloadPhase := .idle
  observed : Option SourceGeneration := none
  sourceGeneration : Option SourceGeneration := none
  first : Option SourceGeneration := none
  applied : List AppliedRead := []

variable {Config : Type*}

namespace ReloadState

/-- The observed generation is replaced. -/
def observe (state : ReloadState Config) (generation : SourceGeneration) : ReloadState Config :=
  { state with
    observed := some generation
    first := if state.observed.any (·.sameIdentity generation) then state.first else some generation }

/-- The end of `load_reload_config` and of `reload`, with stable contents. -/
def finishStable (hooks : ReloadHooks Config) (state : ReloadState Config) (read : AppliedRead) :
    ReloadState Config :=
  let generation := read.generation
  if state.observed.any fun observed => observed.sameIdentity generation && observed != generation then
    state
  else
    let next :=
      if state.observed.all fun observed => !observed.sameIdentity generation then
        state.observe generation
      else state
    match hooks.load read.contents with
    | none => next
    | some requested =>
        match hooks.install state.live requested with
        | none => next
        | some live =>
            { next with
              live
              sourceGeneration := some generation
              applied := read :: state.applied }

/-- The end of `read_stable_source` and of the reload, with the metadata of the path. -/
def finish (hooks : ReloadHooks Config) (state : ReloadState Config) (fd : Identity)
    (before : SourceGeneration) (since : List Version) (after : SourceGeneration) (contents : Bytes)
    (published : SourceGeneration) : ReloadState Config :=
  let state := { state with phase := .idle }
  if before ≠ after ∨ after ≠ published then
    state.observe (if before.sameIdentity published then before else published)
  else
    state.finishStable hooks
      ⟨fd, since, (state.files.inodes fd).versions, published, contents, state.observed, state.first⟩

@[simp] theorem phase_finishStable (hooks : ReloadHooks Config) (state : ReloadState Config)
    (read : AppliedRead) : (state.finishStable hooks read).phase = state.phase := by
  grind [finishStable, observe]

@[simp] theorem files_finishStable (hooks : ReloadHooks Config) (state : ReloadState Config)
    (read : AppliedRead) : (state.finishStable hooks read).files = state.files := by
  grind [finishStable, observe]

@[simp] theorem phase_finish (hooks : ReloadHooks Config) (state : ReloadState Config) (fd : Identity)
    (before : SourceGeneration) (since : List Version) (after : SourceGeneration) (contents : Bytes)
    (published : SourceGeneration) :
    (state.finish hooks fd before since after contents published).phase = .idle := by
  grind [finish, observe, phase_finishStable]

@[simp] theorem files_finish (hooks : ReloadHooks Config) (state : ReloadState Config) (fd : Identity)
    (before : SourceGeneration) (since : List Version) (after : SourceGeneration) (contents : Bytes)
    (published : SourceGeneration) :
    (state.finish hooks fd before since after contents published).files = state.files := by
  grind [finish, observe, files_finishStable]

end ReloadState

/-- What may happen: a file is modified, the path is made to lead to a file or is removed, and the steps of a
reload, each of which may fail. -/
inductive ReloadAction where
  | modify (id : Identity) (version : Version)
  | link (id : Identity)
  | unlink
  | openSource
  | statBefore
  | readChunk (more : ℕ)
  | statAfter
  | statPath
  | fail

/-- One step. -/
def ReloadState.step (hooks : ReloadHooks Config) (state : ReloadState Config) :
    ReloadAction → Option (ReloadState Config)
  | .modify id version =>
      ((state.files.inodes id).modify version).map fun inode =>
        { state with files := { state.files with
            inodes := Function.update state.files.inodes id inode } }
  | .link id => some { state with files := { state.files with path := some id } }
  | .unlink => some { state with files := { state.files with path := none } }
  | .openSource =>
      match state.phase, state.files.path with
      | .idle, some id => some { state with phase := .opened id }
      | _, _ => none
  | .statBefore =>
      match state.phase with
      | .opened fd =>
          some { state with
            phase := .reading fd (state.files.metadata fd) (state.files.inodes fd).versions [] }
      | _ => none
  | .readChunk more =>
      match state.phase with
      | .reading fd before since contents =>
          let chunk := ((state.files.inodes fd).current.content.drop contents.length).take (more + 1)
          if chunk = [] then some { state with phase := .captured fd before since contents }
          else some { state with phase := .reading fd before since (contents ++ chunk) }
      | _ => none
  | .statAfter =>
      match state.phase with
      | .captured fd before since contents =>
          some { state with
            phase := .checked fd before since (state.files.metadata fd)
              (state.files.inodes fd).versions contents }
      | _ => none
  | .statPath =>
      match state.phase with
      | .checked fd before since after _ contents =>
          match state.files.path with
          | some id =>
              some (state.finish hooks fd before since after contents (state.files.metadata id))
          | none => some { state with phase := .idle }
      | _ => none
  | .fail => if state.phase matches .idle then none else some { state with phase := .idle }

/-- The machine of all parties. -/
def reloadMachine (hooks : ReloadHooks Config) : Machine (ReloadState Config) ReloadAction :=
  ⟨ReloadState.step hooks⟩

/-! ## What a read has seen -/

namespace Inode

theorem changed_ne_of_mem_older {inode : Inode} {version : Version} (h : version ∈ inode.older) :
    version.changed ≠ inode.current.changed := by
  intro heq
  refine (List.nodup_cons.mp inode.stamped).1 ?_
  rw [← heq]
  exact List.mem_map_of_mem h

theorem versions_of_modify {inode next : Inode} {version : Version}
    (h : inode.modify version = some next) : next.versions = version :: inode.versions := by
  simp only [modify, Option.dite_none_right_eq_some, Option.some.injEq] at h
  obtain ⟨-, rfl⟩ := h
  rfl

/-- **No version comes back.**  If the file has the change time of the newest of its versions of some moment,
it was not modified since. -/
theorem eq_of_changed {inode : Inode} {version : Version} {rest : List Version}
    (h : version :: rest <:+ inode.versions) (heq : version.changed = inode.current.changed) :
    version :: rest = inode.versions := by
  rcases List.suffix_cons_iff.mp h with hall | hold
  · exact hall
  · exact absurd heq (changed_ne_of_mem_older (hold.subset List.mem_cons_self))

end Inode

theorem generationOf_changed {a b : Identity} {v w : Version} (h : generationOf a v = generationOf b w) :
    v.changed = w.changed :=
  Prod.ext (congrArg SourceGeneration.changedSeconds h) (congrArg SourceGeneration.changedNanoseconds h)

theorem sameIdentity_generationOf {a b : Identity} {v w : Version} :
    (generationOf a v).sameIdentity (generationOf b w) = true ↔ a = b := by
  simp [SourceGeneration.sameIdentity, generationOf, Prod.ext_iff]

/-- `generation` was the metadata of the file when its versions were `versions`. -/
structure Seen (files : FileSystem) (fd : Identity) (generation : SourceGeneration)
    (versions : List Version) : Prop where
  past : versions <:+ (files.inodes fd).versions
  newest : ∃ version rest, versions = version :: rest ∧ generation = generationOf fd version

/-- What a reload has seen so far.  The bytes it read are those of the file if that was not modified. -/
def Reads (files : FileSystem) : ReloadPhase → Prop
  | .idle => True
  | .opened _ => True
  | .reading fd before since contents =>
      Seen files fd before since ∧
        (since = (files.inodes fd).versions → contents <+: (files.inodes fd).current.content)
  | .captured fd before since contents =>
      Seen files fd before since ∧
        (since = (files.inodes fd).versions → contents = (files.inodes fd).current.content)
  | .checked fd before since after until_ contents =>
      Seen files fd before since ∧ Seen files fd after until_ ∧ since <:+ until_ ∧
        (since = (files.inodes fd).versions → contents = (files.inodes fd).current.content)

/-- `next` comes after `files`, at most one modification of each file later. -/
def Later (files next : FileSystem) : Prop :=
  ∀ id, next.inodes id = files.inodes id ∨
    ∃ version, (next.inodes id).versions = version :: (files.inodes id).versions

section Later

variable {files next : FileSystem}

theorem later_modify {id : Identity} {inode : Inode} {version : Version}
    (h : (files.inodes id).modify version = some inode) :
    Later files { files with inodes := Function.update files.inodes id inode } := by
  intro other
  by_cases hid : other = id
  · subst hid
    right
    exact ⟨version, by simpa using Inode.versions_of_modify h⟩
  · left
    simp [Function.update_of_ne hid]

theorem later_path (files : FileSystem) (path : Option Identity) :
    Later files { files with path } :=
  fun _ => Or.inl rfl

theorem Later.versions (h : Later files next) (id : Identity) :
    (files.inodes id).versions <:+ (next.inodes id).versions := by
  rcases h id with heq | ⟨version, hversions⟩
  · rw [heq]
  · rw [hversions]
    exact List.suffix_cons _ _

/-- A file that has no more versions than it had in the past was not modified. -/
theorem Later.inode_eq {since : List Version} {id : Identity} (h : Later files next)
    (hpast : since <:+ (files.inodes id).versions) (hsince : since = (next.inodes id).versions) :
    next.inodes id = files.inodes id := by
  rcases h id with heq | ⟨version, hversions⟩
  · exact heq
  · have hle := hpast.length_le
    rw [hsince, hversions, List.length_cons] at hle
    omega

theorem Seen.later {fd : Identity} {generation : SourceGeneration} {versions : List Version}
    (h : Seen files fd generation versions) (hlater : Later files next) :
    Seen next fd generation versions :=
  ⟨h.past.trans (hlater.versions fd), h.newest⟩

theorem Reads.later (hlater : Later files next) :
    ∀ {phase : ReloadPhase}, Reads files phase → Reads next phase
  | .idle, _ => trivial
  | .opened _, _ => trivial
  | .reading fd before since contents, ⟨hseen, hcontents⟩ => by
      refine ⟨hseen.later hlater, fun hsince => ?_⟩
      have heq := hlater.inode_eq hseen.past hsince
      rw [heq] at hsince ⊢
      exact hcontents hsince
  | .captured fd before since contents, ⟨hseen, hcontents⟩ => by
      refine ⟨hseen.later hlater, fun hsince => ?_⟩
      have heq := hlater.inode_eq hseen.past hsince
      rw [heq] at hsince ⊢
      exact hcontents hsince
  | .checked fd before since after until_ contents, ⟨hseen, hafter, hbetween, hcontents⟩ => by
      refine ⟨hseen.later hlater, hafter.later hlater, hbetween, fun hsince => ?_⟩
      have heq := hlater.inode_eq hseen.past hsince
      rw [heq] at hsince ⊢
      exact hcontents hsince

end Later

/-- What is asked for now is seen. -/
theorem seen_metadata (files : FileSystem) (fd : Identity) :
    Seen files fd (files.metadata fd) (files.inodes fd).versions :=
  ⟨List.suffix_rfl, (files.inodes fd).current, (files.inodes fd).older, rfl, rfl⟩

/-- Reading on: what was read and the next bytes of the same contents are a beginning of them. -/
theorem append_take_drop_isPrefix {contents whole : Bytes} (h : contents <+: whole) (n : ℕ) :
    contents ++ (whole.drop contents.length).take n <+: whole := by
  obtain ⟨rest, rfl⟩ := h
  simp [List.prefix_append_right_inj, List.take_prefix]

/-- There is nothing left to read at the end only. -/
theorem eq_of_take_drop_eq_nil {contents whole : Bytes} (h : contents <+: whole) {n : ℕ}
    (hend : (whole.drop contents.length).take (n + 1) = []) : contents = whole := by
  obtain ⟨rest, rfl⟩ := h
  simpa using hend.symm

section Steps

variable {hooks : ReloadHooks Config} {state next : ReloadState Config}

/-- **Reading.**  Every step keeps what a read has seen. -/
theorem Reads.step {action : ReloadAction} (h : Reads state.files state.phase)
    (hstep : state.step hooks action = some next) : Reads next.files next.phase := by
  cases action with
  | modify id version =>
    obtain ⟨inode, hmodify, rfl⟩ := Option.map_eq_some_iff.mp hstep
    exact h.later (later_modify hmodify)
  | link id =>
    obtain rfl := Option.some.inj hstep
    exact h.later (later_path state.files _)
  | unlink =>
    obtain rfl := Option.some.inj hstep
    exact h.later (later_path state.files _)
  | openSource =>
    simp only [ReloadState.step] at hstep
    split at hstep
    · obtain rfl := Option.some.inj hstep
      trivial
    · cases hstep
  | statBefore =>
    simp only [ReloadState.step] at hstep
    split at hstep
    · obtain rfl := Option.some.inj hstep
      exact ⟨seen_metadata _ _, fun _ => List.nil_prefix⟩
    · cases hstep
  | readChunk more =>
    simp only [ReloadState.step] at hstep
    split at hstep
    case h_1 fd before since contents hphase =>
      rw [hphase] at h
      obtain ⟨hseen, hcontents⟩ := h
      split at hstep
      · rename_i hend
        obtain rfl := Option.some.inj hstep
        exact ⟨hseen, fun hsince => eq_of_take_drop_eq_nil (hcontents hsince) hend⟩
      · obtain rfl := Option.some.inj hstep
        exact ⟨hseen, fun hsince => append_take_drop_isPrefix (hcontents hsince) _⟩
    case h_2 => cases hstep
  | statAfter =>
    simp only [ReloadState.step] at hstep
    split at hstep
    case h_1 fd before since contents hphase =>
      rw [hphase] at h
      obtain rfl := Option.some.inj hstep
      exact ⟨h.1, seen_metadata _ _, h.1.past, h.2⟩
    case h_2 => cases hstep
  | statPath =>
    simp only [ReloadState.step] at hstep
    split at hstep
    · split at hstep
      · obtain rfl := Option.some.inj hstep
        rw [ReloadState.phase_finish]
        trivial
      · obtain rfl := Option.some.inj hstep
        trivial
    · cases hstep
  | fail =>
    simp only [ReloadState.step] at hstep
    split at hstep
    · cases hstep
    · obtain rfl := Option.some.inj hstep
      trivial

/-- **One step.**  Only the end of a reload that read its file changes what is observed and applied. -/
theorem ReloadState.step_cases {action : ReloadAction} (hstep : state.step hooks action = some next) :
    (Later state.files next.files ∧ next.observed = state.observed ∧ next.first = state.first ∧
      next.applied = state.applied) ∨
    ∃ fd before since after until_ contents id, action = .statPath ∧
      state.phase = .checked fd before since after until_ contents ∧ state.files.path = some id ∧
      next = state.finish hooks fd before since after contents (state.files.metadata id) := by
  have hsame : Later state.files state.files := later_path state.files state.files.path
  cases action with
  | modify id version =>
    obtain ⟨inode, hmodify, rfl⟩ := Option.map_eq_some_iff.mp hstep
    exact .inl ⟨later_modify hmodify, rfl, rfl, rfl⟩
  | link id =>
    obtain rfl := Option.some.inj hstep
    exact .inl ⟨later_path state.files _, rfl, rfl, rfl⟩
  | unlink =>
    obtain rfl := Option.some.inj hstep
    exact .inl ⟨later_path state.files _, rfl, rfl, rfl⟩
  | openSource =>
    simp only [ReloadState.step] at hstep
    split at hstep
    · obtain rfl := Option.some.inj hstep
      exact .inl ⟨hsame, rfl, rfl, rfl⟩
    · cases hstep
  | statBefore =>
    simp only [ReloadState.step] at hstep
    split at hstep
    · obtain rfl := Option.some.inj hstep
      exact .inl ⟨hsame, rfl, rfl, rfl⟩
    · cases hstep
  | readChunk more =>
    simp only [ReloadState.step] at hstep
    split at hstep
    · split at hstep
      · obtain rfl := Option.some.inj hstep
        exact .inl ⟨hsame, rfl, rfl, rfl⟩
      · obtain rfl := Option.some.inj hstep
        exact .inl ⟨hsame, rfl, rfl, rfl⟩
    · cases hstep
  | statAfter =>
    simp only [ReloadState.step] at hstep
    split at hstep
    · obtain rfl := Option.some.inj hstep
      exact .inl ⟨hsame, rfl, rfl, rfl⟩
    · cases hstep
  | statPath =>
    simp only [ReloadState.step] at hstep
    split at hstep
    case h_1 fd before since after until_ contents hphase =>
      split at hstep
      case h_1 id hpath =>
        exact .inr ⟨fd, before, since, after, until_, contents, id, rfl, hphase, hpath,
          (Option.some.inj hstep).symm⟩
      case h_2 =>
        obtain rfl := Option.some.inj hstep
        exact .inl ⟨hsame, rfl, rfl, rfl⟩
    case h_2 => cases hstep
  | fail =>
    simp only [ReloadState.step] at hstep
    split at hstep
    · cases hstep
    · obtain rfl := Option.some.inj hstep
      exact .inl ⟨hsame, rfl, rfl, rfl⟩

end Steps

/-! ## What is applied -/

/-- The whole read saw one generation: the file was not modified since the first metadata, the contents are
all its bytes, and the generation is that of these bytes. -/
structure AppliedRead.Stable (read : AppliedRead) : Prop where
  unmodified : read.since = read.versions
  whole : ∃ version, read.versions.head? = some version ∧ read.contents = version.content ∧
    read.generation = generationOf read.fd version

/-- The file was not the one observed last, or it is as it was when it was first observed. -/
def AppliedRead.Unedited (read : AppliedRead) : Prop :=
  ∀ observed, read.observed = some observed → observed.sameIdentity read.generation →
    read.first = some read.generation

/-- The file of this generation was modified since. -/
def Stale (files : FileSystem) (generation : SourceGeneration) : Prop :=
  ∃ version ∈ (files.inodes (generation.device, generation.inode)).older,
    version.changed = (generation.changedSeconds, generation.changedNanoseconds)

theorem Stale.later {files next : FileSystem} {generation : SourceGeneration}
    (hlater : Later files next) (h : Stale files generation) : Stale next generation := by
  obtain ⟨version, hmem, hchanged⟩ := h
  refine ⟨version, ?_, hchanged⟩
  rcases hlater (generation.device, generation.inode) with heq | ⟨newer, hversions⟩
  · rw [heq]
    exact hmem
  · rw [(List.cons.inj hversions).2]
    exact List.mem_cons_of_mem _ hmem

/-- No file has a generation it was modified after. -/
theorem not_stale_metadata (files : FileSystem) (id : Identity) : ¬ Stale files (files.metadata id) := by
  rintro ⟨version, hmem, hchanged⟩
  exact Inode.changed_ne_of_mem_older hmem hchanged

/-- A file that no longer has the metadata it had was modified since. -/
theorem Seen.stale {files : FileSystem} {fd : Identity} {generation : SourceGeneration}
    {versions : List Version} (h : Seen files fd generation versions)
    (hne : generation ≠ files.metadata fd) : Stale files generation := by
  obtain ⟨version, rest, rfl, rfl⟩ := h.newest
  rcases List.suffix_cons_iff.mp h.past with hall | hold
  · obtain ⟨rfl, -⟩ := List.cons.inj hall
    exact absurd rfl hne
  · exact ⟨version, hold.subset List.mem_cons_self, rfl⟩

/-- The metadata of the past that a file still has is all it had since. -/
theorem Seen.versions_eq {files : FileSystem} {fd : Identity} {generation : SourceGeneration}
    {versions : List Version} (h : Seen files fd generation versions)
    (heq : generation = files.metadata fd) : versions = (files.inodes fd).versions := by
  obtain ⟨version, rest, rfl, rfl⟩ := h.newest
  exact Inode.eq_of_changed h.past (generationOf_changed heq)

/-- What is observed is what was first observed of its file, or the file was modified since. -/
def ReloadState.Traced (state : ReloadState Config) : Prop :=
  ∀ observed, state.observed = some observed → state.first = some observed ∨ Stale state.files observed

namespace ReloadState

theorem traced_observe {state : ReloadState Config} {generation : SourceGeneration}
    (h : ∀ observed, state.observed = some observed → observed.sameIdentity generation →
      state.first = some generation ∨ Stale state.files generation) :
    (state.observe generation).Traced := by
  rintro _ ⟨⟩
  simp only [observe]
  cases hobserved : state.observed with
  | none => exact .inl rfl
  | some observed =>
    by_cases hsame : observed.sameIdentity generation = true
    · simpa [hsame] using h observed hobserved hsame
    · simp [hsame]

/-- What a reload with stable contents leaves of the observed generation. -/
theorem observed_finishStable (hooks : ReloadHooks Config) (state : ReloadState Config)
    (read : AppliedRead) :
    ((state.finishStable hooks read).observed = state.observed ∧
      (state.finishStable hooks read).first = state.first) ∨
    ((state.finishStable hooks read).observed = some read.generation ∧
      (state.finishStable hooks read).first = some read.generation) := by
  cases hobserved : state.observed with
  | none => grind [finishStable, observe]
  | some observed => grind [finishStable, observe]

/-- A reload with stable contents applies them unless their file was observed in another generation. -/
theorem applied_finishStable (hooks : ReloadHooks Config) (state : ReloadState Config)
    (read : AppliedRead) :
    (state.finishStable hooks read).applied = state.applied ∨
    ((state.finishStable hooks read).applied = read :: state.applied ∧
      ∀ observed, state.observed = some observed → observed.sameIdentity read.generation →
        observed = read.generation) := by
  cases hobserved : state.observed with
  | none => grind [finishStable, observe]
  | some observed => grind [finishStable, observe]

theorem traced_finishStable {hooks : ReloadHooks Config} {state : ReloadState Config} {read : AppliedRead}
    (h : state.Traced) : (state.finishStable hooks read).Traced := by
  intro observed hobserved
  rw [files_finishStable]
  rcases observed_finishStable hooks state read with ⟨hsame, hfirst⟩ | ⟨hnew, hfirst⟩
  · rw [hfirst]
    exact h observed (hsame ▸ hobserved)
  · left
    rw [hfirst, ← hnew, hobserved]

variable {hooks : ReloadHooks Config} {state next : ReloadState Config} {fd id : Identity}
  {before after : SourceGeneration} {since until_ : List Version} {contents : Bytes}

/-- **Applied contents.**  A reload that applies what it read saw one generation of the file throughout. -/
theorem applied_finish (hooks : ReloadHooks Config) (id : Identity)
    (hreads : Reads state.files (.checked fd before since after until_ contents)) :
    (state.finish hooks fd before since after contents (state.files.metadata id)).applied =
      state.applied ∨
    ∃ read, (state.finish hooks fd before since after contents (state.files.metadata id)).applied =
        read :: state.applied ∧
      read.Stable ∧ read.observed = state.observed ∧ read.first = state.first ∧
      read.generation = state.files.metadata id ∧
      ∀ observed, state.observed = some observed → observed.sameIdentity read.generation →
        observed = read.generation := by
  obtain ⟨hbefore, -, -, hcontents⟩ := hreads
  unfold finish
  split
  · exact .inl rfl
  · rename_i hstable
    obtain ⟨rfl, rfl⟩ : before = after ∧ after = state.files.metadata id := by tauto
    rcases applied_finishStable hooks { state with phase := .idle }
      ⟨fd, since, (state.files.inodes fd).versions, state.files.metadata id, contents, state.observed,
        state.first⟩ with hkept | ⟨happlied, hobserved⟩
    · exact .inl hkept
    · obtain rfl : fd = id := by
        obtain ⟨version, -, -, hversion⟩ := hbefore.newest
        exact (sameIdentity_generationOf (v := version) (w := (state.files.inodes id).current)).mp
          (hversion ▸ by simp [FileSystem.metadata, SourceGeneration.sameIdentity])
      have hsince := hbefore.versions_eq rfl
      exact .inr ⟨_, happlied, ⟨hsince, (state.files.inodes fd).current, rfl, hcontents hsince, rfl⟩, rfl,
        rfl, rfl, hobserved⟩

/-- The path is back at the file that was observed last, modified since, while another one was read. -/
def Returned (state : ReloadState Config) : Prop :=
  match state.phase, state.files.path, state.observed with
  | .checked fd _ _ _ _ _, some id, some observed =>
      fd ≠ id ∧ observed.sameIdentity (state.files.metadata id) ∧ observed ≠ state.files.metadata id
  | _, _, _ => False

/-- **Observed generations.**  The end of a reload keeps them traced, unless the path is back. -/
theorem traced_finish (hreads : Reads state.files (.checked fd before since after until_ contents))
    (hphase : state.phase = .checked fd before since after until_ contents)
    (hpath : state.files.path = some id) (hback : ¬ state.Returned) (htraced : state.Traced) :
    (state.finish hooks fd before since after contents (state.files.metadata id)).Traced := by
  obtain ⟨hbefore, hafter, hbetween, -⟩ := hreads
  obtain ⟨version, -, -, hversion⟩ := hbefore.newest
  have hidentity : before.sameIdentity (state.files.metadata id) = true ↔ fd = id := by
    rw [hversion]
    exact sameIdentity_generationOf
  unfold finish
  split
  case isFalse => exact traced_finishStable htraced
  case isTrue hunstable =>
    apply traced_observe
    intro observed hobserved hsame
    by_cases hfd : fd = id
    · subst hfd
      right
      rw [if_pos (hidentity.mpr rfl)]
      apply hbefore.stale
      intro heq
      have hsince := hbefore.versions_eq heq
      have huntil : until_ = (state.files.inodes fd).versions :=
        hafter.past.eq_of_length_le (hsince ▸ hbetween.length_le)
      obtain ⟨newest, rest, hnewest, hgeneration⟩ := hafter.newest
      obtain ⟨rfl, -⟩ := List.cons.inj (hnewest.symm.trans huntil)
      rcases hunstable with hne | hne
      · exact hne (heq.trans hgeneration.symm)
      · exact hne hgeneration
    · rw [if_neg (mt hidentity.mp hfd)] at hsame ⊢
      have hkept : observed = state.files.metadata id := by
        by_contra hne
        refine hback ?_
        simp only [Returned, hphase, hpath]
        rw [show state.observed = some observed from hobserved]
        exact ⟨hfd, hsame, hne⟩
      rw [← hkept]
      exact htraced observed hobserved

/-- Between two polls, before anything was applied. -/
structure Started (state : ReloadState Config) : Prop where
  idle : state.phase = .idle
  first : state.first = state.observed
  applied : state.applied = []

/-- What holds all along. -/
structure Sound (state : ReloadState Config) : Prop where
  reads : Reads state.files state.phase
  traced : state.Traced
  applied : ∀ read ∈ state.applied, read.Stable ∧ read.Unedited

theorem Started.sound (h : state.Started) : state.Sound where
  reads := by rw [h.idle]; trivial
  traced := fun _ hobserved => .inl (h.first.trans hobserved)
  applied := by simp [h.applied]

theorem Sound.step {action : ReloadAction} (h : state.Sound)
    (hback : action = .statPath → ¬ state.Returned) (hstep : state.step hooks action = some next) :
    next.Sound := by
  refine ⟨h.reads.step hstep, ?_, ?_⟩
  · rcases step_cases hstep with ⟨hlater, hobserved, hfirst, -⟩ |
      ⟨fd, before, since, after, until_, contents, id, haction, hphase, hpath, rfl⟩
    · intro observed heq
      rw [hfirst]
      exact (h.traced observed (hobserved ▸ heq)).imp_right (Stale.later hlater)
    · exact traced_finish (hphase ▸ h.reads) hphase hpath (hback haction) h.traced
  · rcases step_cases hstep with ⟨-, -, -, happlied⟩ |
      ⟨fd, before, since, after, until_, contents, id, -, hphase, -, rfl⟩
    · rw [happlied]
      exact h.applied
    · rcases applied_finish hooks id (hphase ▸ h.reads) with hkept |
        ⟨read, happlied, hstable, hobserved, hfirst, hgeneration, heq⟩
      · rw [hkept]
        exact h.applied
      · rw [happlied]
        rintro other (_ | ⟨_, hmem⟩)
        · refine ⟨hstable, fun observed hsome hsame => ?_⟩
          rw [hobserved] at hsome
          obtain rfl := heq observed hsome hsame
          rw [hfirst]
          refine (h.traced _ hsome).resolve_right ?_
          rw [hgeneration]
          exact not_stale_metadata state.files id
        · exact h.applied other hmem

end ReloadState

/-- **No half-written file is applied**, whatever the path leads to in the meantime. -/
theorem applied_stable (hooks : ReloadHooks Config) {state final : ReloadState Config}
    (hstart : state.Started) (hreach : (reloadMachine hooks).Reaches state final) :
    ∀ read ∈ final.applied, read.Stable := by
  have hsound := hstart.sound
  refine (hreach.invariant (P := fun s => Reads s.files s.phase ∧ ∀ read ∈ s.applied, read.Stable) ?_
    ⟨hsound.reads, fun read hmem => (hsound.applied read hmem).1⟩).2
  rintro s action t ⟨hreads, happlied⟩ hstep
  refine ⟨hreads.step hstep, ?_⟩
  rcases ReloadState.step_cases hstep with ⟨-, -, -, hsame⟩ |
    ⟨fd, before, since, after, until_, contents, id, -, hphase, -, rfl⟩
  · rw [hsame]
    exact happlied
  · rcases ReloadState.applied_finish hooks id (hphase ▸ hreads) with hsame | ⟨read, hnew, hstable, -⟩
    · rw [hsame]
      exact happlied
    · rw [hnew]
      exact List.forall_mem_cons.mpr ⟨hstable, happlied⟩

/-- **Edits in place are not applied.**  As long as no reload ends with the path back at the file that was
observed last, modified since, after it read another file, everything that is applied was read from one
generation of its file, and that file was not the one observed last or is as it was first observed. -/
theorem applied_first_observed (hooks : ReloadHooks Config) {state : ReloadState Config}
    (hstart : state.Started) {actions : List ReloadAction}
    (heach : (reloadMachine hooks).Each (fun s action => action = .statPath → ¬ s.Returned) state actions) :
    (reloadMachine hooks).Always (fun s => ∀ read ∈ s.applied, read.Stable ∧ read.Unedited) state actions :=
  (heach.always (fun _ _ _ hsound hback hstep => hsound.step hback hstep) hstart.sound).mono
    fun _ hsound => hsound.applied

/-- Two files, the path leading to the first, which was observed as it is. -/
def twoFiles : ReloadState Bytes where
  files :=
    { inodes := fun id => ⟨⟨0, (0, 0), (1, 0), [UInt8.ofNat id.2]⟩, [], by simp⟩
      path := some (0, 1) }
  live := []
  observed := some ⟨0, 1, 0, 1, 0, 0, 1, 0⟩
  first := some ⟨0, 1, 0, 1, 0, 0, 1, 0⟩

/-- Settings that are their own text. -/
def textHooks : ReloadHooks Bytes := ⟨some, fun _ requested => some requested⟩

/-- A poll without disturbance applies the file. -/
def quietPoll : List ReloadAction :=
  [.openSource, .statBefore, .readChunk 9, .readChunk 9, .statAfter, .statPath]

theorem applied_first_observed_quiet :
    (((reloadMachine textHooks).run twoFiles quietPoll).map (·.live) = some [1]) ∧
      (reloadMachine textHooks).Always (fun s => ∀ read ∈ s.applied, read.Stable ∧ read.Unedited)
        twoFiles quietPoll := by
  refine ⟨by decide, applied_first_observed textHooks ⟨rfl, rfl, rfl⟩ ?_⟩
  rintro _ ⟨⟩
  refine ⟨nofun, ?_⟩
  rintro _ ⟨⟩
  refine ⟨nofun, ?_⟩
  rintro _ ⟨⟩
  refine ⟨nofun, ?_⟩
  rintro _ ⟨⟩
  refine ⟨nofun, ?_⟩
  rintro _ ⟨⟩
  refine ⟨nofun, ?_⟩
  rintro _ ⟨⟩
  exact ⟨fun _ hback => hback.1 rfl, trivial⟩

/-- While the second file is read the first is edited and the path is made to lead to it again. -/
def disturbedPoll : List ReloadAction :=
  [.link (0, 2), .openSource, .statBefore, .readChunk 9, .readChunk 9, .statAfter,
    .modify (0, 1) ⟨0, (0, 0), (2, 0), [7]⟩, .link (0, 1), .statPath]

theorem edited_applied_after_return :
    twoFiles.Started ∧
      ¬ (reloadMachine textHooks).Always (fun s => ∀ read ∈ s.applied, read.Stable ∧ read.Unedited)
        twoFiles (disturbedPoll ++ quietPoll) := by
  refine ⟨⟨rfl, rfl, rfl⟩, fun halways => ?_⟩
  have hunedited := (halways.last rfl _ List.mem_cons_self).2
  exact absurd (hunedited _ rfl rfl) (by decide)

end LlmGuardProxy.Settings
