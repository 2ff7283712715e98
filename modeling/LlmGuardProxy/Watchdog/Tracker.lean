import LlmGuardProxy.Machinery.Tally
import LlmGuardProxy.Machinery.Window
import LlmGuardProxy.Settings.Config

/-!
# Watchdog/Tracker — attempts and progress samples of each upstream

For each upstream profile the tracker holds the attempts that are under way, with the time since which
each is observed, and samples of the progress that was made.  Samples go when they are too old, as the
watchdog looks at them, and when there are too many, as new ones come.  Times are nanoseconds.
-/

namespace LlmGuardProxy.Watchdog

open Machinery

/-! ## Policy -/

/-- `StuckWatchdogConfig`. -/
structure StuckWatchdogConfig where
  enabled : Bool := false
  detectionWindowSecs : ℕ := 1800
  minOutputProgressUnitsInWindow : ℕ := 1
  checkIntervalSecs : ℕ := 60

/-- `StuckWatchdogValidationFields`. -/
structure StuckWatchdogValidationFields where
  detectionWindowSecs : String
  minOutputProgressUnitsInWindow : String
  checkIntervalSecs : String

/-- The paths of the fields of a section. -/
def StuckWatchdogValidationFields.ofSection (path : String) : StuckWatchdogValidationFields where
  detectionWindowSecs := path ++ ".stuck_watchdog.detection_window_secs"
  minOutputProgressUnitsInWindow := path ++ ".stuck_watchdog.min_output_progress_units_in_window"
  checkIntervalSecs := path ++ ".stuck_watchdog.check_interval_secs"

/-- `StuckWatchdogValidationFields::upstream`. -/
def StuckWatchdogValidationFields.upstream : StuckWatchdogValidationFields := .ofSection "upstream"

/-- `StuckWatchdogValidationFields::upstream_profile`. -/
def StuckWatchdogValidationFields.upstreamProfile : StuckWatchdogValidationFields :=
  .ofSection "upstreams"

/-- `MAX_WATCHDOG_AND_RESTART_DURATION_SECS`. -/
def maxWatchdogAndRestartDurationSecs : ℕ := 86400

/-- `MAX_STUCK_WATCHDOG_PROGRESS_UNITS_IN_WINDOW`. -/
def maxStuckWatchdogProgressUnitsInWindow : ℕ := 4096

/-- `StuckWatchdogConfig::validate`. -/
def StuckWatchdogConfig.validate (config : StuckWatchdogConfig) (fields : StuckWatchdogValidationFields) :
    Except ConfigError Unit := do
  require (0 < config.detectionWindowSecs) fields.detectionWindowSecs "must be greater than zero"
  require (config.detectionWindowSecs ≤ maxWatchdogAndRestartDurationSecs) fields.detectionWindowSecs
    "must be at most 86400 seconds"
  require (0 < config.checkIntervalSecs) fields.checkIntervalSecs "must be greater than zero"
  require (config.checkIntervalSecs ≤ maxWatchdogAndRestartDurationSecs) fields.checkIntervalSecs
    "must be at most 86400 seconds"
  require (config.checkIntervalSecs ≤ config.detectionWindowSecs) fields.checkIntervalSecs
    "must be less than or equal to detection_window_secs"
  require (config.minOutputProgressUnitsInWindow ≤ maxStuckWatchdogProgressUnitsInWindow)
    fields.minOutputProgressUnitsInWindow "must be at most 4096 retained progress samples"

/-- `Duration::from_secs`, of the detection window. -/
def StuckWatchdogConfig.detectionWindow (config : StuckWatchdogConfig) : ℕ :=
  config.detectionWindowSecs * 1000000000

/-! ## State -/

/-- `STUCK_WATCHDOG_PROGRESS_SAMPLE_CAP`. -/
def stuckWatchdogProgressSampleCap : ℕ := 4096

/-- `StuckWatchdogAttempt`. -/
structure StuckWatchdogAttempt where
  startedAt : ℕ
  completed : Option ℕ
  observationSuspended : Bool
  unobservableProgress : Bool

/-- `StuckWatchdogTokenWindow`. -/
structure StuckWatchdogTokenWindow where
  samples : List (ℕ × ℕ) := []
  attempts : List (ℕ × StuckWatchdogAttempt) := []

/-- `StuckWatchdogTokenTracker`. -/
structure StuckWatchdogTokenTracker where
  windows : List (String × StuckWatchdogTokenWindow) := []
  nextAttemptId : ℕ := 0

/-! ## One window -/

/-- `Instant::checked_sub`. -/
def checkedSub (now duration : ℕ) : Option ℕ := if duration ≤ now then some (now - duration) else none

namespace StuckWatchdogTokenWindow

/-- `prune_watchdog_progress`. -/
def pruneProgress (window : StuckWatchdogTokenWindow) (detectionWindow now : ℕ) :
    StuckWatchdogTokenWindow :=
  match checkedSub now detectionWindow with
  | some threshold =>
      { window with samples := window.samples.dropWhile fun sample => sample.1 < threshold }
  | none => window

/-- `prune_watchdog_attempts`. -/
def pruneAttempts (window : StuckWatchdogTokenWindow) (detectionWindow now : ℕ) :
    StuckWatchdogTokenWindow :=
  match checkedSub now detectionWindow with
  | some threshold =>
      { window with attempts := window.attempts.filter fun entry =>
          entry.2.completed.all fun completedAt => threshold ≤ completedAt }
  | none => window

/-- `record_watchdog_progress`: behind the new sample, the first ones go while there are too many. -/
def recordProgress (window : StuckWatchdogTokenWindow) (now progress : ℕ) : StuckWatchdogTokenWindow :=
  { window with
    samples := lastEntries stuckWatchdogProgressSampleCap (window.samples ++ [(now, progress)]) }

/-- An attempt that is under way, and observed for the detection window. -/
def isMature (detectionWindow now : ℕ) (attempt : StuckWatchdogAttempt) : Bool :=
  attempt.completed.isNone && !attempt.observationSuspended &&
    decide (detectionWindow ≤ now - attempt.startedAt)

/-- `window_has_too_few_output_progress_units`. -/
def hasTooFewOutputProgressUnits (window : StuckWatchdogTokenWindow)
    (detectionWindow minimumOutputTokens now : ℕ) : Bool × StuckWatchdogTokenWindow :=
  let window := window.pruneAttempts detectionWindow now
  if window.attempts.any fun entry => isMature detectionWindow now entry.2 then
    let window := window.pruneProgress detectionWindow now
    (decide ((window.samples.map Prod.snd).foldl (saturatingAdd (2 ^ 64 - 1)) 0 < minimumOutputTokens),
      window)
  else (false, window)

/-- A change to an attempt that is there. -/
def modifyAttempt (window : StuckWatchdogTokenWindow) (attemptId : ℕ)
    (change : StuckWatchdogAttempt → StuckWatchdogAttempt) : StuckWatchdogTokenWindow :=
  match window.attempts.lookup attemptId with
  | some attempt => { window with attempts := insertSorted attemptId (change attempt) window.attempts }
  | none => window

end StuckWatchdogTokenWindow

/-- `set_attempt_observation_suspended`, on the attempt. -/
def StuckWatchdogAttempt.setObservationSuspended (suspended : Bool) (now : ℕ)
    (attempt : StuckWatchdogAttempt) : StuckWatchdogAttempt :=
  if suspended then { attempt with observationSuspended := true }
  else if attempt.observationSuspended ∧ ¬ attempt.unobservableProgress then
    { attempt with observationSuspended := false, startedAt := now }
  else attempt

/-- `set_attempt_unobservable_progress`, on the attempt. -/
def StuckWatchdogAttempt.setUnobservableProgress (attempt : StuckWatchdogAttempt) :
    StuckWatchdogAttempt :=
  { attempt with observationSuspended := true, unobservableProgress := true }

/-! ## All profiles -/

namespace StuckWatchdogTokenTracker

/-- The window of a profile; one that is not there is empty. -/
def window (tracker : StuckWatchdogTokenTracker) (profile : String) : StuckWatchdogTokenWindow :=
  (tracker.windows.lookup profile).getD {}

/-- The tracker with another window for a profile. -/
def setWindow (tracker : StuckWatchdogTokenTracker) (profile : String)
    (window : StuckWatchdogTokenWindow) : StuckWatchdogTokenTracker :=
  { tracker with windows := insertSorted profile window tracker.windows }

/-- A change to the window of a profile, when it is there. -/
def modifyWindow (tracker : StuckWatchdogTokenTracker) (profile : String)
    (change : StuckWatchdogTokenWindow → StuckWatchdogTokenWindow) : StuckWatchdogTokenTracker :=
  match tracker.windows.lookup profile with
  | some window => tracker.setWindow profile (change window)
  | none => tracker

/-- `record_progress`. -/
def recordProgress (tracker : StuckWatchdogTokenTracker) (profile : String)
    (detectionWindow progress now : ℕ) : StuckWatchdogTokenTracker :=
  if progress = 0 then tracker
  else
    tracker.setWindow profile
      (((tracker.window profile).pruneAttempts detectionWindow now).recordProgress now progress)

/-- `prune_profile`. -/
def pruneProfile (tracker : StuckWatchdogTokenTracker) (profile : String) (detectionWindow now : ℕ) :
    StuckWatchdogTokenTracker :=
  tracker.modifyWindow profile fun window =>
    (window.pruneProgress detectionWindow now).pruneAttempts detectionWindow now

/-- `has_too_few_output_progress_units`. -/
def hasTooFewOutputProgressUnits (tracker : StuckWatchdogTokenTracker) (profile : String)
    (detectionWindow minimumOutputTokens now : ℕ) : Bool × StuckWatchdogTokenTracker :=
  match tracker.windows.lookup profile with
  | some window =>
      let (verdict, window) :=
        window.hasTooFewOutputProgressUnits detectionWindow minimumOutputTokens now
      (verdict, tracker.setWindow profile window)
  | none => (false, tracker)

/-- `begin_attempt`; the id of the attempt is the one that was next. -/
def beginAttempt (tracker : StuckWatchdogTokenTracker) (profile : String) (unobservableProgress : Bool)
    (now : ℕ) : StuckWatchdogTokenTracker :=
  let window := tracker.window profile
  let attempt : StuckWatchdogAttempt :=
    ⟨now, none, unobservableProgress, unobservableProgress⟩
  { tracker.setWindow profile
      { window with attempts := insertSorted tracker.nextAttemptId attempt window.attempts } with
    nextAttemptId := tracker.nextAttemptId + 1 }

/-- `finish_attempt`: a window without attempts and samples goes. -/
def finishAttempt (tracker : StuckWatchdogTokenTracker) (profile : String) (attemptId : ℕ) :
    StuckWatchdogTokenTracker :=
  match tracker.windows.lookup profile with
  | some window =>
      let window := { window with attempts := window.attempts.filter fun entry => entry.1 ≠ attemptId }
      if window.attempts = [] ∧ window.samples = [] then
        { tracker with windows := tracker.windows.filter fun entry => entry.1 ≠ profile }
      else tracker.setWindow profile window
  | none => tracker

/-- `set_attempt_observation_suspended`. -/
def setAttemptObservationSuspended (tracker : StuckWatchdogTokenTracker) (profile : String)
    (attemptId : ℕ) (suspended : Bool) (now : ℕ) : StuckWatchdogTokenTracker :=
  tracker.modifyWindow profile fun window =>
    window.modifyAttempt attemptId (StuckWatchdogAttempt.setObservationSuspended suspended now)

/-- `set_attempt_unobservable_progress`. -/
def setAttemptUnobservableProgress (tracker : StuckWatchdogTokenTracker) (profile : String)
    (attemptId : ℕ) : StuckWatchdogTokenTracker :=
  tracker.modifyWindow profile fun window =>
    window.modifyAttempt attemptId StuckWatchdogAttempt.setUnobservableProgress

end StuckWatchdogTokenTracker

/-! ## Runs -/

/-- What is done for a profile. -/
inductive WatchdogAction where
  | begin (unobservableProgress : Bool)
  | finish (attemptId : ℕ)
  | suspend (attemptId : ℕ)
  | resume (attemptId : ℕ)
  | hide (attemptId : ℕ)
  | progress (units : ℕ)
  | prune
  | check

/-- An action with its time and profile. -/
structure WatchdogEvent where
  now : ℕ
  profile : String
  action : WatchdogAction

/-- One event, under the policies of the profiles. -/
def StuckWatchdogTokenTracker.step (policy : String → StuckWatchdogConfig)
    (tracker : StuckWatchdogTokenTracker) (event : WatchdogEvent) : StuckWatchdogTokenTracker :=
  let config := policy event.profile
  match event.action with
  | .begin unobservableProgress => tracker.beginAttempt event.profile unobservableProgress event.now
  | .finish attemptId => tracker.finishAttempt event.profile attemptId
  | .suspend attemptId =>
      tracker.setAttemptObservationSuspended event.profile attemptId true event.now
  | .resume attemptId =>
      tracker.setAttemptObservationSuspended event.profile attemptId false event.now
  | .hide attemptId => tracker.setAttemptUnobservableProgress event.profile attemptId
  | .progress units => tracker.recordProgress event.profile config.detectionWindow units event.now
  | .prune => tracker.pruneProfile event.profile config.detectionWindow event.now
  | .check =>
      (tracker.hasTooFewOutputProgressUnits event.profile config.detectionWindow
        config.minOutputProgressUnitsInWindow event.now).2

/-- The tracker behind events. -/
def trackerAfter (policy : String → StuckWatchdogConfig) (events : List WatchdogEvent) :
    StuckWatchdogTokenTracker := events.foldl (StuckWatchdogTokenTracker.step policy) {}

end LlmGuardProxy.Watchdog
