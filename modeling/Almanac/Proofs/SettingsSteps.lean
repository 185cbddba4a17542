import Almanac.Proofs.AssignedValues
import Almanac.Proofs.PersistedSettings

namespace Almanac

/-- The settings file and the environment, as a step finds and leaves them. -/
structure SettingsPlace where
  file : SettingsFile
  env : Environment

/-- What can happen to the settings: changes from outside, and steps of the program. -/
inductive SettingsStep
  | write (text : List Char)
  | remove
  | setEnvironment (env : Environment)
  | load
  | save (draft : Draft)
  | bootstrap (overrides : List (String × Json)) (persist : Bool)
  | command (c : Command)

/-- What a step gives back. -/
inductive StepResult
  | done
  | settings (s : Settings)
  | noFile
  | unreadable (fault : FileFault)
  | refused (faults : SettingFaults)
  | unsettled (fault : StoreFault)
  | ended (outcome : Outcome)

/-- A command fails with an exit code other than zero, or breaks off. -/
def Outcome.Failed : Outcome → Prop
  | exited code _ _ => code ≠ 0
  | brokenOff _ => True

def StepResult.Failed : StepResult → Prop
  | done | settings _ => False
  | noFile | unreadable _ | refused _ | unsettled _ => True
  | ended outcome => outcome.Failed

namespace SettingsStep

/-- A step that makes a missing file before it looks at any other value. -/
def creates : SettingsStep → Bool
  | bootstrap _ persist => persist
  | command (.configInit _ _ _) => true
  | _ => false

def run (path : String) (now : Instant) (before : SettingsPlace) :
    SettingsStep → SettingsPlace × StepResult
  | write text => ({ before with file := some text }, .done)
  | remove => ({ before with file := none }, .done)
  | setEnvironment env => ({ before with env := env }, .done)
  | load =>
    match before.file with
    | none => (before, .noFile)
    | some text =>
      match Settings.ofFileText text now with
      | .error fault => (before, .unreadable fault)
      | .ok s => (before, .settings s)
  | save draft =>
    match draft.settings now with
    | .error faults => (before, .refused faults)
    | .ok s => ({ before with file := some s.fileText }, .done)
  | bootstrap overrides persist =>
    match before.file.bootstrap overrides before.env persist now with
    | (file, .error fault) => ({ before with file := file }, .unsettled fault)
    | (file, .ok s) => ({ before with file := file }, .settings s)
  | command c =>
    let ran := c.run before.file ⟨path, before.env, now⟩
    ({ before with file := ran.1 }, .ended ran.2)

end SettingsStep

theorem Outcome.not_failed_printed (text : String) : ¬ (Outcome.printed text).Failed :=
  fun failed => failed rfl

/-- A failure to bring settings together leaves the file as it was, but for a missing one that is
to be kept up: it has been made with the defaults by then. -/
theorem SettingsFile.bootstrap_failed {file left : SettingsFile} {overrides : List (String × Json)}
    {env : Environment} {persist : Bool} {now : Instant} {fault : StoreFault}
    (h : file.bootstrap overrides env persist now = (left, .error fault)) :
    left = if file.isNone && persist then some Settings.default.fileText else file := by
  rcases bootstrap_cases h with ⟨fault, unread, -, kept⟩ | ⟨base, read, refused | ⟨s, -, ok, -⟩⟩
  · cases file with
    | none => cases unread
    | some text => exact kept
  · obtain ⟨faults, -, -, kept⟩ := refused
    cases file with
    | none =>
      cases read
      exact kept
    | some text => exact kept
  · cases ok

theorem SetEnding.kept_of_failed {key value : String} {file left : SettingsFile} {now : Instant}
    {outcome : Outcome} (h : SetEnding key value file left now outcome) (failed : outcome.Failed) :
    left = file := by
  cases h with
  | set done =>
    obtain ⟨_, _, _, _, _, _, printed, _⟩ := done
    rw [printed] at failed
    exact absurd failed (Outcome.not_failed_printed _)
  | refused told short why => exact told.1
  | brokenOff kept told why => exact kept
  | nothingSet read target told again =>
    rw [told] at failed
    exact absurd failed (Outcome.not_failed_printed _)

/-- Only the two commands that set values touch the file. Setting one keeps it if it fails, and
making the file does what is done to bring settings together. -/
theorem Command.run_failed {c : Command} {file left : SettingsFile} {around : Surroundings}
    {outcome : Outcome} (ran : c.run file around = (left, outcome)) (failed : outcome.Failed) :
    left = if file.isNone && (SettingsStep.command c).creates
      then some Settings.default.fileText else file := by
  cases c with
  | configInit zone? locale? pinnedNow? =>
    unfold Command.run at ran
    dsimp only at ran
    split at ran
    next made =>
      cases ran
      exact SettingsFile.bootstrap_failed made
    next made =>
      cases ran
      exact absurd failed (Outcome.not_failed_printed _)
  | configSet key value =>
    obtain ⟨_, _, ran', ends⟩ := assignValue_ends key value file around
    cases ran.symm.trans ran'
    rw [ends.kept_of_failed failed]
    simp [SettingsStep.creates]
  | configShow =>
    unfold Command.run at ran
    dsimp only at ran
    split at ran <;> (cases ran; simp [SettingsStep.creates])
  | parse | validate | render | constants =>
    cases ran
    simp [SettingsStep.creates]

section

variable {path : String} {now : Instant} {before after : SettingsPlace} {step : SettingsStep}
  {result : StepResult}

/-- A step that fails keeps the file and the environment, unless it makes a missing file: then the
file holds the defaults. -/
theorem SettingsStep.run_failed (ran : step.run path now before = (after, result))
    (failed : result.Failed) :
    after = { before with
      file := if before.file.isNone && step.creates then some Settings.default.fileText
        else before.file } := by
  cases step with
  | write | remove | setEnvironment =>
    cases ran
    cases failed
  | load =>
    unfold run at ran
    dsimp only at ran
    split at ran
    next missing =>
      cases ran
      simp [creates]
    next text there =>
      split at ran <;> (cases ran; simp [creates])
  | save draft =>
    unfold run at ran
    dsimp only at ran
    split at ran
    · cases ran
      simp [creates]
    · cases ran
      cases failed
  | bootstrap overrides persist =>
    unfold run at ran
    dsimp only at ran
    split at ran
    next made =>
      cases ran
      rw [SettingsFile.bootstrap_failed made]
      rfl
    next made =>
      cases ran
      cases failed
  | command c =>
    cases ran
    rw [← Command.run_failed (Prod.eta _).symm failed]

end

/-- A step as it took place. -/
structure SettingsEvent where
  before : SettingsPlace
  step : SettingsStep
  now : Instant
  after : SettingsPlace
  result : StepResult

/-- What takes place when steps follow each other, each at its own instant. -/
def settingsHistory (path : String) :
    SettingsPlace → List (SettingsStep × Instant) → List SettingsEvent
  | _, [] => []
  | before, (step, now) :: rest =>
    match step.run path now before with
    | (after, result) => ⟨before, step, now, after, result⟩ :: settingsHistory path after rest

section

variable {path : String} {start : SettingsPlace} {steps : List (SettingsStep × Instant)}
  {event : SettingsEvent}

theorem ran_of_mem_settingsHistory (happened : event ∈ settingsHistory path start steps) :
    event.step.run path event.now event.before = (event.after, event.result) := by
  induction steps generalizing start with
  | nil => cases happened
  | cons first rest ih =>
    obtain ⟨step, now⟩ := first
    unfold settingsHistory at happened
    split at happened
    next after result ran =>
      rcases List.mem_cons.mp happened with rfl | later
      · exact ran
      · exact ih later

/-- Whatever has happened before, a step that fails leaves the file and the environment as they were
unless it is to make a missing file. Such a step leaves the defaults behind where there was no
file. -/
theorem settingsHistory_failed (happened : event ∈ settingsHistory path start steps)
    (failed : event.result.Failed) :
    event.after.env = event.before.env
      ∧ (event.after.file = event.before.file
        ↔ ¬ (event.before.file = none ∧ event.step.creates = true))
      ∧ (event.before.file = none → event.step.creates = true →
        event.after.file = some Settings.default.fileText) := by
  rw [SettingsStep.run_failed (ran_of_mem_settingsHistory happened) failed]
  cases event.before.file <;> simp

theorem settingsHistory_failed_set :
    ∃ event ∈ settingsHistory "settings.json" ⟨none, fun _ => none⟩
        [(.write "{}".toList, ⟨0⟩), (.command (.configSet "datemath.locale" " "), ⟨0⟩)],
      event.result.Failed ∧ event.before.file = some "{}".toList
        ∧ event.after.file = some "{}".toList := by
  let before : SettingsPlace := ⟨some "{}".toList, fun _ => none⟩
  let set : SettingsStep := .command (.configSet "datemath.locale" " ")
  have happened : (⟨before, set, ⟨0⟩, (set.run "settings.json" ⟨0⟩ before).1,
      (set.run "settings.json" ⟨0⟩ before).2⟩ : SettingsEvent)
      ∈ settingsHistory "settings.json" ⟨none, fun _ => none⟩
        [(.write "{}".toList, ⟨0⟩), (set, ⟨0⟩)] :=
    .tail _ (.head _)
  have failed : (set.run "settings.json" ⟨0⟩ before).2.Failed := Nat.one_ne_zero
  exact ⟨_, happened, failed, rfl,
    (settingsHistory_failed happened failed).2.1.mpr fun creates => nomatch creates.1⟩

/-- Where there is no file, one is made by a command that then fails for the zone it is given. -/
theorem configInit_fails_with_file :
    (SettingsStep.command (.configInit (some "Nowhere/Atlantis") none none)).run "settings.json" ⟨0⟩
        ⟨none, fun _ => none⟩
      = (⟨some Settings.default.fileText, fun _ => none⟩,
        .ended (.reported (.make .settings none none [])))
    ∧ (Outcome.reported (.make .settings none none [])).Failed := by
  exact ⟨rfl, Nat.one_ne_zero⟩

end

end Almanac
