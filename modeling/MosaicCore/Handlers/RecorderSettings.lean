import Mathlib.Logic.Basic
import MosaicCore.Handlers.Recordable

/-!
# The settings of the recorder

`SetRecordFilePath` and `SetVideoParameters` log an error where the settings must not change, and go on.
This file says exactly when that does not show: `settingsProtected_iff`.
-/

namespace MosaicCore

open EffectProgram EventRun

variable {φ δ : Type} [OfScientific δ]

/-! ## The two setters -/

/-- A call of `SetRecordFilePath` or `SetVideoParameters`. -/
inductive SettingCall (δ : Type)
  | setRecordFilePath (recordFilePath : String) (answers : PathAnswers)
  | setVideoParameters (fps : δ) (width height : Int)

namespace SettingCall

/-- It among all calls. -/
def call : SettingCall δ → RecordableCall φ δ
  | .setRecordFilePath recordFilePath answers => .setRecordFilePath recordFilePath answers
  | .setVideoParameters fps width height => .setVideoParameters fps width height

/-- The setter goes as far as to set its values: a path has to be valid. -/
def Accepted : SettingCall δ → Prop
  | .setRecordFilePath recordFilePath answers => isValidRecordFilePath recordFilePath answers = .ok true
  | .setVideoParameters _ _ _ => True

/-- The recorder holds the values of the call. -/
def StoredIn (r : VideoRecorder φ δ) : SettingCall δ → Prop
  | .setRecordFilePath recordFilePath _ => r.recordFilePath = recordFilePath
  | .setVideoParameters fps width height => r.fps = fps ∧ r.width = width ∧ r.height = height

/-- The writer is opened with the values of the call. -/
def UsedBy (clock : Clock) (now : Int) (arguments : OpenArguments δ) : SettingCall δ → Prop
  | .setRecordFilePath recordFilePath _ => arguments.fileName = getFilename clock recordFilePath now
  | .setVideoParameters fps width height => arguments.fps = fps ∧ arguments.frameSize = (width, height)

/-- A call that may come between the setter and the next `StartRecording`: neither that nor the same setter. -/
def Allows : SettingCall δ → RecordableCall φ δ → Prop
  | _, .startRecording _ _ => False
  | .setRecordFilePath _ _, .setRecordFilePath _ _ => False
  | .setVideoParameters _ _ _, .setVideoParameters _ _ _ => False
  | _, _ => True

end SettingCall

namespace Recordable

/-- The guard of the setters. -/
def Refuses (s : Recordable φ δ) : Prop :=
  s.recordable = false ∨ s.recordState ≠ .notRecording

/-- File path, fps, width and height. -/
def settings (s : Recordable φ δ) : Option (String × δ × Int × Int) :=
  s.videoRecorder.map fun r => (r.recordFilePath, r.fps, r.width, r.height)

/-- The recorder exists and holds the values of the call. -/
def Holds (s : Recordable φ δ) (c : SettingCall δ) : Prop :=
  ∃ r, s.videoRecorder = some r ∧ c.StoredIn r

/-- The next `StartRecording` opens the writer with the values of the call. -/
def UsedByNextStart (clock : Clock) (s : Recordable φ δ) (c : SettingCall δ) : Prop :=
  ∀ between now opening, (∀ call ∈ between, c.Allows call) →
    ∃ arguments,
      (run (recordableStep clock) s (between ++ [.startRecording now opening])).writerCalls =
        (run (recordableStep clock) s between).writerCalls ++ [.openFile arguments] ∧
      c.UsedBy clock now arguments

/-- A refused call changes no setting and touches no null recorder; the values of any other call are used by the
next `StartRecording`. -/
def SettingsProtected (clock : Clock) (s : Recordable φ δ) (c : SettingCall δ) : Prop :=
  (s.Refuses → (recordableStep clock s c.call).settings = s.settings ∧
    ∀ s', (RecordableCall.routine clock c.call).run s ≠ .error (.nullDereference "video_recorder_") s') ∧
  (¬ s.Refuses → UsedByNextStart clock (recordableStep clock s c.call) c)

/-! ## What a setter stores -/

/-- On an object with a recorder: an accepted call stores its values, any other leaves the recorder alone. -/
theorem step_setting (clock : Clock) (r : VideoRecorder φ δ) (state : RecordState) (c : SettingCall δ) :
    ∃ r', recordableStep clock (withRecorder r state) c.call = withRecorder r' state ∧
      r'.videoWriter = r.videoWriter ∧ (c.StoredIn r' ↔ c.Accepted ∨ c.StoredIn r) ∧
      ((withRecorder r' state).settings = (withRecorder r state).settings ↔ (c.Accepted → c.StoredIn r)) := by
  unfold recordableStep
  cases c with
  | setRecordFilePath recordFilePath answers =>
      rw [SettingCall.call, RecordableCall.routine, setRecordFilePath_run]
      cases hCheck : isValidRecordFilePath recordFilePath answers with
      | error what => exact ⟨r, rfl, rfl, by simp [SettingCall.Accepted, hCheck], by simp [SettingCall.Accepted, hCheck]⟩
      | ok valid =>
          cases valid with
          | false =>
              exact ⟨r, rfl, rfl, by simp [SettingCall.Accepted, hCheck], by simp [SettingCall.Accepted, hCheck]⟩
          | true =>
              refine ⟨_, rfl, rfl, by simp [SettingCall.Accepted, SettingCall.StoredIn, hCheck], ?_⟩
              simp [SettingCall.Accepted, SettingCall.StoredIn, hCheck, settings, eq_comm]
  | setVideoParameters fps width height =>
      rw [SettingCall.call, RecordableCall.routine, setVideoParameters_run]
      refine ⟨_, rfl, rfl, by simp [SettingCall.Accepted, SettingCall.StoredIn], ?_⟩
      simp [SettingCall.Accepted, SettingCall.StoredIn, settings, eq_comm]

/-- With a recorder there is no null pointer to touch. -/
theorem setting_touches_recorder (clock : Clock) (r : VideoRecorder φ δ) (state : RecordState) (c : SettingCall δ)
    (s' : Recordable φ δ) :
    (RecordableCall.routine clock c.call).run (withRecorder r state) ≠
      .error (.nullDereference "video_recorder_") s' := by
  cases c with
  | setRecordFilePath recordFilePath answers =>
      rw [SettingCall.call, RecordableCall.routine, setRecordFilePath_run]
      cases isValidRecordFilePath recordFilePath answers with
      | error what => simp
      | ok valid => cases valid <;> simp
  | setVideoParameters fps width height =>
      rw [SettingCall.call, RecordableCall.routine, setVideoParameters_run]
      simp

/-- Without one, an accepted call touches it. -/
theorem setting_touches_null (clock : Clock) (c : SettingCall δ) :
    (∃ s', (RecordableCall.routine clock c.call).run
        ({ recordable := false, videoRecorder := none } : Recordable φ δ) =
        .error (.nullDereference "video_recorder_") s') ↔ c.Accepted := by
  cases c with
  | setRecordFilePath recordFilePath answers =>
      rw [SettingCall.call, RecordableCall.routine, setRecordFilePath, EStateM.run_bind, checkPath_run]
      cases hCheck : isValidRecordFilePath recordFilePath answers with
      | error what => simp [SettingCall.Accepted, hCheck]
      | ok valid => cases valid <;> simp [SettingCall.Accepted, hCheck, onRecorder_run_none]
  | setVideoParameters fps width height =>
      simp [SettingCall.call, RecordableCall.routine, setVideoParameters, SettingCall.Accepted, onRecorder_run_none]

/-! ## The next `StartRecording` -/

/-- The writer is opened with what the recorder holds. -/
theorem usedBy_openArguments (clock : Clock) (now : Int) (r : VideoRecorder φ δ) (c : SettingCall δ) :
    c.UsedBy clock now (r.openArguments clock now) ↔ c.StoredIn r := by
  cases c with
  | setRecordFilePath recordFilePath answers =>
      simp [SettingCall.UsedBy, SettingCall.StoredIn, VideoRecorder.openArguments, getFilename]
  | setVideoParameters fps width height =>
      simp [SettingCall.UsedBy, SettingCall.StoredIn, VideoRecorder.openArguments]

/-- A call other than `StartRecording` and the setter itself keeps what the setter stored. -/
theorem step_between (clock : Clock) {c : SettingCall δ} {call : RecordableCall φ δ} (hAllowed : c.Allows call)
    {r : VideoRecorder φ δ} (hClosed : r.videoWriter.isOpened = false) :
    ∃ r', recordableStep clock (withRecorder r .notRecording) call = withRecorder r' .notRecording ∧
      r'.videoWriter = r.videoWriter ∧ (c.StoredIn r' ↔ c.StoredIn r) := by
  unfold recordableStep
  cases call with
  | setRecordFilePath recordFilePath answers =>
      rw [RecordableCall.routine, setRecordFilePath_run]
      cases isValidRecordFilePath recordFilePath answers with
      | error what => exact ⟨r, rfl, rfl, Iff.rfl⟩
      | ok valid =>
          cases valid with
          | false => exact ⟨r, rfl, rfl, Iff.rfl⟩
          | true =>
              cases c with
              | setRecordFilePath recordFilePath' answers' => exact hAllowed.elim
              | setVideoParameters fps width height => exact ⟨_, rfl, rfl, Iff.rfl⟩
  | setVideoParameters fps width height =>
      rw [RecordableCall.routine, setVideoParameters_run]
      cases c with
      | setRecordFilePath recordFilePath answers => exact ⟨_, rfl, rfl, Iff.rfl⟩
      | setVideoParameters fps' width' height' => exact hAllowed.elim
  | startRecording now opening => cases c <;> exact hAllowed.elim
  | pauseRecording =>
      rw [RecordableCall.routine, pauseRecording_run]
      exact ⟨r, rfl, rfl, Iff.rfl⟩
  | resumeRecording =>
      rw [RecordableCall.routine, resumeRecording_run]
      exact ⟨r, rfl, rfl, Iff.rfl⟩
  | stopRecording =>
      rw [RecordableCall.routine, stopRecording_run, hClosed]
      exact ⟨r, rfl, rfl, Iff.rfl⟩
  | recordFrame frame =>
      rw [RecordableCall.routine, recordFrame_run _ _ _ (by simp)]
      exact ⟨r, rfl, rfl, Iff.rfl⟩

theorem run_between (clock : Clock) {c : SettingCall δ} {between : List (RecordableCall φ δ)}
    (hAllowed : ∀ call ∈ between, c.Allows call) {r : VideoRecorder φ δ} (hClosed : r.videoWriter.isOpened = false) :
    ∃ r', run (recordableStep clock) (withRecorder r .notRecording) between = withRecorder r' .notRecording ∧
      r'.videoWriter = r.videoWriter ∧ (c.StoredIn r' ↔ c.StoredIn r) := by
  induction between generalizing r with
  | nil => exact ⟨r, rfl, rfl, Iff.rfl⟩
  | cons call rest ih =>
      obtain ⟨r₁, hStep, hWriter₁, hStored₁⟩ := step_between clock (hAllowed call List.mem_cons_self) hClosed
      obtain ⟨r₂, hRun, hWriter₂, hStored₂⟩ :=
        ih (fun call' hMem => hAllowed call' (List.mem_cons_of_mem _ hMem)) (hWriter₁ ▸ hClosed)
      exact ⟨r₂, by rw [run_cons, hStep, hRun], hWriter₂.trans hWriter₁, hStored₂.trans hStored₁⟩

/-- `StartRecording` opens the closed writer with what the recorder holds. -/
theorem writerCalls_startRecording (clock : Clock) (now : Int) (opening : Opening) {r : VideoRecorder φ δ}
    (hClosed : r.videoWriter.isOpened = false) :
    (recordableStep clock (withRecorder r .notRecording) (.startRecording now opening)).writerCalls =
      r.videoWriter.calls ++ [.openFile (r.openArguments clock now)] := by
  rw [recordableStep, RecordableCall.routine, startRecording_run_closed _ _ _ _ _ hClosed]
  cases opening <;> rfl

theorem usedByNextStart_iff (clock : Clock) {r : VideoRecorder φ δ} (hClosed : r.videoWriter.isOpened = false)
    (c : SettingCall δ) : UsedByNextStart clock (withRecorder r .notRecording) c ↔ c.StoredIn r := by
  constructor
  · intro hUsed
    obtain ⟨arguments, hCalls, hValues⟩ := hUsed [] 0 .opens (by simp)
    rw [List.nil_append, run_cons, run_nil, run_nil, writerCalls_startRecording clock 0 .opens hClosed] at hCalls
    have hArguments : arguments = r.openArguments clock 0 := by
      simpa [writerCalls, eq_comm] using hCalls
    rwa [hArguments, usedBy_openArguments] at hValues
  · intro hStored between now opening hAllowed
    obtain ⟨r', hRun, hWriter, hKept⟩ := run_between clock hAllowed hClosed
    refine ⟨r'.openArguments clock now, ?_, (usedBy_openArguments clock now r' c).mpr (hKept.mpr hStored)⟩
    rw [run_append, hRun, run_cons, run_nil, writerCalls_startRecording clock now opening (hWriter ▸ hClosed)]
    rfl

/-! ## When the settings are protected -/

/-- Not recordable: the settings are protected exactly from the calls that are not accepted. -/
theorem settingsProtected_of_not_recordable (clock : Clock) (c : SettingCall δ) :
    SettingsProtected clock ({ recordable := false, videoRecorder := none } : Recordable φ δ) c ↔ ¬ c.Accepted := by
  have hRefuses : Refuses ({ recordable := false, videoRecorder := none } : Recordable φ δ) := .inl rfl
  constructor
  · intro hProtected hAccepted
    obtain ⟨s', hNull⟩ := (setting_touches_null clock c).mpr hAccepted
    exact (hProtected.1 hRefuses).2 s' hNull
  · intro hRejected
    refine ⟨fun _ => ⟨by rw [step_of_not_recordable], fun s' hNull => ?_⟩, fun h => (h hRefuses).elim⟩
    exact hRejected ((setting_touches_null clock c).mp ⟨s', hNull⟩)

/-- With a recorder, while recording or paused: the settings are protected from the calls that are not accepted and
from those that change nothing. -/
theorem settingsProtected_of_refuses (clock : Clock) {r : VideoRecorder φ δ} {state : RecordState}
    (hRefuses : (withRecorder r state).Refuses) (c : SettingCall δ) :
    SettingsProtected clock (withRecorder r state) c ↔ (c.Accepted → c.StoredIn r) := by
  obtain ⟨r', hStep, -, -, hSettings⟩ := step_setting clock r state c
  rw [← hSettings, ← hStep]
  constructor
  · intro hProtected
    exact (hProtected.1 hRefuses).1
  · intro hSame
    exact ⟨fun _ => ⟨hSame, setting_touches_recorder clock r state c⟩, fun h => (h hRefuses).elim⟩

/-- Idle: the values are used from then on if the call is accepted, or if they were the values already. -/
theorem settingsProtected_of_idle (clock : Clock) {r : VideoRecorder φ δ} (hClosed : r.videoWriter.isOpened = false)
    (c : SettingCall δ) :
    SettingsProtected clock (withRecorder r .notRecording) c ↔ c.Accepted ∨ c.StoredIn r := by
  have hIdle : ¬ (withRecorder r .notRecording).Refuses := by simp [Refuses]
  obtain ⟨r', hStep, hWriter, hStored, -⟩ := step_setting clock r .notRecording c
  rw [← hStored, ← usedByNextStart_iff clock (hWriter ▸ hClosed) c, ← hStep]
  constructor
  · intro hProtected
    exact hProtected.2 hIdle
  · intro hUsed
    exact ⟨fun h => (hIdle h).elim, fun _ => hUsed⟩

/-- In every reachable state a setter does what it should exactly if it goes through where it may and is stopped by
its own check where it may not, or the recorder holds its values already. -/
theorem settingsProtected_iff (clock : Clock) {s : Recordable φ δ} (hReachable : Reachable clock s)
    (c : SettingCall δ) :
    SettingsProtected clock s c ↔ (c.Accepted ↔ ¬ s.Refuses) ∨ s.Holds c := by
  rcases recorderAgrees_cases hReachable.recorderAgrees with rfl | ⟨r, state, rfl, hWriter⟩
  · have hRefuses : Refuses ({ recordable := false, videoRecorder := none } : Recordable φ δ) := .inl rfl
    have hNothing : ¬ Holds ({ recordable := false, videoRecorder := none } : Recordable φ δ) c := by
      rintro ⟨r, hSome, -⟩
      cases hSome
    rw [settingsProtected_of_not_recordable]
    simp [hRefuses, hNothing]
  · have hHolds : (withRecorder r state).Holds c ↔ c.StoredIn r := by simp [Holds]
    rw [hHolds]
    by_cases hState : state = .notRecording
    · subst hState
      have hClosed : r.videoWriter.isOpened = false := by simpa using hWriter
      have hIdle : ¬ (withRecorder r .notRecording).Refuses := by simp [Refuses]
      rw [settingsProtected_of_idle clock hClosed]
      simp [hIdle]
    · have hRefuses : (withRecorder r state).Refuses := .inr hState
      rw [settingsProtected_of_refuses clock hRefuses]
      simp only [hRefuses, not_true, iff_false]
      exact imp_iff_not_or

/-- The object of `fresh`, recording. -/
def inProgress : Recordable Nat Rat :=
  run (recordableStep firstDay) fresh [.startRecording 0 .opens]

theorem reachable_inProgress : Reachable firstDay inProgress :=
  ⟨true, writableDirectory, fresh, [.startRecording 0 .opens], rfl, rfl⟩

theorem settingsProtected_iff_inProgress :
    SettingsProtected firstDay inProgress (.setVideoParameters 60 1280 720) ↔
      (SettingCall.Accepted (.setVideoParameters (60 : Rat) 1280 720) ↔ ¬ inProgress.Refuses) ∨
        inProgress.Holds (.setVideoParameters 60 1280 720) :=
  settingsProtected_iff firstDay reachable_inProgress (.setVideoParameters 60 1280 720)

/-- The path of a recording in progress is replaced. -/
theorem path_changes_while_recording :
    ¬ ∀ s : Recordable Nat Rat, Reachable firstDay s → ∀ c, SettingsProtected firstDay s c := by
  intro hAlways
  have hProtected := hAlways inProgress reachable_inProgress (.setRecordFilePath "./other" writableDirectory)
  have hSame := (hProtected.1 (.inr (by decide))).1
  exact absurd hSame (by decide)

end Recordable

end MosaicCore
