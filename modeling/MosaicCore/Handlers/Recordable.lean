import MosaicCore.Handlers.VideoRecorder
import MosaicCore.Library.EventRun

/-!
# Recording the frames of a track

`Recordable` of `recordable.cpp`.  The recording state lives here and the open or closed writer in the
`VideoRecorder`; the invariant `RecorderAgrees` ties the two together.  What the file system answers is an
argument of the calls that ask it.
-/

namespace MosaicCore

open EffectProgram EventRun

/-! ## The path of the recordings -/

/-- What the file system answers about one path; a query may throw a `filesystem_error` instead. -/
structure PathAnswers where
  present : Except String Bool
  createDirectories : Except String Unit
  isDirectory : Except String Bool
  /-- The write bits of the owner, the group and the others. -/
  writePermissions : Except String (Bool × Bool × Bool)

/-- `IsValidRecordFilePath`.  Of all the queries only `create_directories` is inside a `try`. -/
def isValidRecordFilePath (recordFilePath : String) (answers : PathAnswers) : Except String Bool := do
  if recordFilePath.isEmpty then
    return false
  if !(← answers.present) then
    if let .error _ := answers.createDirectories then
      return false
  if !(← answers.isDirectory) then
    return false
  let (ownerWrite, groupWrite, othersWrite) ← answers.writePermissions
  if !ownerWrite && !groupWrite && !othersWrite then
    return false
  return true

/-- Check a path from inside a routine. -/
def checkPath {σ : Type} (recordFilePath : String) (answers : PathAnswers) : Program σ Bool := fun s =>
  match isValidRecordFilePath recordFilePath answers with
  | .ok valid => .ok valid s
  | .error what => .error (.exception what) s

theorem checkPath_run {σ : Type} (recordFilePath : String) (answers : PathAnswers) (s : σ) :
    (checkPath recordFilePath answers).run s =
      match isValidRecordFilePath recordFilePath answers with
      | .ok valid => .ok valid s
      | .error what => .error (.exception what) s := rfl

/-! ## The recordable -/

/-- `RecordState`. -/
inductive RecordState
  | notRecording
  | recording
  | paused
  deriving DecidableEq, Repr

/-- `Recordable::Impl`. -/
structure Recordable (φ δ : Type) [OfScientific δ] where
  recordable : Bool := false
  videoRecorder : Option (VideoRecorder φ δ) := none
  recordState : RecordState := .notRecording
  deriving Repr

variable {φ δ : Type} [OfScientific δ]

namespace Recordable

/-- `video_recorder_->`. -/
def onRecorder {α : Type} (p : Program (VideoRecorder φ δ) α) : Program (Recordable φ δ) α := do
  let r ← dereference "video_recorder_" (← get).videoRecorder
  zoom (fun _ => r) (fun r' s => { s with videoRecorder := some r' }) p

/-- `Impl(recordable)`. -/
def construct (recordable : Bool) (answers : PathAnswers) : Program (Recordable φ δ) PUnit := do
  modify fun s => { s with recordable := recordable }
  if recordable then
    let defaultRecordFilePath := "./recordings"
    if ← checkPath defaultRecordFilePath answers then
      modify fun s => { s with videoRecorder := some { recordFilePath := defaultRecordFilePath } }
    else
      modify fun s => { s with recordable := false }

/-- `SetRecordFilePath`.  The guard only logs. -/
def setRecordFilePath (recordFilePath : String) (answers : PathAnswers) : Program (Recordable φ δ) PUnit := do
  if ← checkPath recordFilePath answers then
    onRecorder (VideoRecorder.setRecordFilePath recordFilePath)

/-- `SetVideoParameters`.  The guard only logs. -/
def setVideoParameters (fps : δ) (width height : Int) : Program (Recordable φ δ) PUnit :=
  onRecorder (VideoRecorder.setVideoParameters fps width height)

/-- `StartRecording`, at the clock reading `now`. -/
def startRecording (clock : Clock) (now : Int) (opening : Opening) : Program (Recordable φ δ) PUnit := do
  let s ← get
  if s.recordable && s.videoRecorder.isSome then
    onRecorder (VideoRecorder.start clock now opening)
    modify fun s => { s with recordState := .recording }

/-- `PauseRecording`. -/
def pauseRecording : Program (Recordable φ δ) PUnit := do
  let s ← get
  if s.recordable && s.recordState = .recording then
    modify fun s => { s with recordState := .paused }

/-- `ResumeRecording`. -/
def resumeRecording : Program (Recordable φ δ) PUnit := do
  let s ← get
  if s.recordable && s.recordState = .paused then
    modify fun s => { s with recordState := .recording }

/-- `StopRecording`. -/
def stopRecording : Program (Recordable φ δ) PUnit := do
  let s ← get
  if s.recordable && s.videoRecorder.isSome then
    onRecorder VideoRecorder.stop
    modify fun s => { s with recordState := .notRecording }

/-- `RecordFrame`. -/
def recordFrame (frame : φ) : Program (Recordable φ δ) PUnit := do
  let s ← get
  if s.recordable && s.recordState = .recording then
    onRecorder (VideoRecorder.saveFrame frame)

end Recordable

/-! ## Runs -/

/-- A call on a `Recordable`, with what the outside answers during it. -/
inductive RecordableCall (φ δ : Type)
  | setRecordFilePath (recordFilePath : String) (answers : PathAnswers)
  | setVideoParameters (fps : δ) (width height : Int)
  | startRecording (now : Int) (opening : Opening)
  | pauseRecording
  | resumeRecording
  | stopRecording
  | recordFrame (frame : φ)

/-- The routine a call runs. -/
def RecordableCall.routine (clock : Clock) : RecordableCall φ δ → Program (Recordable φ δ) PUnit
  | .setRecordFilePath recordFilePath answers => Recordable.setRecordFilePath recordFilePath answers
  | .setVideoParameters fps width height => Recordable.setVideoParameters fps width height
  | .startRecording now opening => Recordable.startRecording clock now opening
  | .pauseRecording => Recordable.pauseRecording
  | .resumeRecording => Recordable.resumeRecording
  | .stopRecording => Recordable.stopRecording
  | .recordFrame frame => Recordable.recordFrame frame

/-- One call, returning or throwing. -/
def recordableStep (clock : Clock) (s : Recordable φ δ) (call : RecordableCall φ δ) : Recordable φ δ :=
  finalState ((call.routine clock).run s)

namespace Recordable

/-- The writer is open. -/
def writerOpened (s : Recordable φ δ) : Bool :=
  s.videoRecorder.any fun r => r.videoWriter.isOpened

/-- The calls on the writer so far. -/
def writerCalls (s : Recordable φ δ) : List (WriterCall φ δ) :=
  (s.videoRecorder.map fun r => r.videoWriter.calls).getD []

/-- A recorder exists on a recordable object, and its writer is open while recording or paused. -/
structure RecorderAgrees (s : Recordable φ δ) : Prop where
  present : s.videoRecorder.isSome = s.recordable
  agrees : s.writerOpened = true ↔ s.recordState ≠ .notRecording

/-- Either there is nothing to record with, or the recorder and the state agree. -/
theorem recorderAgrees_cases {s : Recordable φ δ} (h : s.RecorderAgrees) :
    s = { recordable := false, videoRecorder := none, recordState := .notRecording } ∨
      ∃ r state, s = { recordable := true, videoRecorder := some r, recordState := state } ∧
        (r.videoWriter.isOpened = true ↔ state ≠ .notRecording) := by
  obtain ⟨recordable, recorder, state⟩ := s
  obtain ⟨hPresent, hAgrees⟩ := h
  cases recorder with
  | none =>
      left
      have hRecordable : recordable = false := by simpa using hPresent.symm
      have hState : state = .notRecording := by simpa [writerOpened] using hAgrees
      rw [hRecordable, hState]
  | some r =>
      right
      have hRecordable : recordable = true := by simpa using hPresent.symm
      exact ⟨r, state, by rw [hRecordable], by simpa [writerOpened] using hAgrees⟩

/-! ## One call -/

/-- A recordable object in the state `state`, recording through `r`. -/
abbrev withRecorder (r : VideoRecorder φ δ) (state : RecordState) : Recordable φ δ :=
  { recordable := true, videoRecorder := some r, recordState := state }

/-- A routine of the recorder, run where there is one. -/
theorem onRecorder_run {α : Type} (p : Program (VideoRecorder φ δ) α) (r : VideoRecorder φ δ) (state : RecordState) :
    (onRecorder p).run (withRecorder r state) =
      match p.run r with
      | .ok a r' => .ok a (withRecorder r' state)
      | .error e r' => .error e (withRecorder r' state) := by
  simp only [onRecorder, EStateM.run_bind, EStateM.run_get, dereference_some, EStateM.run_pure, zoom_run]
  cases p.run r <;> rfl

theorem onRecorder_run_none {α : Type} (p : Program (VideoRecorder φ δ) α) {s : Recordable φ δ}
    (hNone : s.videoRecorder = none) : (onRecorder p).run s = .error (.nullDereference "video_recorder_") s := by
  simp only [onRecorder, EStateM.run_bind, EStateM.run_get, hNone, dereference_none, run_throw]

section Calls

variable (clock : Clock) (r : VideoRecorder φ δ) (state : RecordState)

theorem setRecordFilePath_run (recordFilePath : String) (answers : PathAnswers) :
    (setRecordFilePath recordFilePath answers).run (withRecorder r state) =
      match isValidRecordFilePath recordFilePath answers with
      | .ok true => .ok () (withRecorder { r with recordFilePath := recordFilePath } state)
      | .ok false => .ok () (withRecorder r state)
      | .error what => .error (.exception what) (withRecorder r state) := by
  rw [setRecordFilePath, EStateM.run_bind, checkPath_run]
  cases isValidRecordFilePath recordFilePath answers with
  | error what => rfl
  | ok valid =>
      cases valid with
      | false => rfl
      | true => simp [onRecorder_run, VideoRecorder.setRecordFilePath]

theorem setVideoParameters_run (fps : δ) (width height : Int) :
    (setVideoParameters fps width height).run (withRecorder r state) =
      .ok () (withRecorder { r with fps := fps, width := width, height := height } state) := by
  simp [setVideoParameters, onRecorder_run, VideoRecorder.setVideoParameters]

theorem startRecording_run_opened (now : Int) (opening : Opening) (hOpened : r.videoWriter.isOpened = true) :
    (startRecording clock now opening).run (withRecorder r state) = .ok () (withRecorder r .recording) := by
  simp [startRecording, EStateM.run_bind, onRecorder_run, VideoRecorder.start_run_opened, hOpened]

theorem startRecording_run_closed (now : Int) (opening : Opening) (hClosed : r.videoWriter.isOpened = false) :
    (startRecording clock now opening).run (withRecorder r state) =
      match opening with
      | .opens => .ok () (withRecorder (r.afterOpening clock now opening) .recording)
      | .fails => .error (.exception "Failed to open video writer")
          (withRecorder (r.afterOpening clock now opening) state)
      | .throws what => .error (.exception what) (withRecorder (r.afterOpening clock now opening) state) := by
  cases opening <;>
    simp [startRecording, EStateM.run_bind, onRecorder_run, VideoRecorder.start_run_closed, hClosed]

theorem pauseRecording_run :
    (pauseRecording : Program (Recordable φ δ) PUnit).run (withRecorder r state) =
      .ok () (withRecorder r (if state = .recording then .paused else state)) := by
  cases state <;> simp [pauseRecording, EStateM.run_bind]

theorem resumeRecording_run :
    (resumeRecording : Program (Recordable φ δ) PUnit).run (withRecorder r state) =
      .ok () (withRecorder r (if state = .paused then .recording else state)) := by
  cases state <;> simp [resumeRecording, EStateM.run_bind]

theorem stopRecording_run :
    (stopRecording : Program (Recordable φ δ) PUnit).run (withRecorder r state) =
      .ok () (withRecorder (if r.videoWriter.isOpened then
        { r with videoWriter := { isOpened := false, calls := r.videoWriter.calls ++ [.release] } } else r)
        .notRecording) := by
  simp [stopRecording, EStateM.run_bind, onRecorder_run, VideoRecorder.stop_run]

/-- While recording, with an open writer, a frame is written; otherwise nothing happens. -/
theorem recordFrame_run (frame : φ) (hOpened : state = .recording → r.videoWriter.isOpened = true) :
    (recordFrame frame).run (withRecorder r state) =
      .ok () (if state = .recording then
        withRecorder { r with
          videoWriter := { r.videoWriter with calls := r.videoWriter.calls ++ [.write frame] } } state
      else withRecorder r state) := by
  by_cases hState : state = .recording
  · simp [recordFrame, EStateM.run_bind, hState, onRecorder_run, VideoRecorder.saveFrame_run_opened, hOpened hState]
  · simp [recordFrame, EStateM.run_bind, hState]

end Calls

/-- Without a recorder no call changes anything. -/
theorem step_of_not_recordable (clock : Clock) (call : RecordableCall φ δ) :
    recordableStep clock ({ recordable := false, videoRecorder := none } : Recordable φ δ) call =
      { recordable := false, videoRecorder := none } := by
  unfold recordableStep
  cases call with
  | setRecordFilePath recordFilePath answers =>
      simp only [RecordableCall.routine, setRecordFilePath, EStateM.run_bind, checkPath_run]
      cases isValidRecordFilePath recordFilePath answers with
      | error what => rfl
      | ok valid => cases valid <;> rfl
  | setVideoParameters fps width height => rfl
  | startRecording now opening => rfl
  | pauseRecording => rfl
  | resumeRecording => rfl
  | stopRecording => rfl
  | recordFrame frame => rfl

/-! ## The frames a call passes on -/

/-- The frame that a call passes to `RecordFrame` while the state is `Recording`. -/
def frameWhileRecording (s : Recordable φ δ) : RecordableCall φ δ → List φ
  | .recordFrame frame => if s.recordState = .recording then [frame] else []
  | _ => []

/-- The frames that a run passes to `RecordFrame` while the state is `Recording`, in order. -/
def framesWhileRecording (clock : Clock) (s : Recordable φ δ) : List (RecordableCall φ δ) → List φ
  | [] => []
  | call :: rest => frameWhileRecording s call ++ framesWhileRecording clock (recordableStep clock s call) rest

/-- What a call does to the writer and the recording state: nothing that matters, an attempt to open the
closed writer, a release of the open one, or one written frame. -/
theorem step_cases (clock : Clock) {r : VideoRecorder φ δ} {state : RecordState}
    (hWriter : r.videoWriter.isOpened = true ↔ state ≠ .notRecording) (call : RecordableCall φ δ) :
    ∃ r' state', recordableStep clock (withRecorder r state) call = withRecorder r' state' ∧
      ((r'.videoWriter = r.videoWriter ∧ (state' = .notRecording ↔ state = .notRecording) ∧
          frameWhileRecording (withRecorder r state) call = []) ∨
        (∃ now opening, call = .startRecording now opening ∧ state = .notRecording ∧
          r' = r.afterOpening clock now opening ∧
          state' = if opening = .opens then .recording else .notRecording) ∨
        (call = .stopRecording ∧ state ≠ .notRecording ∧ state' = .notRecording ∧
          r'.videoWriter = { isOpened := false, calls := r.videoWriter.calls ++ [.release] }) ∨
        ∃ frame, call = .recordFrame frame ∧ state = .recording ∧ state' = .recording ∧
          r'.videoWriter = { r.videoWriter with calls := r.videoWriter.calls ++ [.write frame] }) := by
  unfold recordableStep
  cases call with
  | setRecordFilePath recordFilePath answers =>
      rw [RecordableCall.routine, setRecordFilePath_run]
      cases isValidRecordFilePath recordFilePath answers with
      | error what => exact ⟨r, state, rfl, .inl ⟨rfl, Iff.rfl, rfl⟩⟩
      | ok valid =>
          cases valid with
          | false => exact ⟨r, state, rfl, .inl ⟨rfl, Iff.rfl, rfl⟩⟩
          | true => exact ⟨_, state, rfl, .inl ⟨rfl, Iff.rfl, rfl⟩⟩
  | setVideoParameters fps width height =>
      rw [RecordableCall.routine, setVideoParameters_run]
      exact ⟨_, state, rfl, .inl ⟨rfl, Iff.rfl, rfl⟩⟩
  | startRecording now opening =>
      rw [RecordableCall.routine]
      cases hOpened : r.videoWriter.isOpened with
      | true =>
          have hState : state ≠ .notRecording := hWriter.mp hOpened
          rw [startRecording_run_opened _ _ _ _ _ hOpened]
          exact ⟨r, .recording, rfl, .inl ⟨rfl, by simp [hState], rfl⟩⟩
      | false =>
          -- A failing opening leaves the writer closed and the state as it was.
          have hState : state = .notRecording := by simpa [hOpened] using hWriter
          subst hState
          rw [startRecording_run_closed _ _ _ _ _ hOpened]
          cases opening <;> exact ⟨_, _, rfl, .inr (.inl ⟨now, _, rfl, rfl, rfl, rfl⟩)⟩
  | pauseRecording =>
      rw [RecordableCall.routine, pauseRecording_run]
      exact ⟨r, _, rfl, .inl ⟨rfl, by cases state <;> simp, rfl⟩⟩
  | resumeRecording =>
      rw [RecordableCall.routine, resumeRecording_run]
      exact ⟨r, _, rfl, .inl ⟨rfl, by cases state <;> simp, rfl⟩⟩
  | stopRecording =>
      rw [RecordableCall.routine, stopRecording_run]
      cases hOpened : r.videoWriter.isOpened with
      | true => exact ⟨_, _, rfl, .inr (.inr (.inl ⟨rfl, hWriter.mp hOpened, rfl, rfl⟩))⟩
      | false =>
          have hState : state = .notRecording := by simpa [hOpened] using hWriter
          exact ⟨r, .notRecording, rfl, .inl ⟨rfl, by simp [hState], rfl⟩⟩
  | recordFrame frame =>
      rw [RecordableCall.routine, recordFrame_run _ _ _ (fun hState => hWriter.mpr (by simp [hState]))]
      by_cases hState : state = .recording
      · subst hState
        exact ⟨_, _, rfl, .inr (.inr (.inr ⟨frame, rfl, rfl, rfl, rfl⟩))⟩
      · rw [if_neg hState]
        exact ⟨r, state, rfl, .inl ⟨rfl, Iff.rfl, if_neg hState⟩⟩

/-! ## The recorder agrees with the state -/

theorem recorderAgrees_withRecorder {r : VideoRecorder φ δ} {state : RecordState} :
    (withRecorder r state).RecorderAgrees ↔ (r.videoWriter.isOpened = true ↔ state ≠ .notRecording) := by
  constructor
  · rintro ⟨_, hAgrees⟩
    simpa [writerOpened] using hAgrees
  · intro hAgrees
    exact ⟨rfl, by simpa [writerOpened] using hAgrees⟩

/-- A constructed object has a recorder exactly if it is recordable, and records nothing yet. -/
theorem construct_cases {recordable : Bool} {answers : PathAnswers} {s : Recordable φ δ}
    (hBuilt : (construct recordable answers : Program (Recordable φ δ) PUnit).run {} = .ok () s) :
    s = { recordable := false, videoRecorder := none } ∨
      s = withRecorder ({ recordFilePath := "./recordings" } : VideoRecorder φ δ) .notRecording := by
  cases recordable with
  | false =>
      simp only [construct, EStateM.run_bind] at hBuilt
      cases hBuilt
      exact .inl rfl
  | true =>
      simp only [construct, EStateM.run_bind, EStateM.run_modify, checkPath_run, if_true] at hBuilt
      cases hCheck : isValidRecordFilePath "./recordings" answers with
      | error what => simp [hCheck] at hBuilt
      | ok valid =>
          rw [hCheck] at hBuilt
          cases valid with
          | false =>
              cases hBuilt
              exact .inl rfl
          | true =>
              cases hBuilt
              exact .inr rfl

theorem recorderAgrees_construct {recordable : Bool} {answers : PathAnswers} {s : Recordable φ δ}
    (hBuilt : (construct recordable answers : Program (Recordable φ δ) PUnit).run {} = .ok () s) :
    s.RecorderAgrees := by
  rcases construct_cases hBuilt with rfl | rfl
  · exact ⟨rfl, by simp [writerOpened]⟩
  · exact recorderAgrees_withRecorder.mpr (by simp)

theorem recorderAgrees_step (clock : Clock) {s : Recordable φ δ} (h : s.RecorderAgrees) (call : RecordableCall φ δ) :
    (recordableStep clock s call).RecorderAgrees := by
  rcases recorderAgrees_cases h with rfl | ⟨r, state, rfl, hWriter⟩
  · rw [step_of_not_recordable]
    exact h
  · obtain ⟨r', state', hStep, hCase⟩ := step_cases clock hWriter call
    rw [hStep, recorderAgrees_withRecorder]
    rcases hCase with ⟨hSame, hState, -⟩ | ⟨now, opening, -, -, rfl, rfl⟩ | ⟨-, -, rfl, hReleased⟩ |
      ⟨frame, -, rfl, rfl, hWritten⟩
    · rw [hSame, hWriter, Ne, Ne, hState]
    · cases opening <;> simp [VideoRecorder.afterOpening]
    · simp [hReleased]
    · simpa [hWritten] using hWriter

/-- A state of a constructed object after some calls. -/
def Reachable (clock : Clock) (s : Recordable φ δ) : Prop :=
  ∃ recordable answers s₀ calls,
    (construct recordable answers : Program (Recordable φ δ) PUnit).run {} = .ok () s₀ ∧
      run (recordableStep clock) s₀ calls = s

theorem Reachable.recorderAgrees {clock : Clock} {s : Recordable φ δ} (h : Reachable clock s) :
    s.RecorderAgrees := by
  obtain ⟨recordable, answers, s₀, calls, hBuilt, rfl⟩ := h
  exact run_invariant (I := RecorderAgrees) (A := fun _ => True)
    (fun _ call _ hs => recorderAgrees_step clock hs call) (recorderAgrees_construct hBuilt) fun _ _ => trivial

/-! ## The frames of a recording -/

/-- The call opens the closed writer. -/
def OpensWriter (clock : Clock) (s : Recordable φ δ) (call : RecordableCall φ δ) : Prop :=
  s.writerOpened = false ∧ (recordableStep clock s call).writerOpened = true

/-- A call that opens the writer adds just that to its log. -/
theorem writerCalls_of_opensWriter {clock : Clock} {s : Recordable φ δ} (h : s.RecorderAgrees)
    {call : RecordableCall φ δ} (hOpens : OpensWriter clock s call) :
    ∃ arguments, (recordableStep clock s call).writerCalls = s.writerCalls ++ [.openFile arguments] := by
  obtain ⟨hClosed, hOpened⟩ := hOpens
  rcases recorderAgrees_cases h with rfl | ⟨r, state, rfl, hWriter⟩
  · rw [step_of_not_recordable] at hOpened
    simp [writerOpened] at hOpened
  · obtain ⟨r', state', hStep, hCase⟩ := step_cases clock hWriter call
    rw [hStep] at hOpened ⊢
    simp only [writerOpened, Option.any_some] at hClosed hOpened
    rcases hCase with ⟨hSame, -, -⟩ | ⟨now, opening, -, -, rfl, -⟩ | ⟨-, -, -, hReleased⟩ |
      ⟨frame, -, -, -, hWritten⟩
    · simp [hSame, hClosed] at hOpened
    · exact ⟨r.openArguments clock now, rfl⟩
    · simp [hReleased] at hOpened
    · simp [hWritten, hClosed] at hOpened

/-- A call that keeps the writer open adds to its log the frame passed on while recording, and a call that
closes it adds the release. -/
theorem writerCalls_of_opened (clock : Clock) {s : Recordable φ δ} (h : s.RecorderAgrees)
    (hOpened : s.writerOpened = true) (call : RecordableCall φ δ) :
    (recordableStep clock s call).writerCalls =
      s.writerCalls ++
        if (recordableStep clock s call).writerOpened then (frameWhileRecording s call).map .write
        else [.release] := by
  rcases recorderAgrees_cases h with rfl | ⟨r, state, rfl, hWriter⟩
  · simp [writerOpened] at hOpened
  · obtain ⟨r', state', hStep, hCase⟩ := step_cases clock hWriter call
    simp only [writerOpened, Option.any_some] at hOpened
    rw [hStep]
    rcases hCase with ⟨hSame, -, hFrame⟩ | ⟨now, opening, -, hState, -, -⟩ | ⟨rfl, -, -, hReleased⟩ |
      ⟨frame, rfl, rfl, -, hWritten⟩
    · simp [writerCalls, writerOpened, hSame, hOpened, hFrame]
    · exact absurd hState (hWriter.mp hOpened)
    · simp [writerCalls, writerOpened, hReleased]
    · simp [writerCalls, writerOpened, hWritten, hOpened, frameWhileRecording]

/-- While the writer stays open, its log grows by the frames passed on while recording. -/
theorem writerCalls_of_staysOpen {clock : Clock} {s : Recordable φ δ} (h : s.RecorderAgrees)
    {during : List (RecordableCall φ δ)}
    (hOpen : Throughout (recordableStep clock) (fun s => s.writerOpened = true) s during) :
    (run (recordableStep clock) s during).writerCalls =
      s.writerCalls ++ (framesWhileRecording clock s during).map .write := by
  induction during generalizing s with
  | nil => simp [framesWhileRecording]
  | cons call rest ih =>
      have hStays : (recordableStep clock s call).writerOpened = true := hOpen.2.first
      rw [run_cons, ih (recorderAgrees_step clock h call) hOpen.2, writerCalls_of_opened clock h hOpen.1,
        if_pos hStays, framesWhileRecording, List.map_append, List.append_assoc]

/-- `RecordFrame` returns. -/
theorem recordFrame_returns (clock : Clock) {s : Recordable φ δ} (h : s.RecorderAgrees) (frame : φ) :
    ∃ s', (RecordableCall.routine clock (.recordFrame frame)).run s = .ok () s' := by
  rcases recorderAgrees_cases h with rfl | ⟨r, state, rfl, hWriter⟩
  · exact ⟨_, rfl⟩
  · exact ⟨_, recordFrame_run r state frame fun hState => hWriter.mpr (by simp [hState])⟩

/-- In every reachable state: the state is `Recording` or `Paused` exactly while the writer is open, and
`RecordFrame` returns.  From an opening of the writer until its release the writer gets the frames passed to
`RecordFrame` while the state was `Recording`, in order, and nothing else. -/
theorem recording_captures (clock : Clock) {s : Recordable φ δ} (hReachable : Reachable clock s) :
    (s.recordState = .recording ∨ s.recordState = .paused ↔ s.writerOpened = true) ∧
      (∀ frame, ∃ s', (RecordableCall.routine clock (.recordFrame frame)).run s = .ok () s') ∧
      (∀ opening during, OpensWriter clock s opening →
        Throughout (recordableStep clock) (fun s => s.writerOpened = true) (recordableStep clock s opening) during →
        ∃ arguments, (run (recordableStep clock) s (opening :: during)).writerCalls =
          s.writerCalls ++ .openFile arguments ::
            (framesWhileRecording clock (recordableStep clock s opening) during).map .write) ∧
      ∀ call, s.writerOpened = true → (recordableStep clock s call).writerOpened = false →
        (recordableStep clock s call).writerCalls = s.writerCalls ++ [.release] := by
  have hAgrees : s.RecorderAgrees := hReachable.recorderAgrees
  refine ⟨?_, recordFrame_returns clock hAgrees, ?_, ?_⟩
  · rw [hAgrees.agrees]
    cases s.recordState <;> simp
  · intro opening during hOpens hOpen
    obtain ⟨arguments, hOpening⟩ := writerCalls_of_opensWriter hAgrees hOpens
    refine ⟨arguments, ?_⟩
    rw [run_cons, writerCalls_of_staysOpen (recorderAgrees_step clock hAgrees opening) hOpen, hOpening,
      List.append_assoc, List.singleton_append]
  · intro call hOpened hReleased
    rw [writerCalls_of_opened clock hAgrees hOpened, hReleased]
    rfl

/-- The first day of the epoch in UTC, with a clock of nanosecond ticks. -/
def firstDay : Clock where
  ticksPerSecond := 1000000000
  localtime t :=
    { year := 70
      mon := 0
      mday := 1
      hour := Fin.ofNat 24 (t.toNat / 3600)
      min := Fin.ofNat 60 (t.toNat / 60 % 60)
      sec := Fin.ofNat 61 (t.toNat % 60) }

/-- A file system whose directory is there and can be written. -/
def writableDirectory : PathAnswers where
  present := .ok true
  createDirectories := .ok ()
  isDirectory := .ok true
  writePermissions := .ok (true, false, false)

/-- A recordable object on it, just constructed. -/
def fresh : Recordable Nat Rat :=
  withRecorder { recordFilePath := "./recordings" } .notRecording

theorem reachable_fresh (clock : Clock) : Reachable clock fresh :=
  ⟨true, writableDirectory, fresh, [], rfl, rfl⟩

theorem recording_captures_around_pause :
    ∃ arguments, (run (recordableStep firstDay) fresh [.startRecording 0 .opens, .recordFrame 1, .pauseRecording,
        .recordFrame 2, .resumeRecording, .recordFrame 3]).writerCalls =
      [.openFile arguments, .write 1, .write 3] :=
  (recording_captures firstDay (reachable_fresh firstDay)).2.2.1 (.startRecording 0 .opens)
    [.recordFrame 1, .pauseRecording, .recordFrame 2, .resumeRecording, .recordFrame 3]
    ⟨rfl, rfl⟩ (by decide)

end Recordable

end MosaicCore
