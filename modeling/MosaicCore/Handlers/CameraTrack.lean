import MosaicCore.Handlers.Recordable
import MosaicCore.Library.StatementTrace

/-!
# The thread of a camera track

`OpenCVCameraMediaTrack` runs its frame loop on a thread that the handler owns, while the flags that start and end
the loop live in the video track source.  `SetRunning` and `SetStopFlag` do nothing where there is no source, so a
camera that is started without one has a thread that no flag speaks for: `Orphaned`.  `accounted_iff` says over
which calls the thread is accounted for all the same.

The routines are written one `Traced.statement` after the other, so that a property can be asked for at any time.
-/

namespace MosaicCore

open EffectProgram EventRun

/-- The flags of `ActualVideoTrackSource`. -/
structure ActualVideoTrackSource where
  isRunning : Bool := false
  stopFlag : Bool := false
  deriving DecidableEq, Repr

/-- A `std::thread` object: the thread it was made with, and whether it still has to be joined. -/
structure ThreadObject where
  thread : Nat
  joinable : Bool := true
  deriving DecidableEq, Repr

/-- How a routine of the track leaves other than by returning. -/
inductive CameraFault
  /-- A joinable `std::thread` was destroyed. -/
  | terminate
  /-- The joined thread never ends. -/
  | blocked
  | recorder (fault : Fault)
  deriving DecidableEq, Repr

/-- `OpenCVCameraMediaTrack`, with the threads that run its frame loop. -/
structure CameraTrack (φ δ : Type) [OfScientific δ] where
  actualVideoTrackSource : Option ActualVideoTrackSource := none
  frameLoopThread : Option ThreadObject := none
  recordable : Recordable φ δ := {}
  alive : List Nat := []
  /-- How many threads were started; the next one gets this number. -/
  started : Nat := 0
  deriving Repr

variable {φ δ : Type} [OfScientific δ]

/-- A routine of the track, with the states between its statements. -/
abbrev CameraRoutine (φ δ : Type) [OfScientific δ] (α : Type) :=
  EStateM CameraFault (Traced (CameraTrack φ δ)) α

namespace CameraTrack

/-! ## The flags -/

/-- `IsRunning`. -/
def isRunning (s : CameraTrack φ δ) : Bool :=
  s.actualVideoTrackSource.any fun source => source.isRunning

/-- `GetStopFlag`: the condition the frame loop ends by. -/
def getStopFlag (s : CameraTrack φ δ) : Bool :=
  s.actualVideoTrackSource.any fun source => source.stopFlag

/-- `SetRunning`: the flag of the source, if there is one. -/
def setRunning (running : Bool) (s : CameraTrack φ δ) : CameraTrack φ δ :=
  { s with actualVideoTrackSource := s.actualVideoTrackSource.map fun source => { source with isRunning := running } }

/-- `SetStopFlag`: the flag of the source, if there is one. -/
def setStopFlag (stopFlag : Bool) (s : CameraTrack φ δ) : CameraTrack φ δ :=
  { s with actualVideoTrackSource := s.actualVideoTrackSource.map fun source => { source with stopFlag := stopFlag } }

/-! ## The thread -/

/-- `std::thread([this]() { while (!GetStopFlag()) ... })`: the loop runs from here on. -/
def launch : EStateM CameraFault (CameraTrack φ δ) Nat := do
  let s ← get
  set { s with alive := s.alive ++ [s.started], started := s.started + 1 }
  pure s.started

/-- `frame_loop_thread_ = ...`: the object it held is destroyed, which terminates if it was not joined. -/
def assignFrameLoopThread (object : Option ThreadObject) : EStateM CameraFault (CameraTrack φ δ) PUnit := do
  let s ← get
  if s.frameLoopThread.any fun held => held.joinable then
    throw .terminate
  set { s with frameLoopThread := object }

/-- `frame_loop_thread_->join()`, which waits until the loop has seen the stop flag. -/
def join (object : ThreadObject) : EStateM CameraFault (CameraTrack φ δ) PUnit := do
  let s ← get
  if object.thread ∈ s.alive ∧ s.getStopFlag = false then
    throw .blocked
  set { s with
    alive := s.alive.erase object.thread
    frameLoopThread := some { object with joinable := false } }

/-! ## The public operations -/

/-- `OpenCVCameraMediaTrack::Start`; `opens` is what `capture_.open` answers. -/
def start (opens : Bool) : CameraRoutine φ δ PUnit := do
  if (← Traced.look).isRunning then
    return
  if !opens then
    return
  Traced.statement (modify (setRunning true))
  Traced.statement (modify (setStopFlag false))
  let thread ← Traced.statement launch
  Traced.statement (assignFrameLoopThread (some { thread := thread }))

/-- `OpenCVCameraMediaTrack::Stop`. -/
def stop : CameraRoutine φ δ PUnit := do
  if !(← Traced.look).isRunning then
    return
  Traced.statement (modify (setStopFlag true))
  match (← Traced.look).frameLoopThread with
  | some object =>
      if object.joinable then
        Traced.statement (join object)
  | none => pure ()
  Traced.statement (assignFrameLoopThread none)
  Traced.statement (modify (setRunning false))

/-- `AMediaTrackHandler::CreateVideoTrackSource`: the source, if there is none, and then `Start`. -/
def createVideoTrackSource (opens : Bool) : CameraRoutine φ δ PUnit := do
  if (← Traced.look).actualVideoTrackSource.isNone then
    Traced.statement (modify fun s => { s with actualVideoTrackSource := some {} })
  start opens

/-- `StopRecording` of the base class. -/
def stopRecording : EStateM CameraFault (CameraTrack φ δ) PUnit := fun s =>
  match (Recordable.stopRecording : Program (Recordable φ δ) PUnit).run s.recordable with
  | .ok _ r => .ok () { s with recordable := r }
  | .error e r => .error (.recorder e) { s with recordable := r }

theorem stopRecording_run (s : CameraTrack φ δ) :
    (stopRecording : EStateM CameraFault (CameraTrack φ δ) PUnit).run s =
      match (Recordable.stopRecording : Program (Recordable φ δ) PUnit).run s.recordable with
      | .ok _ r => .ok () { s with recordable := r }
      | .error e r => .error (.recorder e) { s with recordable := r } := rfl

/-- `AMediaTrackHandler::Close`. -/
def close : CameraRoutine φ δ PUnit := do
  stop
  Traced.statement stopRecording
  Traced.statement (modify fun s => { s with actualVideoTrackSource := none })

end CameraTrack

/-! ## Runs -/

/-- A public operation; a camera opens or does not each time. -/
inductive CameraCall
  | start (opens : Bool)
  | stop
  | createVideoTrackSource (opens : Bool)
  | close
  deriving DecidableEq, Repr

/-- The routine a call runs. -/
def CameraCall.routine : CameraCall → CameraRoutine φ δ PUnit
  | .start opens => CameraTrack.start opens
  | .stop => CameraTrack.stop
  | .createVideoTrackSource opens => CameraTrack.createVideoTrackSource opens
  | .close => CameraTrack.close

/-- The call ends the use of the camera. -/
def CameraCall.ends : CameraCall → Bool
  | .stop => true
  | .close => true
  | _ => false

/-- The call opens the camera, unless the track is running. -/
def CameraCall.opens : CameraCall → Bool
  | .start opens => opens
  | .createVideoTrackSource opens => opens
  | _ => false

/-- One call, returning or not. -/
def cameraStep (s : CameraTrack φ δ) (call : CameraCall) : CameraTrack φ δ :=
  (finalState ((call.routine : CameraRoutine φ δ PUnit).run ⟨s, []⟩)).current

namespace CameraTrack

/-- During the call there is at most one frame loop at any time; the call returns, so it destroys no joinable
thread; and if it is `Stop` or `Close`, no frame loop is left. -/
def Accounted (s : CameraTrack φ δ) (call : CameraCall) : Prop :=
  (∀ s' ∈ visited (call.routine : CameraRoutine φ δ PUnit) s, s'.alive.length ≤ 1) ∧
    (∃ t, (call.routine : CameraRoutine φ δ PUnit).run ⟨s, []⟩ = .ok () t) ∧
    (call.ends = true → (cameraStep s call).alive = [])

/-- A thread is held, and the track does not count as running. -/
def Orphaned (s : CameraTrack φ δ) : Prop :=
  s.frameLoopThread.isSome = true ∧ s.isRunning = false

/-! ## What the operations do -/

/-- Both flags, as `Start` sets them. -/
def flagged (s : CameraTrack φ δ) : CameraTrack φ δ := setStopFlag false (setRunning true s)

/-- The loop runs. -/
def launched (s : CameraTrack φ δ) : CameraTrack φ δ :=
  { flagged s with alive := s.alive ++ [s.started], started := s.started + 1 }

/-- And the handler holds its thread. -/
def holding (s : CameraTrack φ δ) : CameraTrack φ δ :=
  { launched s with frameLoopThread := some { thread := s.started } }

/-- The loop has ended. -/
def joined (object : ThreadObject) (s : CameraTrack φ δ) : CameraTrack φ δ :=
  { setStopFlag true s with
    alive := s.alive.erase object.thread
    frameLoopThread := some { object with joinable := false } }

/-- And the handler has let go of its thread. -/
def released (object : ThreadObject) (s : CameraTrack φ δ) : CameraTrack φ δ :=
  { joined object s with frameLoopThread := none }

section Runs

variable {s : CameraTrack φ δ} {passed : List (CameraTrack φ δ)}

theorem assignFrameLoopThread_run (object : Option ThreadObject) (s : CameraTrack φ δ) :
    (assignFrameLoopThread object).run s =
      if s.frameLoopThread.any fun held => held.joinable then .error .terminate s
      else .ok () { s with frameLoopThread := object } := by
  rw [assignFrameLoopThread, EStateM.run_bind, EStateM.run_get]
  cases hHeld : s.frameLoopThread.any fun held => held.joinable <;> simp [hHeld]

/-- A running track, or one whose camera does not open, is left alone. -/
theorem start_run_idle {opens : Bool} (hIdle : s.isRunning = true ∨ opens = false) :
    (start opens : CameraRoutine φ δ PUnit).run ⟨s, passed⟩ = .ok () ⟨s, passed⟩ := by
  rw [start, look_bind_run]
  cases hRunning : s.isRunning with
  | true => rfl
  | false =>
      have hOpens : opens = false := by simpa [hRunning] using hIdle
      rw [hOpens]
      rfl

/-- A camera that opens has its loop launched, and then the thread assigned. -/
theorem start_run_opens (hRunning : s.isRunning = false) :
    (start true : CameraRoutine φ δ PUnit).run ⟨s, passed⟩ =
      if s.frameLoopThread.any fun held => held.joinable then
        .error .terminate ⟨launched s, passed ++ [setRunning true s, flagged s, launched s, launched s]⟩
      else .ok () ⟨holding s, passed ++ [setRunning true s, flagged s, launched s, holding s]⟩ := by
  have hLaunch : (launch : EStateM CameraFault (CameraTrack φ δ) Nat).run (flagged s) = .ok s.started (launched s) :=
    rfl
  have hThread : (launched s).frameLoopThread = s.frameLoopThread := rfl
  rw [start, look_bind_run]
  simp only [hRunning, Bool.not_true, Bool.false_eq_true, if_false, statement_bind_run, EStateM.run_modify]
  rw [← flagged, hLaunch]
  simp only [statement_run, assignFrameLoopThread_run, hThread]
  cases s.frameLoopThread.any fun held => held.joinable <;> simp [holding]

theorem stop_run_idle (hRunning : s.isRunning = false) :
    (stop : CameraRoutine φ δ PUnit).run ⟨s, passed⟩ = .ok () ⟨s, passed⟩ := by
  rw [stop, look_bind_run]
  simp only [hRunning]
  rfl

/-- A running track has a source, so the loop sees the stop flag and ends. -/
theorem getStopFlag_of_isRunning (hRunning : s.isRunning = true) : (setStopFlag true s).getStopFlag = true := by
  cases hSource : s.actualVideoTrackSource with
  | none => simp [isRunning, hSource] at hRunning
  | some source => simp [getStopFlag, setStopFlag, hSource]

theorem stop_run_running {object : ThreadObject} (hRunning : s.isRunning = true)
    (hHeld : s.frameLoopThread = some object) (hJoinable : object.joinable = true) :
    (stop : CameraRoutine φ δ PUnit).run ⟨s, passed⟩ =
      .ok () ⟨setRunning false (released object s),
        passed ++ [setStopFlag true s, joined object s, released object s, setRunning false (released object s)]⟩ := by
  have hJoin : (join object).run (setStopFlag true s) = .ok () (joined object s) := by
    rw [join, EStateM.run_bind, EStateM.run_get]
    simp only [getStopFlag_of_isRunning hRunning, Bool.true_eq_false, and_false, if_false]
    rfl
  have hRelease : (assignFrameLoopThread none).run (joined object s) = .ok () (released object s) := by
    rw [assignFrameLoopThread_run]
    rfl
  have hThread : (setStopFlag true s).frameLoopThread = some object := hHeld
  rw [stop, look_bind_run]
  simp only [hRunning, Bool.not_true, Bool.false_eq_true, if_false, statement_bind_run, EStateM.run_modify,
    look_bind_run, hThread, hJoinable, if_true, hJoin, hRelease, statement_run]
  simp

/-- The source that a call has after it made sure of one. -/
def sourced (s : CameraTrack φ δ) : CameraTrack φ δ :=
  { s with actualVideoTrackSource := some (s.actualVideoTrackSource.getD {}) }

/-- `CreateVideoTrackSource` starts the track from a state with a source. -/
theorem createVideoTrackSource_run (s : CameraTrack φ δ) (passed : List (CameraTrack φ δ)) (opens : Bool) :
    ∃ made, (∀ s' ∈ made, s' = sourced s) ∧
      (createVideoTrackSource opens : CameraRoutine φ δ PUnit).run ⟨s, passed⟩ =
        (start opens).run ⟨sourced s, passed ++ made⟩ := by
  rw [createVideoTrackSource, look_bind_run]
  cases hSource : s.actualVideoTrackSource with
  | none =>
      refine ⟨[sourced s], by simp, ?_⟩
      simp [statement_run, sourced, hSource]
  | some source =>
      have hSame : sourced s = s := by
        obtain ⟨_, _, _, _, _⟩ := s
        cases hSource
        rfl
      refine ⟨[], by simp, ?_⟩
      rw [hSame, List.append_nil]
      rfl

/-- `Close` drops the source of what `Stop` leaves.  A track is not recordable, so there is nothing to stop recording. -/
theorem close_run {s' : CameraTrack φ δ} {passed' : List (CameraTrack φ δ)}
    (hStop : (stop : CameraRoutine φ δ PUnit).run ⟨s, passed⟩ = .ok () ⟨s', passed'⟩)
    (hRecordable : s'.recordable.recordable = false) :
    (close : CameraRoutine φ δ PUnit).run ⟨s, passed⟩ =
      .ok () ⟨{ s' with actualVideoTrackSource := none },
        passed' ++ [s', { s' with actualVideoTrackSource := none }]⟩ := by
  have hNothing : (stopRecording : EStateM CameraFault (CameraTrack φ δ) PUnit).run s' = .ok () s' := by
    have hIdle : (Recordable.stopRecording : Program (Recordable φ δ) PUnit).run s'.recordable =
        .ok () s'.recordable := by
      simp [Recordable.stopRecording, EStateM.run_bind, hRecordable]
    show stopRecording s' = _
    rw [stopRecording, hIdle]
  rw [close, EStateM.run_bind, hStop]
  simp [statement_run, hNothing]

end Runs

/-! ## One call -/

/-- The thread that the handler holds is the only one, and it is joinable; without one no loop runs.  A running
track holds one; an orphaned loop sees no stop flag. -/
structure OneThread (s : CameraTrack φ δ) : Prop where
  alive : s.alive = (s.frameLoopThread.map fun object => object.thread).toList
  joinable : ∀ object, s.frameLoopThread = some object → object.joinable = true
  held : s.isRunning = true → s.frameLoopThread.isSome = true
  loops : Orphaned s → s.getStopFlag = false
  notRecordable : s.recordable.recordable = false

theorem OneThread.length_alive {s : CameraTrack φ δ} (h : OneThread s) : s.alive.length ≤ 1 := by
  rw [h.alive]
  cases s.frameLoopThread <;> simp

theorem isRunning_sourced (s : CameraTrack φ δ) : (sourced s).isRunning = s.isRunning := by
  cases hSource : s.actualVideoTrackSource <;> simp [isRunning, sourced, hSource]

theorem getStopFlag_sourced (s : CameraTrack φ δ) : (sourced s).getStopFlag = s.getStopFlag := by
  cases hSource : s.actualVideoTrackSource <;> simp [getStopFlag, sourced, hSource]

theorem orphaned_sourced (s : CameraTrack φ δ) : Orphaned (sourced s) ↔ Orphaned s := by
  unfold Orphaned
  rw [isRunning_sourced]
  rfl

/-- A new source changes nothing about the thread. -/
theorem OneThread.sourced {s : CameraTrack φ δ} (h : OneThread s) : OneThread (sourced s) where
  alive := h.alive
  joinable := h.joinable
  held hRunning := h.held (isRunning_sourced s ▸ hRunning)
  loops hOrphaned := (getStopFlag_sourced s).trans (h.loops ((orphaned_sourced s).mp hOrphaned))
  notRecordable := h.notRecordable

/-- Neither running nor orphaned: no thread is held. -/
theorem frameLoopThread_eq_none {s : CameraTrack φ δ} (hRunning : s.isRunning = false) (hNot : ¬ Orphaned s) :
    s.frameLoopThread = none := by
  cases hThread : s.frameLoopThread with
  | none => rfl
  | some object => exact absurd ⟨by simp [hThread], hRunning⟩ hNot

/-- From `s` the routine returns, passing only through states with at most one frame loop, and ends in a state that
meets `Q`. -/
def Quiet (routine : CameraRoutine φ δ PUnit) (s : CameraTrack φ δ) (Q : CameraTrack φ δ → Prop) : Prop :=
  ∀ passed, ∃ s' made, routine.run ⟨s, passed⟩ = .ok () ⟨s', passed ++ made⟩ ∧
    (∀ x ∈ made, x.alive.length ≤ 1) ∧ Q s'

/-- `Start` on a track without an orphaned thread, or with a camera that does not open. -/
theorem start_quiet {s : CameraTrack φ δ} (h : OneThread s) {opens : Bool} (hSpares : Orphaned s → opens = false) :
    Quiet (start opens) s OneThread := by
  intro passed
  by_cases hIdle : s.isRunning = true ∨ opens = false
  · exact ⟨s, [], by rw [start_run_idle hIdle, List.append_nil], by simp, h⟩
  · rw [not_or, Bool.not_eq_true, Bool.not_eq_false] at hIdle
    obtain ⟨hRunning, rfl⟩ := hIdle
    have hThread : s.frameLoopThread = none :=
      frameLoopThread_eq_none hRunning fun hOrphaned => Bool.noConfusion (hSpares hOrphaned)
    have hAlive : s.alive = [] := by simpa [hThread] using h.alive
    refine ⟨holding s, [setRunning true s, flagged s, launched s, holding s], ?_, ?_, ?_⟩
    · rw [start_run_opens hRunning, hThread]
      rfl
    · simp [setRunning, setStopFlag, flagged, launched, holding, hAlive]
    · constructor
      · simp [holding, launched, hAlive]
      · simp [holding]
      · simp [holding]
      · intro _
        cases hSource : s.actualVideoTrackSource <;>
          simp [getStopFlag, holding, launched, flagged, setStopFlag, setRunning, hSource]
      · exact h.notRecordable

/-- `Stop` on a track without an orphaned thread leaves no thread. -/
theorem stop_quiet {s : CameraTrack φ δ} (h : OneThread s) (hSpares : ¬ Orphaned s) :
    Quiet stop s fun s' => OneThread s' ∧ s'.frameLoopThread = none ∧ s'.isRunning = false := by
  intro passed
  cases hRunning : s.isRunning with
  | false =>
      have hThread : s.frameLoopThread = none := frameLoopThread_eq_none hRunning hSpares
      exact ⟨s, [], by rw [stop_run_idle hRunning, List.append_nil], by simp, h, hThread, hRunning⟩
  | true =>
      obtain ⟨object, hHeld⟩ := Option.isSome_iff_exists.mp (h.held hRunning)
      have hAlive : s.alive = [object.thread] := by simpa [hHeld] using h.alive
      have hStopped : (setRunning false (released object s)).isRunning = false := by
        cases hSource : s.actualVideoTrackSource <;>
          simp [isRunning, setRunning, released, joined, setStopFlag, hSource]
      refine ⟨_, _, stop_run_running hRunning hHeld (h.joinable object hHeld), ?_, ?_, rfl, hStopped⟩
      · simp [setRunning, setStopFlag, released, joined, hAlive]
      · constructor
        · simp [setRunning, released, joined, hAlive]
        · simp [setRunning, released]
        · simp [hStopped]
        · simp [Orphaned, setRunning, released]
        · exact h.notRecordable

theorem createVideoTrackSource_quiet {s : CameraTrack φ δ} (h : OneThread s) {opens : Bool}
    (hSpares : Orphaned s → opens = false) : Quiet (createVideoTrackSource opens) s OneThread := by
  intro passed
  obtain ⟨first, hFirst, hRun⟩ := createVideoTrackSource_run s passed opens
  obtain ⟨s', made, hStart, hMade, hEnd⟩ :=
    start_quiet h.sourced (fun hOrphaned => hSpares ((orphaned_sourced s).mp hOrphaned)) (passed ++ first)
  refine ⟨s', first ++ made, by rw [hRun, hStart, List.append_assoc], ?_, hEnd⟩
  intro x hMem
  rcases List.mem_append.mp hMem with hSourced | hStarted
  · rw [hFirst x hSourced]
    exact h.sourced.length_alive
  · exact hMade x hStarted

/-- `Close` stops the thread, and then drops the source. -/
theorem close_quiet {s : CameraTrack φ δ} (h : OneThread s) (hSpares : ¬ Orphaned s) :
    Quiet close s fun s' => OneThread s' ∧ s'.alive = [] := by
  intro passed
  obtain ⟨s', made, hRun, hMade, hEnd, hThread, -⟩ := stop_quiet h hSpares passed
  have hAlive : s'.alive = [] := by simpa [hThread] using hEnd.alive
  refine ⟨{ s' with actualVideoTrackSource := none }, made ++ [s', { s' with actualVideoTrackSource := none }],
    by rw [close_run hRun hEnd.notRecordable, List.append_assoc], ?_, ?_, hAlive⟩
  · intro x hMem
    rcases List.mem_append.mp hMem with hStop | hLast
    · exact hMade x hStop
    · have hSame : x.alive = s'.alive := by
        rcases List.mem_cons.mp hLast with rfl | hDropped
        · rfl
        · rw [List.mem_singleton.mp hDropped]
      simp [hSame, hAlive]
  · constructor
    · exact hEnd.alive
    · exact hEnd.joinable
    · simp [isRunning]
    · simp [Orphaned, hThread]
    · exact hEnd.notRecordable

/-- A call that an orphaned thread is spared from: it neither opens the camera nor ends its use. -/
def Spares (s : CameraTrack φ δ) (call : CameraCall) : Prop :=
  Orphaned s → call.opens = false ∧ call.ends = false

/-- Such a call is accounted for, and keeps the thread so. -/
theorem spared_quiet {s : CameraTrack φ δ} (h : OneThread s) {call : CameraCall} (hSpares : Spares s call) :
    Quiet call.routine s fun s' => OneThread s' ∧ (call.ends = true → s'.alive = []) := by
  cases call with
  | start opens =>
      intro passed
      obtain ⟨s', made, hRun, hMade, hEnd⟩ := start_quiet h (fun hOrphaned => (hSpares hOrphaned).1) passed
      exact ⟨s', made, hRun, hMade, hEnd, fun hEnds => Bool.noConfusion hEnds⟩
  | stop =>
      have hNot : ¬ Orphaned s := fun hOrphaned => Bool.noConfusion (hSpares hOrphaned).2
      intro passed
      obtain ⟨s', made, hRun, hMade, hEnd, hThread, -⟩ := stop_quiet h hNot passed
      exact ⟨s', made, hRun, hMade, hEnd, fun _ => by simpa [hThread] using hEnd.alive⟩
  | createVideoTrackSource opens =>
      intro passed
      obtain ⟨s', made, hRun, hMade, hEnd⟩ :=
        createVideoTrackSource_quiet h (fun hOrphaned => (hSpares hOrphaned).1) passed
      exact ⟨s', made, hRun, hMade, hEnd, fun hEnds => Bool.noConfusion hEnds⟩
  | close =>
      have hNot : ¬ Orphaned s := fun hOrphaned => Bool.noConfusion (hSpares hOrphaned).2
      intro passed
      obtain ⟨s', made, hRun, hMade, hEnd, hAlive⟩ := close_quiet h hNot passed
      exact ⟨s', made, hRun, hMade, hEnd, fun _ => hAlive⟩

/-- What a quiet call does, seen from outside. -/
theorem Quiet.accounted {s : CameraTrack φ δ} {call : CameraCall} {Q : CameraTrack φ δ → Prop}
    (h : Quiet call.routine s fun s' => Q s' ∧ (call.ends = true → s'.alive = [])) :
    Accounted s call ∧ Q (cameraStep s call) := by
  obtain ⟨s', made, hRun, hMade, hQ, hEnds⟩ := h []
  have hStep : cameraStep s call = s' := by
    rw [cameraStep, hRun]
    rfl
  refine ⟨⟨?_, ⟨_, hRun⟩, hStep ▸ hEnds⟩, hStep ▸ hQ⟩
  rw [visited, hRun]
  exact hMade

theorem step_of_spares {s : CameraTrack φ δ} (h : OneThread s) {call : CameraCall} (hSpares : Spares s call) :
    Accounted s call ∧ OneThread (cameraStep s call) :=
  (spared_quiet h hSpares).accounted

/-- With an orphaned thread, opening the camera destroys a joinable thread. -/
theorem start_terminates {s : CameraTrack φ δ} (h : OneThread s) (hOrphaned : Orphaned s)
    (passed : List (CameraTrack φ δ)) :
    ∃ t, (start true : CameraRoutine φ δ PUnit).run ⟨s, passed⟩ = .error .terminate t := by
  obtain ⟨object, hHeld⟩ := Option.isSome_iff_exists.mp hOrphaned.1
  rw [start_run_opens hOrphaned.2, hHeld, Option.any_some, h.joinable object hHeld]
  exact ⟨_, rfl⟩

/-- And the end of its use leaves the thread alive. -/
theorem alive_of_orphaned {s : CameraTrack φ δ} (h : OneThread s) (hOrphaned : Orphaned s) : s.alive ≠ [] := by
  obtain ⟨object, hHeld⟩ := Option.isSome_iff_exists.mp hOrphaned.1
  simp [h.alive, hHeld]

theorem spares_of_accounted {s : CameraTrack φ δ} (h : OneThread s) {call : CameraCall} (hAccounted : Accounted s call) :
    Spares s call := by
  intro hOrphaned
  obtain ⟨-, ⟨t, hReturns⟩, hEnds⟩ := hAccounted
  cases call with
  | start opens =>
      cases opens with
      | false => exact ⟨rfl, rfl⟩
      | true =>
          obtain ⟨t', hError⟩ := start_terminates h hOrphaned []
          rw [CameraCall.routine, hError] at hReturns
          cases hReturns
  | createVideoTrackSource opens =>
      cases opens with
      | false => exact ⟨rfl, rfl⟩
      | true =>
          obtain ⟨first, -, hRun⟩ := createVideoTrackSource_run s [] true
          obtain ⟨t', hError⟩ := start_terminates h.sourced ((orphaned_sourced s).mpr hOrphaned) ([] ++ first)
          rw [CameraCall.routine, hRun, hError] at hReturns
          cases hReturns
  | stop =>
      have hStep : cameraStep s .stop = s := by
        rw [cameraStep, CameraCall.routine, stop_run_idle hOrphaned.2]
        rfl
      exact absurd (hStep ▸ hEnds rfl) (alive_of_orphaned h hOrphaned)
  | close =>
      have hStep : (cameraStep s .close).alive = s.alive := by
        rw [cameraStep, CameraCall.routine, close_run (stop_run_idle hOrphaned.2) h.notRecordable]
        rfl
      exact absurd (hStep ▸ hEnds rfl) (alive_of_orphaned h hOrphaned)

theorem orphaned_start {s : CameraTrack φ δ} (hNot : ¬ Orphaned s) (opens : Bool) (passed : List (CameraTrack φ δ)) :
    Orphaned (finalState ((start opens : CameraRoutine φ δ PUnit).run ⟨s, passed⟩)).current ↔
      opens = true ∧ s.actualVideoTrackSource = none := by
  by_cases hIdle : s.isRunning = true ∨ opens = false
  · rw [start_run_idle hIdle]
    refine iff_of_false hNot ?_
    rintro ⟨rfl, hNone⟩
    simp [isRunning, hNone] at hIdle
  · rw [not_or, Bool.not_eq_true, Bool.not_eq_false] at hIdle
    obtain ⟨hRunning, rfl⟩ := hIdle
    rw [start_run_opens hRunning, frameLoopThread_eq_none hRunning hNot]
    cases hSource : s.actualVideoTrackSource <;>
      simp [Orphaned, isRunning, holding, launched, flagged, setStopFlag, setRunning, hSource]

/-- A thread is orphaned by `Start` alone: where the camera opens and there is no source to set the flags of. -/
theorem orphaned_step {s : CameraTrack φ δ} (h : OneThread s) (hNot : ¬ Orphaned s) (call : CameraCall) :
    Orphaned (cameraStep s call) ↔ call = .start true ∧ s.actualVideoTrackSource = none := by
  cases call with
  | start opens =>
      rw [cameraStep, CameraCall.routine, orphaned_start hNot]
      simp
  | createVideoTrackSource opens =>
      obtain ⟨first, -, hRun⟩ := createVideoTrackSource_run s [] opens
      rw [cameraStep, CameraCall.routine, hRun, orphaned_start (mt (orphaned_sourced s).mp hNot)]
      simp [sourced]
  | stop =>
      obtain ⟨s', made, hRun, -, -, hThread, -⟩ := stop_quiet h hNot []
      rw [cameraStep, CameraCall.routine, hRun]
      simp [Orphaned, hThread]
  | close =>
      obtain ⟨s', made, hRun, -, hEnd, hThread, -⟩ := stop_quiet h hNot []
      rw [cameraStep, CameraCall.routine, close_run hRun hEnd.notRecordable]
      simp [Orphaned, hThread]

/-! ## Runs from a new track -/

theorem oneThread_new : OneThread ({} : CameraTrack φ δ) :=
  ⟨rfl, by simp, by simp [isRunning], by simp [Orphaned], rfl⟩

/-- From a new track, the thread is accounted for in every call of a run exactly if no call opens the camera or ends
its use while a thread is orphaned. -/
theorem accounted_iff (calls : List CameraCall) :
    EachStep cameraStep Accounted ({} : CameraTrack φ δ) calls ↔
      EachStep cameraStep Spares ({} : CameraTrack φ δ) calls :=
  eachStep_iff (I := OneThread) (A := fun _ => True)
    (fun _ _ _ h hAccounted => (step_of_spares h (spares_of_accounted h hAccounted)).2)
    (fun _ _ _ h => ⟨spares_of_accounted h, fun hSpares => (step_of_spares h hSpares).1⟩)
    oneThread_new fun _ _ => trivial

/-- A camera started before there is a source is not stopped by `Stop`. -/
theorem stop_leaves_thread : ¬ ∀ calls, EachStep cameraStep Accounted ({} : CameraTrack Nat Rat) calls := by
  intro hAlways
  obtain ⟨-, ⟨-, -, hStopped⟩, -⟩ := hAlways [.start true, .stop]
  exact absurd (hStopped rfl) (by decide)

end CameraTrack

end MosaicCore
