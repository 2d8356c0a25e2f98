import MosaicCore.Handlers.CameraTrack
import MosaicCore.Library.VirtualDispatch

/-!
# Destroying a media track handler

`AMediaTrackHandler` leaves `Start` and `Stop` to the classes derived from it, and its destructor calls its `Close`,
which calls `Stop`.  By then the derived classes are destroyed, and the `Stop` that is found is the pure one.

A derived class is any `HandlerClass` here: any bodies, which may call the virtual functions of their object, and any
data.  `OpenCVCameraMediaTrack` is one of them, and its routines are those of `CameraTrack`.
-/

namespace MosaicCore

open EffectProgram EventRun VirtualDispatch

/-- The virtual functions of a media track handler. -/
inductive HandlerFunction
  | start
  | stop
  | createVideoTrackSource
  | close
  deriving DecidableEq, Repr

/-- How a routine of a handler leaves other than by returning. -/
inductive HandlerFault
  | pureVirtual (function : HandlerFunction)
  | stackOverflow
  /-- `std::terminate`. -/
  | terminate
  /-- The routine waits for something that never comes. -/
  | blocked
  | raised (fault : Fault)
  deriving DecidableEq, Repr

/-- The faults of virtual calls; a destructor is `noexcept`, so an exception that leaves it terminates. -/
def handlerFaults : CallFaults HandlerFunction HandlerFault where
  pureVirtual := .pureVirtual
  stackOverflow := .stackOverflow
  escaped
    | .raised (.exception _) => .terminate
    | fault => fault

/-- An `AMediaTrackHandler`; `derived` is what its derived classes add, and what they use outside. -/
structure AMediaTrackHandler (φ δ ρ : Type) [OfScientific δ] where
  actualVideoTrackSource : Option ActualVideoTrackSource := none
  recordable : Recordable φ δ := {}
  derived : ρ

variable {φ δ ρ α : Type} [OfScientific δ]

/-- A class of the hierarchy.  The argument of each function is what the outside answers during the call. -/
abbrev HandlerClass (φ δ ρ α : Type) [OfScientific δ] :=
  ClassDecl HandlerFunction α HandlerFault (AMediaTrackHandler φ δ ρ)

/-- The body of a function of the hierarchy. -/
abbrev HandlerBody (φ δ ρ α : Type) [OfScientific δ] :=
  Body HandlerFunction α HandlerFault (AMediaTrackHandler φ δ ρ)

/-! ## The classes of the library -/

/-- `~Recordable`: the recorder goes with it, and its destructor calls `Stop`. -/
def Recordable.destruct : Program (Recordable φ δ) PUnit := do
  if (← get).videoRecorder.isSome then
    onRecorder VideoRecorder.stop

namespace AMediaTrackHandler

/-- `IsRunning`. -/
def isRunning (h : AMediaTrackHandler φ δ ρ) : Bool :=
  h.actualVideoTrackSource.any fun source => source.isRunning

/-- Run a routine of the `Recordable` part. -/
def onRecordable (p : Program (Recordable φ δ) PUnit) : MemberRoutine HandlerFault (AMediaTrackHandler φ δ ρ) PUnit :=
  zoomData .raised (fun h => h.recordable) (fun r h => { h with recordable := r }) p

/-- `Impl::Close`. -/
def releaseSource : MemberRoutine HandlerFault (AMediaTrackHandler φ δ ρ) PUnit :=
  modifyData fun h => { h with actualVideoTrackSource := none }

/-- `AMediaTrackHandler::CreateVideoTrackSource`. -/
def createVideoTrackSource : HandlerBody φ δ ρ α := fun virtual answer => do
  modifyData fun h => { h with actualVideoTrackSource := some (h.actualVideoTrackSource.getD {}) }
  virtual .start answer

/-- `AMediaTrackHandler::Close`. -/
def close : HandlerBody φ δ ρ α := fun virtual answer => do
  virtual .stop answer
  onRecordable Recordable.stopRecording
  releaseSource

/-- `IMediaTrackHandler`. -/
def interfaceClass : HandlerClass φ δ ρ α where
  declares
    | .createVideoTrackSource => .pure
    | .close => .pure
    | _ => .inherited

/-- `Recordable` as a base class. -/
def recordableClass : HandlerClass φ δ ρ α where
  destructor _ _ := onRecordable Recordable.destruct

/-- `AMediaTrackHandler`; after the body of the destructor `pImpl` goes, and with it the source. -/
def handlerClass : HandlerClass φ δ ρ α where
  declares
    | .start => .pure
    | .stop => .pure
    | .createVideoTrackSource => .overrides createVideoTrackSource
    | .close => .overrides close
  destructor virtual answer := do
    close virtual answer
    releaseSource

/-- The classes that every handler has. -/
def baseClasses : List (HandlerClass φ δ ρ α) := [handlerClass, recordableClass, interfaceClass]

end AMediaTrackHandler

/-- A concrete subclass of `AMediaTrackHandler`: it, and the classes between the two. -/
structure ConcreteHandler (φ δ ρ α : Type) [OfScientific δ] where
  derivedClasses : List (HandlerClass φ δ ρ α)
  concrete : Concrete (derivedClasses ++ AMediaTrackHandler.baseClasses)

/-- All classes of the handler. -/
def ConcreteHandler.classes (handler : ConcreteHandler φ δ ρ α) : List (HandlerClass φ δ ρ α) :=
  handler.derivedClasses ++ AMediaTrackHandler.baseClasses

/-! ## Runs -/

/-- A call on a handler, with what the outside answers during it. -/
inductive HandlerCall (α : Type)
  | start (answer : α)
  | stop (answer : α)
  | startRecording (clock : Clock) (now : Int) (opening : Opening)
  | createVideoTrackSource (answer : α)
  | close (answer : α)

namespace ConcreteHandler

variable (handler : ConcreteHandler φ δ ρ α) (depth : Nat)

/-- A virtual call on the handler. -/
def call (function : HandlerFunction) (answer : α) : MemberRoutine HandlerFault (AMediaTrackHandler φ δ ρ) PUnit :=
  callVirtual handlerFaults handler.classes depth function answer

/-- The routine a call runs. -/
def routine : HandlerCall α → MemberRoutine HandlerFault (AMediaTrackHandler φ δ ρ) PUnit
  | .start answer => handler.call depth .start answer
  | .stop answer => handler.call depth .stop answer
  | .startRecording clock now opening =>
      AMediaTrackHandler.onRecordable (Recordable.startRecording clock now opening)
  | .createVideoTrackSource answer => handler.call depth .createVideoTrackSource answer
  | .close answer => handler.call depth .close answer

/-- One call, returning or not. -/
def step (o : Object (AMediaTrackHandler φ δ ρ)) (c : HandlerCall α) : Object (AMediaTrackHandler φ δ ρ) :=
  finalState ((handler.routine depth c).run o)

/-- The destructors. -/
def destroy (answer : α) : MemberRoutine HandlerFault (AMediaTrackHandler φ δ ρ) PUnit :=
  VirtualDispatch.destroy handlerFaults handler.classes depth answer

end ConcreteHandler

/-- The handler is stopped, its recording is stopped and its source is released. -/
structure AMediaTrackHandler.Released (h : AMediaTrackHandler φ δ ρ) : Prop where
  stopped : h.isRunning = false
  recording : h.recordable.recordState = .notRecording ∧ h.recordable.writerOpened = false
  source : h.actualVideoTrackSource = none

/-- After some calls on a complete object, its destructors run to their end, calling no pure function on the way, and
leave it released. -/
def ConcreteHandler.DestroyedCleanly (handler : ConcreteHandler φ δ ρ α) (h : AMediaTrackHandler φ δ ρ)
    (calls : List (HandlerCall α)) (answer : α) : Prop :=
  ∃ depth o, (handler.destroy depth answer).run (run (handler.step depth) ⟨0, h⟩ calls) = .ok () o ∧
    o.data.Released

/-! ## The destructor chain -/

namespace ConcreteHandler

variable {handler : ConcreteHandler φ δ ρ α} {depth : Nat} {answer : α}

theorem classes_eq (handler : ConcreteHandler φ δ ρ α) :
    handler.classes = handler.derivedClasses ++ AMediaTrackHandler.handlerClass ::
      [AMediaTrackHandler.recordableClass, AMediaTrackHandler.interfaceClass] := rfl

/-- On a complete handler every call finds a body. -/
theorem call_complete (handler : ConcreteHandler φ δ ρ α) (depth : Nat) (function : HandlerFunction) (answer : α)
    (h : AMediaTrackHandler φ δ ρ) :
    ∃ body : HandlerBody φ δ ρ α, (handler.call (depth + 1) function answer).run ⟨0, h⟩ =
      (body (handler.call depth) answer).run ⟨0, h⟩ := by
  obtain ⟨body, -, hRun⟩ := callVirtual_complete handlerFaults depth handler.concrete function answer h
  exact ⟨body, hRun⟩

/-- `AMediaTrackHandler` and its bases have no `Stop`. -/
theorem finalOverrider_stop :
    finalOverrider (AMediaTrackHandler.baseClasses : List (HandlerClass φ δ ρ α)) .stop = none := rfl

/-- What `Close` does when `Stop` does not return. -/
theorem close_run_error {virtual : HandlerFunction → α → MemberRoutine HandlerFault (AMediaTrackHandler φ δ ρ) PUnit}
    {o o' : Object (AMediaTrackHandler φ δ ρ)} {fault : HandlerFault}
    (hStop : (virtual .stop answer).run o = .error fault o') :
    (AMediaTrackHandler.close virtual answer).run o = .error fault o' := by
  rw [AMediaTrackHandler.close, EStateM.run_bind, hStop]

/-- The destructor of `AMediaTrackHandler` calls the pure `Stop`, before anything else. -/
theorem destructor_run (h : AMediaTrackHandler φ δ ρ) :
    (AMediaTrackHandler.handlerClass.destructor (handler.call (depth + 1)) answer).run
        ⟨handler.derivedClasses.length, h⟩ =
      .error (.pureVirtual .stop) ⟨handler.derivedClasses.length, h⟩ := by
  have hStop : (handler.call (depth + 1) .stop answer).run ⟨handler.derivedClasses.length, h⟩ =
      .error (.pureVirtual .stop) ⟨handler.derivedClasses.length, h⟩ := by
    rw [call, classes, callVirtual_base, finalOverrider_stop]
    rfl
  show (AMediaTrackHandler.close (handler.call (depth + 1)) answer >>= fun _ =>
    AMediaTrackHandler.releaseSource).run _ = _
  rw [EStateM.run_bind, close_run_error hStop]

/-- So it never returns. -/
theorem destructor_ne_ok (h : AMediaTrackHandler φ δ ρ) (o : Object (AMediaTrackHandler φ δ ρ)) :
    (AMediaTrackHandler.handlerClass.destructor (handler.call depth) answer).run
      ⟨handler.derivedClasses.length, h⟩ ≠ .ok () o := by
  intro hReturns
  obtain ⟨_, o₁, hClose, -⟩ := run_bind_eq_ok.mp hReturns
  obtain ⟨_, o₂, hStop, -⟩ := run_bind_eq_ok.mp hClose
  exact callVirtual_base_ne_ok finalOverrider_stop depth h o₂ hStop

/-- Where the destructors of the derived classes return, the chain ends in the call of the pure `Stop`; the recording
and the source are as they left them. -/
theorem destroy_run {o o' : Object (AMediaTrackHandler φ δ ρ)}
    (hDerived : (destroyFrom handlerFaults handler.classes (depth + 1) answer 0 handler.derivedClasses).run o =
      .ok () o') :
    (handler.destroy (depth + 1) answer).run o =
      .error (.pureVirtual .stop) ⟨handler.derivedClasses.length, o'.data⟩ := by
  have hEscapes : (noexcept handlerFaults
      (AMediaTrackHandler.handlerClass.destructor (handler.call (depth + 1)) answer)).run
        ⟨handler.derivedClasses.length, o'.data⟩ =
      .error (.pureVirtual .stop) ⟨handler.derivedClasses.length, o'.data⟩ :=
    noexcept_run_error (destructor_run o'.data)
  rw [destroy, VirtualDispatch.destroy_of_derived handler.classes_eq hDerived, EStateM.run_bind]
  rw [show callVirtual handlerFaults handler.classes (depth + 1) = handler.call (depth + 1) from rfl, hEscapes]

/-- The chain of destructors never runs to its end. -/
theorem destroy_ne_ok (o o' : Object (AMediaTrackHandler φ δ ρ)) : (handler.destroy depth answer).run o ≠ .ok () o' :=
  VirtualDispatch.destroy_ne_ok handler.classes_eq destructor_ne_ok o o'

/-- **No handler is destroyed cleanly**, of whatever class it is and whatever was called before. -/
theorem not_destroyedCleanly (handler : ConcreteHandler φ δ ρ α) (h : AMediaTrackHandler φ δ ρ)
    (calls : List (HandlerCall α)) (answer : α) : ¬ handler.DestroyedCleanly h calls answer := by
  rintro ⟨depth, o, hEnds, -⟩
  exact destroy_ne_ok _ o hEnds

end ConcreteHandler

/-! ## The camera -/

/-- What `OpenCVCameraMediaTrack` adds, and the threads it has started. -/
structure CameraParts where
  frameLoopThread : Option ThreadObject := none
  alive : List Nat := []
  started : Nat := 0

/-- The camera track that a handler object is. -/
def AMediaTrackHandler.toTrack (h : AMediaTrackHandler φ δ CameraParts) : CameraTrack φ δ where
  actualVideoTrackSource := h.actualVideoTrackSource
  frameLoopThread := h.derived.frameLoopThread
  recordable := h.recordable
  alive := h.derived.alive
  started := h.derived.started

/-- A camera track as a handler object. -/
def CameraTrack.toHandler (s : CameraTrack φ δ) : AMediaTrackHandler φ δ CameraParts where
  actualVideoTrackSource := s.actualVideoTrackSource
  recordable := s.recordable
  derived := { frameLoopThread := s.frameLoopThread, alive := s.alive, started := s.started }

@[simp] theorem toTrack_toHandler (s : CameraTrack φ δ) : s.toHandler.toTrack = s := rfl

@[simp] theorem toHandler_recordable (s : CameraTrack φ δ) : s.toHandler.recordable = s.recordable := rfl

/-- The fault of a routine of the track. -/
def CameraFault.raise : CameraFault → HandlerFault
  | .terminate => .terminate
  | .blocked => .blocked
  | .recorder fault => .raised fault

/-- A routine of the track, run on the object. -/
def onTrack (p : CameraRoutine φ δ PUnit) : MemberRoutine HandlerFault (AMediaTrackHandler φ δ CameraParts) PUnit :=
  zoomData CameraFault.raise (fun h => ⟨h.toTrack, []⟩) (fun t _ => t.current.toHandler) p

/-- `OpenCVCameraMediaTrack`; after the body of the destructor its members go, `frame_loop_thread_` among them. -/
def openCVCameraMediaTrack : HandlerClass φ δ CameraParts Bool where
  declares
    | .start => .overrides fun _ opens => onTrack (CameraTrack.start opens)
    | .stop => .overrides fun _ _ => onTrack CameraTrack.stop
    | _ => .inherited
  destructor _ _ := do
    onTrack CameraTrack.stop
    onTrack (Traced.statement (CameraTrack.assignFrameLoopThread none))

/-- A camera track as a handler. -/
def camera : ConcreteHandler φ δ CameraParts Bool where
  derivedClasses := [openCVCameraMediaTrack]
  concrete function := by cases function <;> rfl

/-- A call on a track as one on a handler. -/
def CameraCall.onHandler : CameraCall → HandlerCall Bool
  | .start opens => .start opens
  | .stop => .stop false
  | .createVideoTrackSource opens => .createVideoTrackSource opens
  | .close => .close false

theorem onTrack_run (p : CameraRoutine φ δ PUnit) (h : AMediaTrackHandler φ δ CameraParts) (place : Nat) :
    (onTrack p).run ⟨place, h⟩ =
      match mapState (fun t => t.current) (p.run ⟨h.toTrack, []⟩) with
      | .ok _ s => .ok () ⟨place, s.toHandler⟩
      | .error e s => .error e.raise ⟨place, s.toHandler⟩ := by
  rw [onTrack, zoomData_run]
  cases p.run ⟨h.toTrack, []⟩ <;> rfl

/-- What `Start` does has nothing to do with the states before it. -/
theorem start_current (opens : Bool) (s : CameraTrack φ δ) (passed : List (CameraTrack φ δ)) :
    mapState (fun t => t.current) ((CameraTrack.start opens : CameraRoutine φ δ PUnit).run ⟨s, passed⟩) =
      mapState (fun t => t.current) ((CameraTrack.start opens : CameraRoutine φ δ PUnit).run ⟨s, []⟩) := by
  by_cases hIdle : s.isRunning = true ∨ opens = false
  · rw [CameraTrack.start_run_idle hIdle, CameraTrack.start_run_idle hIdle]
    rfl
  · rw [not_or, Bool.not_eq_true, Bool.not_eq_false] at hIdle
    obtain ⟨hRunning, rfl⟩ := hIdle
    rw [CameraTrack.start_run_opens hRunning, CameraTrack.start_run_opens hRunning]
    split <;> rfl

theorem camera_start (opens : Bool) (depth : Nat) (h : AMediaTrackHandler φ δ CameraParts) :
    (camera.call (depth + 1) .start opens).run ⟨0, h⟩ = (onTrack (CameraTrack.start opens)).run ⟨0, h⟩ := by
  rw [ConcreteHandler.call, callVirtual_run]
  rfl

theorem camera_stop (answer : Bool) (depth : Nat) (h : AMediaTrackHandler φ δ CameraParts) :
    (camera.call (depth + 1) .stop answer).run ⟨0, h⟩ = (onTrack CameraTrack.stop).run ⟨0, h⟩ := by
  rw [ConcreteHandler.call, callVirtual_run]
  rfl

theorem camera_createVideoTrackSource (opens : Bool) (depth : Nat) (h : AMediaTrackHandler φ δ CameraParts) :
    (camera.call (depth + 2) .createVideoTrackSource opens).run ⟨0, h⟩ =
      (onTrack (CameraTrack.createVideoTrackSource opens)).run ⟨0, h⟩ := by
  have hBody : (camera.call (depth + 2) .createVideoTrackSource opens).run ⟨0, h⟩ =
      (camera.call (depth + 1) .start opens).run ⟨0, (CameraTrack.sourced h.toTrack).toHandler⟩ := by
    rw [ConcreteHandler.call, callVirtual_run]
    rfl
  obtain ⟨made, -, hRun⟩ := CameraTrack.createVideoTrackSource_run h.toTrack [] opens
  rw [hBody, camera_start, onTrack_run, onTrack_run, hRun, toTrack_toHandler, start_current opens _ ([] ++ made)]

theorem camera_close (answer : Bool) (depth : Nat) (h : AMediaTrackHandler φ δ CameraParts) :
    (camera.call (depth + 2) .close answer).run ⟨0, h⟩ = (onTrack CameraTrack.close).run ⟨0, h⟩ := by
  have hBody : (camera.call (depth + 2) .close answer).run ⟨0, h⟩ =
      (AMediaTrackHandler.close (camera.call (depth + 1)) answer).run ⟨0, h⟩ := by
    rw [ConcreteHandler.call, callVirtual_run]
    rfl
  rw [hBody, AMediaTrackHandler.close, EStateM.run_bind, camera_stop, onTrack_run, onTrack_run, CameraTrack.close,
    EStateM.run_bind]
  cases CameraTrack.stop.run ⟨h.toTrack, []⟩ with
  | error e t => rfl
  | ok u t =>
      -- The rest of `Close` is the same on both, whether stopping the recording returns or not.
      obtain ⟨s, passed⟩ := t
      simp only [mapState_ok, EStateM.run_bind, AMediaTrackHandler.onRecordable, zoomData_run, statement_run,
        CameraTrack.stopRecording_run, toHandler_recordable]
      cases (Recordable.stopRecording : Program (Recordable φ δ) PUnit).run s.recordable with
      | ok u r => rfl
      | error e r => rfl

/-- Called on a complete camera, the functions of the base classes do what those of the track do. -/
theorem camera_call (call : CameraCall) (depth : Nat) (h : AMediaTrackHandler φ δ CameraParts) :
    (camera.routine (depth + 2) call.onHandler).run ⟨0, h⟩ = (onTrack call.routine).run ⟨0, h⟩ := by
  cases call with
  | start opens => exact camera_start opens (depth + 1) h
  | stop => exact camera_stop false (depth + 1) h
  | createVideoTrackSource opens => exact camera_createVideoTrackSource opens depth h
  | close => exact camera_close false depth h

theorem camera_step (call : CameraCall) (depth : Nat) (s : CameraTrack φ δ) :
    camera.step (depth + 2) ⟨0, s.toHandler⟩ call.onHandler = ⟨0, (cameraStep s call).toHandler⟩ := by
  rw [ConcreteHandler.step, camera_call, onTrack_run, toTrack_toHandler, cameraStep]
  cases (call.routine : CameraRoutine φ δ PUnit).run ⟨s, []⟩ <;> rfl

/-- A run of the handler is the run of the track. -/
theorem camera_run (calls : List CameraCall) (depth : Nat) (s : CameraTrack φ δ) :
    run (camera.step (depth + 2)) ⟨0, s.toHandler⟩ (calls.map CameraCall.onHandler) =
      ⟨0, (run cameraStep s calls).toHandler⟩ :=
  run_simulation
    (R := fun (s : CameraTrack φ δ) (o : Object (AMediaTrackHandler φ δ CameraParts)) => o = ⟨0, s.toHandler⟩)
    (A := fun _ => True) (fun s o call _ h => by rw [h, camera_step]) rfl fun _ _ => trivial

/-- Where no thread is orphaned, the camera's own destructor joins the thread, and keeps the source. -/
theorem camera_derived_destroyed {s : CameraTrack φ δ} (h : CameraTrack.OneThread s) (hNot : ¬ CameraTrack.Orphaned s)
    (depth place : Nat) (answer : Bool) :
    ∃ s' : CameraTrack φ δ, s'.alive = [] ∧ s'.isRunning = false ∧
      s'.actualVideoTrackSource.isSome = s.actualVideoTrackSource.isSome ∧
      (destroyFrom handlerFaults camera.classes depth answer 0 camera.derivedClasses).run ⟨place, s.toHandler⟩ =
        .ok () ⟨0, s'.toHandler⟩ := by
  obtain ⟨s', passed, hStop, -, hEnd, hThread, hStopped⟩ := CameraTrack.stop_quiet h hNot []
  have hSource : s'.actualVideoTrackSource.isSome = s.actualVideoTrackSource.isSome := by
    cases hRunning : s.isRunning with
    | false =>
        rw [CameraTrack.stop_run_idle hRunning] at hStop
        cases hStop
        rfl
    | true =>
        obtain ⟨object, hHeld⟩ := Option.isSome_iff_exists.mp (h.held hRunning)
        rw [CameraTrack.stop_run_running hRunning hHeld (h.joinable object hHeld)] at hStop
        cases hStop
        simp [CameraTrack.setRunning, CameraTrack.released, CameraTrack.joined, CameraTrack.setStopFlag]
  refine ⟨s', by simpa [hThread] using hEnd.alive, hStopped, hSource, ?_⟩
  have hBody : (openCVCameraMediaTrack.destructor (callVirtual handlerFaults camera.classes depth) answer).run
      ⟨0, s.toHandler⟩ = .ok () ⟨0, s'.toHandler⟩ := by
    show (onTrack CameraTrack.stop >>= fun _ =>
      onTrack (Traced.statement (CameraTrack.assignFrameLoopThread none))).run _ = _
    rw [EStateM.run_bind, onTrack_run, toTrack_toHandler, hStop]
    simp only [mapState_ok, onTrack_run, toTrack_toHandler, statement_run, CameraTrack.assignFrameLoopThread_run,
      hThread, Option.any_none, Bool.false_eq_true, if_false]
    rw [← hThread]
  show (destroyFrom handlerFaults camera.classes depth answer 0 [openCVCameraMediaTrack]).run _ = _
  rw [destroyFrom_cons_run, EStateM.run_bind, noexcept_run_eq_ok.mpr hBody]
  rfl

/-- A camera that accounts for its thread is stopped by its own destructor, and then meets the pure `Stop` with its
source still held. -/
theorem camera_destroyed {calls : List CameraCall}
    (hSpares : EachStep cameraStep CameraTrack.Spares ({} : CameraTrack φ δ) calls)
    (hNot : ¬ CameraTrack.Orphaned (run cameraStep ({} : CameraTrack φ δ) calls)) (depth : Nat) (answer : Bool) :
    ∃ s' : CameraTrack φ δ, s'.alive = [] ∧ s'.isRunning = false ∧
      s'.actualVideoTrackSource.isSome = (run cameraStep ({} : CameraTrack φ δ) calls).actualVideoTrackSource.isSome ∧
      (camera.destroy (depth + 2) answer).run
          (run (camera.step (depth + 2)) ⟨0, ({} : CameraTrack φ δ).toHandler⟩ (calls.map CameraCall.onHandler)) =
        .error (.pureVirtual .stop) ⟨1, s'.toHandler⟩ := by
  have hOne : CameraTrack.OneThread (run cameraStep ({} : CameraTrack φ δ) calls) :=
    hSpares.keeps (I := CameraTrack.OneThread) (fun _ _ h hStep => (CameraTrack.step_of_spares h hStep).2)
      CameraTrack.oneThread_new
  obtain ⟨s', hAlive, hStopped, hSource, hDerived⟩ := camera_derived_destroyed hOne hNot (depth + 2) 0 answer
  refine ⟨s', hAlive, hStopped, hSource, ?_⟩
  rw [camera_run, ConcreteHandler.destroy_run hDerived]
  rfl

/-- A camera that was used and closed, and is then destroyed: `Stop` is called where it is pure. -/
theorem closed_camera_calls_pure_stop :
    let calls : List (HandlerCall Bool) := [.createVideoTrackSource true, .close false]
    let fresh := ({} : CameraTrack Nat Rat).toHandler
    (∃ o, (camera.destroy 3 false).run (run (camera.step 3) ⟨0, fresh⟩ calls) = .error (.pureVirtual .stop) o) ∧
      ¬ camera.DestroyedCleanly fresh calls false := by
  refine ⟨⟨_, rfl⟩, ?_⟩
  rintro ⟨depth, o, hEnds, -⟩
  exact ConcreteHandler.destroy_ne_ok _ o hEnds

end MosaicCore
