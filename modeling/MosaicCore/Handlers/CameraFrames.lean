import MosaicCore.Handlers.CameraThreads
import MosaicCore.Library.Typestate

/-!
# The frames of a camera

What the threads of a camera track do with the camera and its frames follows a protocol (`cameraProtocol`), in every
interleaving in which `Start` is not called by itself before there is a source (`CameraThreads.Sourced`): the camera is opened while no frame loop works; a frame loop hands each frame that it reads to
libwebrtc before it reads the next; a frame is let go only by a frame loop that has been told to stop; and a frame loop
is joined when no frame is on its way.
-/

namespace MosaicCore

open EventRun Typestate

/-- What is done with the camera and its frames. -/
inductive CameraAct (φ : Type)
  | opened
  | launched (thread : Nat)
  | read (thread : Nat) (frame : φ)
  | delivered (thread : Nat) (frame : φ)
  /-- The source does not take the frame. -/
  | dropped (thread : Nat) (frame : φ)
  | toldToStop (thread : Nat)
  | joined (thread : Nat)
  deriving DecidableEq, Repr

/-- How far the use of the camera has come. -/
inductive CameraUse (φ : Type)
  | closed
  | opened
  | looping (thread : Nat) (atHand : Option φ)
  | ending (thread : Nat) (atHand : Option φ)
  deriving DecidableEq, Repr

variable {φ δ : Type} [OfScientific δ]

/-- What may be done at each stage. -/
def CameraUse.next [DecidableEq φ] : CameraUse φ → CameraAct φ → Option (CameraUse φ)
  | .closed, .opened => some .opened
  | .opened, .launched thread => some (.looping thread none)
  | .looping thread none, .read thread' frame => if thread' = thread then some (.looping thread (some frame)) else none
  | .looping thread (some frame), .delivered thread' frame' =>
      if thread' = thread ∧ frame' = frame then some (.looping thread none) else none
  | .looping thread atHand, .toldToStop thread' => if thread' = thread then some (.ending thread atHand) else none
  | .ending thread none, .read thread' frame => if thread' = thread then some (.ending thread (some frame)) else none
  | .ending thread (some frame), .delivered thread' frame' =>
      if thread' = thread ∧ frame' = frame then some (.ending thread none) else none
  | .ending thread (some frame), .dropped thread' frame' =>
      if thread' = thread ∧ frame' = frame then some (.ending thread none) else none
  | .ending thread none, .joined thread' => if thread' = thread then some .closed else none
  | _, _ => none

/-- The protocol of the one camera of a track. -/
def cameraProtocol [DecidableEq φ] : Protocol Unit (CameraUse φ) (CameraAct φ) where
  about _ := some ()
  start := .closed
  next := CameraUse.next

/-- The frame that has been read and not yet been handed on. -/
def LoopStage.frame : LoopStage φ → Option φ
  | .checking => none
  | .reading => none
  | .sending frame => some frame
  | .testing frame => some frame
  | .gating frame => some frame
  | .delivering frame => some frame
  | .sleeping => none
  | .exited => none

/-- What a frame loop does when it goes on from one stage to the next. -/
def LoopStage.acts (thread : Nat) : LoopStage φ → LoopStage φ → List (CameraAct φ)
  | .reading, next => (next.frame.map (.read thread)).toList
  | .delivering frame, _ => [.delivered thread frame]
  | stage, next => if next.frame.isSome then [] else (stage.frame.map (.dropped thread)).toList

namespace CameraThreads

def controlActs (t : CameraThreads φ δ) : List (CameraAct φ) :=
  match t.control with
  | .opening opens => if opens then [.opened] else []
  | .launching => [.launched t.track.started]
  | .settingStopFlag _ => (t.track.frameLoopThread.map fun object => .toldToStop object.thread).toList
  | .joining _ =>
      if t.waits then []
      else ((t.track.frameLoopThread.filter fun object => object.joinable).map fun object =>
        .joined object.thread).toList
  | _ => []

def loopActs (t : CameraThreads φ δ) (thread : Nat) (answer : Option φ) : List (CameraAct φ) :=
  match t.loops[thread]? with
  | none => []
  | some stage =>
      match stage.next t.track answer with
      | some stage' => stage.acts thread stage'
      | none => []

/-- What a step does with the camera and its frames. -/
def acts (t : CameraThreads φ δ) (event : CameraEvent φ) : List (CameraAct φ) :=
  if t.crashed then []
  else
    match event with
    | .call _ => []
    | .control => controlActs t
    | .loop thread answer => loopActs t thread answer

/-- The camera is open, and its frame loop is not yet launched. -/
def opens : ControlStage → Bool
  | .settingRunning => true
  | .clearingStopFlag => true
  | .takingTime => true
  | .launching => true
  | _ => false

/-- The frame loop has been told to stop, and is not yet joined. -/
def ends : ControlStage → Bool
  | .joining _ => true
  | _ => false

/-- How far the use of the camera has come, as the threads stand. -/
def useOf (working : Option Nat) (loops : List (LoopStage φ)) (control : ControlStage) : CameraUse φ :=
  match working with
  | none => if opens control then .opened else .closed
  | some thread =>
      if ends control then .ending thread (loops[thread]?.bind LoopStage.frame)
      else .looping thread (loops[thread]?.bind LoopStage.frame)

def use (t : CameraThreads φ δ) : CameraUse φ :=
  useOf t.track.alive.head? t.loops t.control

variable {t : CameraThreads φ δ} {working : Option Nat}

theorem Placed.use_eq (h : Placed t working) : use t = useOf working t.loops t.control := by
  rw [use, h.head_alive]

theorem acts_control (hSound : t.crashed = false) : acts t .control = controlActs t := by
  simp [acts, hSound]

theorem acts_loop (hSound : t.crashed = false) (thread : Nat) (answer : Option φ) :
    acts t (.loop thread answer) = loopActs t thread answer := by
  simp [acts, hSound]

theorem acts_call (t : CameraThreads φ δ) (call : CameraCall) : acts t (.call call) = [] := by
  simp [acts]

/-- A call that waits does nothing. -/
theorem controlActs_of_waits (hWaits : t.waits = true) : controlActs t = [] := by
  have hJoining := hWaits
  unfold waits at hJoining
  split at hJoining
  next closes hStage => simp [controlActs, hStage, hWaits]
  next => cases hJoining

/-- Nor does a frame loop that has exited. -/
theorem loopActs_of_exited {thread : Nat} (hExited : ∀ stage, t.loops[thread]? = some stage → stage = .exited)
    (answer : Option φ) : loopActs t thread answer = [] := by
  cases hStage : t.loops[thread]? with
  | none => simp only [loopActs, hStage]
  | some stage =>
      obtain rfl := hExited stage hStage
      simp only [loopActs, hStage, LoopStage.next]
      rfl

theorem loopActs_of_next {thread : Nat} {answer : Option φ} {stage stage' : LoopStage φ}
    (hStage : t.loops[thread]? = some stage) (hNext : stage.next t.track answer = some stage') :
    loopActs t thread answer = stage.acts thread stage' := by
  simp only [loopActs, hStage, hNext]

theorem use_controlStep {next : ControlStage} {s : CameraTrack φ δ} (hGoes : t.waits = false)
    (hNext : Advances t next s working) :
    use (controlStep t) =
      useOf working (if t.control = .launching then t.loops ++ [.checking] else t.loops) next := by
  have hPlaced : Placed (controlStep t) working := by
    rw [controlStep_eq hGoes hNext]
    exact ⟨hNext.accounts, hNext.fits⟩
  rw [hPlaced.use_eq, controlStep_eq hGoes hNext]

variable [DecidableEq φ]

/-- A statement of a call that does nothing with the camera. -/
theorem follow_idle {next : ControlStage} {s : CameraTrack φ δ} {working' : Option Nat} (h : Placed t working)
    (hGoes : t.waits = false) (hNext : Advances t next s working') (hStays : t.control ≠ .launching)
    (hActs : controlActs t = []) (hUse : useOf working' t.loops next = useOf working t.loops t.control) :
    cameraProtocol.follow (use t) (controlActs t) = some (use (controlStep t)) := by
  rw [hActs, use_controlStep hGoes hNext, if_neg hStays, hUse, h.use_eq]
  rfl

theorem follow_singleton (stage : CameraUse φ) (act : CameraAct φ) :
    cameraProtocol.follow stage [act] = stage.next act := by
  show (stage.next act).bind some = _
  cases stage.next act <;> rfl

/-- The camera is opened while it is closed. -/
theorem follow_opening (h : Placed t working) (hGoes : t.waits = false) {opens : Bool}
    (hStage : t.control = .opening opens) :
    cameraProtocol.follow (use t) (controlActs t) = some (use (controlStep t)) := by
  obtain ⟨s, hNext⟩ := advances_opening h hStage
  have hFits := h.fits
  rw [hStage] at hFits
  obtain ⟨⟨-, rfl⟩, -⟩ := hFits
  rw [controlActs, use_controlStep hGoes hNext, h.use_eq, hStage]
  cases opens <;> rfl

/-- The frame loop is launched on an open camera. -/
theorem follow_launching (h : Placed t working) (hGoes : t.waits = false) (hStage : t.control = .launching) :
    cameraProtocol.follow (use t) (controlActs t) = some (use (controlStep t)) := by
  obtain ⟨s, hNext⟩ := advances_launching h hStage
  have hFits := h.fits
  rw [hStage] at hFits
  obtain ⟨⟨-, rfl⟩, -⟩ := hFits
  have hAtHand : (t.loops ++ [LoopStage.checking])[t.track.started]?.bind LoopStage.frame = none := by
    simp [h.accounts.started, LoopStage.frame]
  rw [controlActs, use_controlStep hGoes hNext, h.use_eq, hStage, if_pos rfl]
  show some (CameraUse.looping t.track.started none) = some (.looping t.track.started _)
  rw [hAtHand]

theorem follow_settingStopFlag (h : Placed t working) (hGoes : t.waits = false) {closes : Bool}
    (hStage : t.control = .settingStopFlag closes) :
    cameraProtocol.follow (use t) (controlActs t) = some (use (controlStep t)) := by
  obtain ⟨s, hNext⟩ := advances_settingStopFlag h hStage
  have hFits := h.fits
  rw [hStage] at hFits
  obtain ⟨n, ⟨hThread, rfl⟩, -⟩ := hFits
  have hActs : controlActs t = [.toldToStop n] := by simp [controlActs, hStage, hThread]
  rw [hActs, use_controlStep hGoes hNext, h.use_eq, hStage, follow_singleton]
  simp [CameraUse.next, useOf, ends]

/-- The frame loop that is joined has exited, so it has no frame at hand. -/
theorem follow_joining (h : Placed t working) (hGoes : t.waits = false) {closes : Bool}
    (hStage : t.control = .joining closes) :
    cameraProtocol.follow (use t) (controlActs t) = some (use (controlStep t)) := by
  obtain ⟨s, hNext⟩ := advances_joining h hGoes hStage
  have hFits := h.fits
  rw [hStage] at hFits
  obtain ⟨n, ⟨hThread, rfl⟩, -⟩ := hFits
  have hExited : t.loops[n]?.any LoopStage.hasExited = true := by simpa [waits, hStage, hThread] using hGoes
  have hAtHand : t.loops[n]?.bind LoopStage.frame = none := by
    cases hLoop : t.loops[n]? with
    | none => rfl
    | some stage =>
        rw [hLoop] at hExited
        cases stage <;> first | rfl | cases hExited
  have hActs : controlActs t = [.joined n] := by simp [controlActs, hStage, hGoes, hThread, Option.filter]
  rw [hActs, use_controlStep hGoes hNext, h.use_eq, hStage, follow_singleton]
  simp [hAtHand, CameraUse.next, useOf, ends, opens]

/-- A statement of a call follows the protocol. -/
theorem follow_controlStep (h : Placed t working) :
    cameraProtocol.follow (use t) (controlActs t) = some (use (controlStep t)) := by
  cases hWaits : t.waits with
  | true =>
      rw [controlActs_of_waits hWaits, controlStep, if_pos hWaits]
      rfl
  | false =>
      cases hStage : t.control with
      | idle =>
          have hSame : controlStep t = t := by
            obtain ⟨track, control, loops, crashed⟩ := t
            obtain rfl : control = .idle := hStage
            rfl
          rw [hSame, controlActs, hStage]
          rfl
      | creating opens =>
          obtain ⟨s, hNext⟩ := advances_creating h hStage
          exact follow_idle h hWaits hNext (by simp [hStage]) (by rw [controlActs, hStage]) (by rw [hStage]; rfl)
      | starting opens =>
          obtain ⟨s, hNext⟩ := advances_starting h hStage
          refine follow_idle h hWaits hNext (by simp [hStage]) (by rw [controlActs, hStage]) ?_
          rw [hStage]
          cases t.track.isRunning <;> rfl
      | opening opens => exact follow_opening h hWaits hStage
      | settingRunning =>
          obtain ⟨s, hNext⟩ := advances_settingRunning h hStage
          exact follow_idle h hWaits hNext (by simp [hStage]) (by rw [controlActs, hStage]) (by rw [hStage]; rfl)
      | clearingStopFlag =>
          obtain ⟨s, hNext⟩ := advances_clearingStopFlag h hStage
          exact follow_idle h hWaits hNext (by simp [hStage]) (by rw [controlActs, hStage]) (by rw [hStage]; rfl)
      | takingTime =>
          obtain ⟨s, hNext⟩ := advances_takingTime h hStage
          exact follow_idle h hWaits hNext (by simp [hStage]) (by rw [controlActs, hStage]) (by rw [hStage]; rfl)
      | launching => exact follow_launching h hWaits hStage
      | assigning thread =>
          obtain ⟨s, hNext⟩ := advances_assigning h hStage
          exact follow_idle h hWaits hNext (by simp [hStage]) (by rw [controlActs, hStage]) (by rw [hStage]; rfl)
      | stopping closes =>
          obtain ⟨s, hNext⟩ := advances_stopping h hStage
          refine follow_idle h hWaits hNext (by simp [hStage]) (by rw [controlActs, hStage]) ?_
          rw [hStage]
          cases t.track.isRunning <;> cases closes <;> rfl
      | settingStopFlag closes => exact follow_settingStopFlag h hWaits hStage
      | joining closes => exact follow_joining h hWaits hStage
      | releasing closes =>
          obtain ⟨s, hNext⟩ := advances_releasing h hStage
          exact follow_idle h hWaits hNext (by simp [hStage]) (by rw [controlActs, hStage]) (by rw [hStage]; rfl)
      | clearingRunning closes =>
          obtain ⟨s, hNext⟩ := advances_clearingRunning h hStage
          refine follow_idle h hWaits hNext (by simp [hStage]) (by rw [controlActs, hStage]) ?_
          rw [hStage]
          cases closes <;> rfl
      | stoppingRecording =>
          obtain ⟨s, hNext⟩ := advances_stoppingRecording h hStage
          exact follow_idle h hWaits hNext (by simp [hStage]) (by rw [controlActs, hStage]) (by rw [hStage]; rfl)
      | dropping =>
          obtain ⟨s, hNext⟩ := advances_dropping h hStage
          exact follow_idle h hWaits hNext (by simp [hStage]) (by rw [controlActs, hStage]) (by rw [hStage]; rfl)

/-- A frame loop that nobody has told to stop finds its source running. -/
theorem Fits.source_running {source : Option ActualVideoTrackSource} {thread : Option ThreadObject}
    {stage : ControlStage} {n : Nat} (h : Fits source thread (some n) stage) (hGoesOn : ends stage = false) :
    source = some ⟨true, false⟩ := by
  have hRests (hRests : Rests source thread (some n)) : source = some ⟨true, false⟩ := by
    obtain ⟨⟨-, hNone⟩, -⟩ | ⟨_, -, hSource⟩ := hRests
    · cases hNone
    · exact hSource
  cases stage with
  | idle => exact hRests h
  | creating opens => exact hRests h
  | starting opens => exact hRests h.1
  | assigning thread => exact h.2
  | stopping closes => exact hRests h
  | settingStopFlag closes =>
      obtain ⟨_, -, hSource⟩ := h
      exact hSource
  | joining closes => cases hGoesOn
  | releasing closes => cases h.2.1
  | opening opens => cases h.1.2
  | settingRunning => cases h.1.2
  | clearingStopFlag => cases h.1.2
  | takingTime => cases h.1.2
  | launching => cases h.1.2
  | clearingRunning closes => cases h.1.2
  | stoppingRecording => cases h.1.2
  | dropping => cases h.1.2

/-- With a source that runs, each frame that is read is delivered. -/
theorem follow_looping {s : CameraTrack φ δ} (hSource : s.actualVideoTrackSource = some ⟨true, false⟩)
    {answer : Option φ} {stage stage' : LoopStage φ} (hNext : stage.next s answer = some stage') (thread : Nat) :
    cameraProtocol.follow (.looping thread stage.frame) (stage.acts thread stage') =
      some (.looping thread stage'.frame) := by
  cases stage with
  | checking =>
      obtain rfl : .reading = stage' := by simpa [LoopStage.next, CameraTrack.getStopFlag, hSource] using hNext
      rfl
  | reading =>
      cases answer with
      | none =>
          obtain rfl : .sleeping = stage' := Option.some.inj hNext
          rfl
      | some frame =>
          obtain rfl : .sending frame = stage' := Option.some.inj hNext
          exact (follow_singleton _ _).trans (if_pos rfl)
  | sending frame =>
      obtain rfl : .testing frame = stage' := by simpa [LoopStage.next, hSource] using hNext
      rfl
  | testing frame =>
      obtain rfl : .gating frame = stage' := by simpa [LoopStage.next, hSource] using hNext
      rfl
  | gating frame =>
      obtain rfl : .delivering frame = stage' := by simpa [LoopStage.next, hSource] using hNext
      rfl
  | delivering frame =>
      obtain rfl : .sleeping = stage' := by simpa [LoopStage.next, hSource] using hNext
      exact (follow_singleton _ _).trans (if_pos ⟨rfl, rfl⟩)
  | sleeping =>
      obtain rfl : .checking = stage' := Option.some.inj hNext
      rfl
  | exited =>
      obtain rfl : .exited = stage' := Option.some.inj hNext
      rfl

/-- A frame loop that has been told to stop may drop the frame. -/
theorem follow_ending {s : CameraTrack φ δ} (hSource : s.actualVideoTrackSource.isSome = true)
    {answer : Option φ} {stage stage' : LoopStage φ} (hNext : stage.next s answer = some stage') (thread : Nat) :
    cameraProtocol.follow (.ending thread stage.frame) (stage.acts thread stage') =
      some (.ending thread stage'.frame) := by
  obtain ⟨source, hSome⟩ := Option.isSome_iff_exists.mp hSource
  have hDrops (frame : φ) : cameraProtocol.follow (.ending thread (some frame)) [.dropped thread frame] =
      some (.ending thread none) := (follow_singleton _ _).trans (if_pos ⟨rfl, rfl⟩)
  cases stage with
  | checking =>
      obtain rfl : (if s.getStopFlag then .exited else .reading) = stage' := Option.some.inj hNext
      cases s.getStopFlag <;> rfl
  | reading =>
      cases answer with
      | none =>
          obtain rfl : .sleeping = stage' := Option.some.inj hNext
          rfl
      | some frame =>
          obtain rfl : .sending frame = stage' := Option.some.inj hNext
          exact (follow_singleton _ _).trans (if_pos rfl)
  | sending frame =>
      obtain rfl : .testing frame = stage' := by simpa [LoopStage.next, hSome] using hNext
      rfl
  | testing frame =>
      obtain rfl : (if source.isRunning then .gating frame else .sleeping) = stage' := by
        simpa [LoopStage.next, hSome] using hNext
      cases source.isRunning with
      | true => rfl
      | false => exact hDrops frame
  | gating frame =>
      obtain rfl : (if source.stopFlag then .sleeping else .delivering frame) = stage' := by
        simpa [LoopStage.next, hSome] using hNext
      cases source.stopFlag with
      | true => exact hDrops frame
      | false => rfl
  | delivering frame =>
      obtain rfl : .sleeping = stage' := by simpa [LoopStage.next, hSome] using hNext
      exact (follow_singleton _ _).trans (if_pos ⟨rfl, rfl⟩)
  | sleeping =>
      obtain rfl : .checking = stage' := Option.some.inj hNext
      rfl
  | exited =>
      obtain rfl : .exited = stage' := Option.some.inj hNext
      rfl

/-- A statement of a frame loop follows the protocol. -/
theorem follow_loopStep (h : Placed t working) (thread : Nat) (answer : Option φ) :
    cameraProtocol.follow (use t) (loopActs t thread answer) = some (use (loopStep t thread answer)) := by
  have hPlaced := placed_loopStep h thread answer
  rcases loopStep_cases h thread answer with ⟨hSame, hExited⟩ | ⟨stage, stage', rfl, hStage, hNext, -, hStep⟩
  · rw [loopActs_of_exited hExited, hSame]
    rfl
  · have hAfter : (t.loops.set thread stage')[thread]? = some stage' :=
      List.getElem?_set_self (List.getElem?_eq_some_iff.mp hStage).1
    rw [hPlaced.use_eq, h.use_eq, loopActs_of_next hStage hNext, hStep]
    simp only [useOf, hStage, hAfter, Option.bind_some]
    cases hEnds : ends t.control with
    | true => exact follow_ending (h.fits.source rfl) hNext thread
    | false => exact follow_looping (h.fits.source_running hEnds) hNext thread

/-- The protocol is where the threads are. -/
structure Follows (t : CameraThreads φ δ) (log : List (CameraAct φ)) : Prop where
  inStep : ∃ calls, InStep t calls
  stage : cameraProtocol.stage log () = some (use t)

theorem follows_step {log : List (CameraAct φ)} (h : Follows t log) {event : CameraEvent φ}
    (hSourced : Sourced t event) : Follows (step t event) (log ++ acts t event) := by
  obtain ⟨⟨calls, hInStep⟩, hStage⟩ := h
  obtain ⟨working, hPlaced⟩ := hInStep.placed
  refine ⟨⟨_, inStep_step hInStep hSourced⟩, ?_⟩
  have hOn (more : List (CameraAct φ)) : cameraProtocol.callsOn () more = more := List.filter_eq_self.mpr fun _ _ => rfl
  rw [Protocol.stage_append, hStage, hOn, Option.bind_some, step_eq hInStep.sound]
  cases event with
  | call call =>
      have hUse : use (threadStep t (.call call)) = use t := by
        by_cases hIdle : t.control = .idle
        · rw [threadStep, if_pos hIdle, use, use, hIdle]
          cases call <;> rfl
        · rw [threadStep, if_neg hIdle]
      rw [acts_call, hUse]
      rfl
  | control =>
      rw [acts_control hInStep.sound]
      exact follow_controlStep hPlaced
  | loop thread answer =>
      rw [acts_loop hInStep.sound]
      exact follow_loopStep hPlaced thread answer

end CameraThreads

/-! ## The order of the frames -/

def CameraAct.frameRead : CameraAct φ → Option φ
  | .read _ frame => some frame
  | _ => none

/-- The frame that a frame loop is done with. -/
def CameraAct.frameLeft : CameraAct φ → Option φ
  | .delivered _ frame => some frame
  | .dropped _ frame => some frame
  | _ => none

def CameraUse.atHand : CameraUse φ → Option φ
  | .closed => none
  | .opened => none
  | .looping _ atHand => atHand
  | .ending _ atHand => atHand

section Order

variable [DecidableEq φ]

/-- What is read is at hand, and what is at hand is what is left. -/
theorem CameraUse.frames_next {stage stage' : CameraUse φ} {act : CameraAct φ} (hNext : stage.next act = some stage') :
    stage.atHand.toList ++ act.frameRead.toList = act.frameLeft.toList ++ stage'.atHand.toList := by
  unfold CameraUse.next at hNext
  split at hNext
  next => cases hNext; rfl
  next => cases hNext; rfl
  next => split_ifs at hNext; cases hNext; rfl
  next =>
    split_ifs at hNext with hSame
    obtain ⟨-, rfl⟩ := hSame
    cases hNext
    rfl
  next =>
    split_ifs at hNext
    cases hNext
    exact List.append_nil _
  next => split_ifs at hNext; cases hNext; rfl
  next =>
    split_ifs at hNext with hSame
    obtain ⟨-, rfl⟩ := hSame
    cases hNext
    rfl
  next =>
    split_ifs at hNext with hSame
    obtain ⟨-, rfl⟩ := hSame
    cases hNext
    rfl
  next => split_ifs at hNext; cases hNext; rfl
  next => cases hNext

/-- Along the protocol the frames that were read are those that were left, in the same order, and the one at hand. -/
theorem reads_eq_lefts {log : List (CameraAct φ)} {stage : CameraUse φ}
    (hStage : cameraProtocol.stage log () = some stage) :
    log.filterMap CameraAct.frameRead = log.filterMap CameraAct.frameLeft ++ stage.atHand.toList := by
  have hAll : cameraProtocol.callsOn () log = log := List.filter_eq_self.mpr fun _ _ => rfl
  rw [← hAll]
  refine Protocol.stage_induction
    (F := fun calls stage => calls.filterMap CameraAct.frameRead =
      calls.filterMap CameraAct.frameLeft ++ stage.atHand.toList) rfl ?_ hStage
  intro calls stage call stage' _ hCalls hNext
  have hCall := CameraUse.frames_next hNext
  rw [List.filterMap_append, List.filterMap_append, hCalls, List.append_assoc, List.append_assoc]
  refine congrArg (calls.filterMap CameraAct.frameLeft ++ ·) ?_
  cases hRead : call.frameRead <;> cases hLeft : call.frameLeft <;> simpa [hRead, hLeft] using hCall

open CameraThreads in
/-- **The frames go to libwebrtc in the order they were read.**  In every interleaving in which `Start` is not called by
itself before there is a source, what is done with the camera follows the protocol: it is opened while no frame loop
works, each frame that is read is delivered before the next is read, unless the frame loop has been told to stop and
lets it go, and a frame loop is joined with no frame at hand.  So the frames that were delivered or let go are those
that were read, in order, but for the one that is on its way. -/
theorem frames_in_order {events : List (CameraEvent φ)}
    (hSourced : EachStep step Sourced ({} : CameraThreads φ δ) events) :
    let log := outputs step acts ({} : CameraThreads φ δ) events
    cameraProtocol.Obeys log ∧
      log.filterMap CameraAct.frameRead = log.filterMap CameraAct.frameLeft ++
        (use (run step ({} : CameraThreads φ δ) events)).atHand.toList := by
  intro log
  have h : Follows (run step ({} : CameraThreads φ δ) events) ([] ++ log) :=
    outputs_invariant (I := Follows) (fun _ _ _ h hSourced => follows_step h hSourced) hSourced
      ⟨⟨[], inStep_new⟩, rfl⟩
  rw [List.nil_append] at h
  refine ⟨fun _ => ?_, reads_eq_lefts h.stage⟩
  rw [h.stage]
  rfl

open CameraThreads in
/-- The track is closed while a frame is on its way, and the frame is let go. -/
theorem frames_in_order_closed :
    let log := outputs step acts ({} : CameraThreads Nat Rat) closedInTheMiddle
    cameraProtocol.Obeys log ∧
      log.filterMap CameraAct.frameRead = log.filterMap CameraAct.frameLeft ++
        (use (run step ({} : CameraThreads Nat Rat) closedInTheMiddle)).atHand.toList :=
  frames_in_order (by decide)

end Order

end MosaicCore
