import Mathlib.Tactic.SplitIfs
import MosaicCore.Handlers.CameraTrack

/-!
# The frame loop beside the calls

The frames of an `OpenCVCameraMediaTrack` are read and sent on the thread of its frame loop, while another thread
starts and stops the track.  The routines of `CameraTrack` take each call as a whole.  Here both threads go from one
statement to the next, in any interleaving, and a frame loop sees the flags and the source as they are at that moment.

`calls_in_step` says what the calls may rely on: whatever the interleaving, they have the effect they have as wholes,
and the two threads never touch a member at the same time which one of them writes.

The calls come one after the other, as they do from a connector.  A track is not recordable, so a frame that is sent is
not recorded.
-/

namespace MosaicCore

open EffectProgram EventRun

/-- Where the thread stands that calls the track. -/
inductive ControlStage
  | idle
  /-- At `if (!actual_video_track_source_)` of `CreateVideoTrackSource`. -/
  | creating (opens : Bool)
  /-- At `IsRunning` of `Start`. -/
  | starting (opens : Bool)
  | opening (opens : Bool)
  | settingRunning
  | clearingStopFlag
  /-- At `start_time_ = ...`. -/
  | takingTime
  | launching
  | assigning (thread : Nat)
  /-- At `IsRunning` of `Stop`, which `Close` may have called. -/
  | stopping (closes : Bool)
  | settingStopFlag (closes : Bool)
  | joining (closes : Bool)
  | releasing (closes : Bool)
  | clearingRunning (closes : Bool)
  | stoppingRecording
  | dropping
  deriving DecidableEq, Repr

/-- Where a frame loop stands. -/
inductive LoopStage (φ : Type)
  /-- At `while (!GetStopFlag())`. -/
  | checking
  | reading
  /-- At `if (actual_video_track_source_)`. -/
  | sending (frame : φ)
  /-- At `is_running_` of the source's `SendFrame`. -/
  | testing (frame : φ)
  /-- At `!stop_flag_`. -/
  | gating (frame : φ)
  /-- At `OnFrame`. -/
  | delivering (frame : φ)
  | sleeping
  | exited
  deriving DecidableEq, Repr

/-- A camera track, with its threads. -/
structure CameraThreads (φ δ : Type) [OfScientific δ] where
  track : CameraTrack φ δ := {}
  control : ControlStage := .idle
  /-- The frame loops, by the numbers of their threads. -/
  loops : List (LoopStage φ) := []
  /-- The process has ended. -/
  crashed : Bool := false
  deriving Repr

/-- Which thread goes on. -/
inductive CameraEvent (φ : Type)
  | call (call : CameraCall)
  /-- The next statement of the call. -/
  | control
  /-- The next statement of a frame loop; `answer` is the frame that `capture_.read` gives, if it gives one and does
  not throw. -/
  | loop (thread : Nat) (answer : Option φ)
  deriving DecidableEq, Repr

variable {φ δ : Type} [OfScientific δ]

/-- Where a call begins. -/
def CameraCall.stage : CameraCall → ControlStage
  | .start opens => .starting opens
  | .stop => .stopping false
  | .createVideoTrackSource opens => .creating opens
  | .close => .stopping true

/-- What comes after `Stop`. -/
def ControlStage.stopped (closes : Bool) : ControlStage :=
  if closes then .stoppingRecording else .idle

/-- The next statement of a call, and where the call goes on. -/
def ControlStage.statement : ControlStage → EStateM CameraFault (CameraTrack φ δ) ControlStage
  | .idle => pure .idle
  | .creating opens => do
      if (← get).actualVideoTrackSource.isNone then
        modify fun s => { s with actualVideoTrackSource := some {} }
      pure (.starting opens)
  | .starting opens => do
      pure (if (← get).isRunning then .idle else .opening opens)
  | .opening opens => pure (if opens then .settingRunning else .idle)
  | .settingRunning => do
      modify (CameraTrack.setRunning true)
      pure .clearingStopFlag
  | .clearingStopFlag => do
      modify (CameraTrack.setStopFlag false)
      pure .takingTime
  | .takingTime => pure .launching
  | .launching => do
      let thread ← CameraTrack.launch
      pure (.assigning thread)
  | .assigning thread => do
      CameraTrack.assignFrameLoopThread (some { thread := thread })
      pure .idle
  | .stopping closes => do
      pure (if (← get).isRunning then .settingStopFlag closes else .stopped closes)
  | .settingStopFlag closes => do
      modify (CameraTrack.setStopFlag true)
      pure (.joining closes)
  | .joining closes => do
      match (← get).frameLoopThread with
      | some object =>
          if object.joinable then
            CameraTrack.join object
      | none => pure ()
      pure (.releasing closes)
  | .releasing closes => do
      CameraTrack.assignFrameLoopThread none
      pure (.clearingRunning closes)
  | .clearingRunning closes => do
      modify (CameraTrack.setRunning false)
      pure (.stopped closes)
  | .stoppingRecording => do
      CameraTrack.stopRecording
      pure .dropping
  | .dropping => do
      modify fun s => { s with actualVideoTrackSource := none }
      pure .idle

/-- The next statement of a frame loop; `none` where it goes through a null pointer. -/
def LoopStage.next (s : CameraTrack φ δ) (answer : Option φ) : LoopStage φ → Option (LoopStage φ)
  | .checking => some (if s.getStopFlag then .exited else .reading)
  | .reading => some (match answer with | some frame => .sending frame | none => .sleeping)
  | .sending frame => some (if s.actualVideoTrackSource.isSome then .testing frame else .sleeping)
  | .testing frame => s.actualVideoTrackSource.map fun source => if source.isRunning then .gating frame else .sleeping
  | .gating frame => s.actualVideoTrackSource.map fun source => if source.stopFlag then .sleeping else .delivering frame
  | .delivering _ => s.actualVideoTrackSource.map fun _ => .sleeping
  | .sleeping => some .checking
  | .exited => some .exited

def LoopStage.hasExited : LoopStage φ → Bool
  | .exited => true
  | _ => false

namespace CameraThreads

/-- `join` does not return yet. -/
def waits (t : CameraThreads φ δ) : Bool :=
  match t.control with
  | .joining _ => t.track.frameLoopThread.any fun object =>
      object.joinable && !(t.loops[object.thread]?.any LoopStage.hasExited)
  | _ => false

def controlStep (t : CameraThreads φ δ) : CameraThreads φ δ :=
  if t.waits then t
  else
    match t.control.statement.run t.track with
    | .ok next track =>
        { t with
          track := track
          control := next
          loops := if t.control = .launching then t.loops ++ [.checking] else t.loops }
    | .error _ track => { t with track := track, crashed := true }

def loopStep (t : CameraThreads φ δ) (thread : Nat) (answer : Option φ) : CameraThreads φ δ :=
  match t.loops[thread]? with
  | none => t
  | some stage =>
      match stage.next t.track answer with
      | some stage' => { t with loops := t.loops.set thread stage' }
      | none => { t with crashed := true }

def threadStep (t : CameraThreads φ δ) : CameraEvent φ → CameraThreads φ δ
  | .call call => if t.control = .idle then { t with control := call.stage } else t
  | .control => controlStep t
  | .loop thread answer => loopStep t thread answer

/-- The state after a step; nothing happens once the process has ended. -/
def step (t : CameraThreads φ δ) (event : CameraEvent φ) : CameraThreads φ δ :=
  if t.crashed then t else threadStep t event

/-- The call that an event begins. -/
def accepted (t : CameraThreads φ δ) : CameraEvent φ → List CameraCall
  | .call call => if t.crashed = false ∧ t.control = .idle then [call] else []
  | .control => []
  | .loop _ _ => []

/-- A frame loop that has not ended. -/
def Works (t : CameraThreads φ δ) (thread : Nat) : Prop :=
  ∃ stage, t.loops[thread]? = some stage ∧ stage ≠ .exited

/-- `Start` is not called by itself before there is a source. -/
def Sourced (t : CameraThreads φ δ) (event : CameraEvent φ) : Prop :=
  ∀ opens, event = .call (.start opens) → t.control = .idle → t.track.actualVideoTrackSource.isSome = true

end CameraThreads

/-! ## Races -/

/-- The members that both threads touch and that are not atomic. -/
inductive SharedMember
  | actualVideoTrackSource
  | capture
  | startTime
  deriving DecidableEq, Repr

/-- A member that a statement touches. -/
structure Access where
  member : SharedMember
  writes : Bool
  deriving DecidableEq, Repr

/-- What the next statement of a call touches. -/
def ControlStage.touches (source : Option ActualVideoTrackSource) : ControlStage → List Access
  | .idle => []
  -- The pointer is set where it was null.
  | .creating _ => [⟨.actualVideoTrackSource, source.isNone⟩]
  | .starting _ => [⟨.actualVideoTrackSource, false⟩]
  | .opening _ => [⟨.capture, true⟩]
  | .settingRunning => [⟨.actualVideoTrackSource, false⟩]
  | .clearingStopFlag => [⟨.actualVideoTrackSource, false⟩]
  | .takingTime => [⟨.startTime, true⟩]
  | .launching => []
  | .assigning _ => []
  | .stopping _ => [⟨.actualVideoTrackSource, false⟩]
  | .settingStopFlag _ => [⟨.actualVideoTrackSource, false⟩]
  | .joining _ => []
  | .releasing _ => []
  | .clearingRunning _ => [⟨.actualVideoTrackSource, false⟩]
  | .stoppingRecording => []
  | .dropping => [⟨.actualVideoTrackSource, true⟩]

/-- What the next statement of a frame loop touches; it reads the source for as long as it works with it. -/
def LoopStage.touches : LoopStage φ → List Access
  | .checking => [⟨.actualVideoTrackSource, false⟩]
  | .reading => [⟨.capture, true⟩]
  | .sending _ => [⟨.startTime, false⟩, ⟨.actualVideoTrackSource, false⟩]
  | .testing _ => [⟨.actualVideoTrackSource, false⟩]
  | .gating _ => [⟨.actualVideoTrackSource, false⟩]
  | .delivering _ => [⟨.actualVideoTrackSource, false⟩]
  | .sleeping => []
  | .exited => []

/-- Two statements touch the same member, and one of them writes it. -/
def Access.Conflicts (mine theirs : Access) : Prop :=
  mine.member = theirs.member ∧ (mine.writes || theirs.writes) = true

namespace CameraThreads

/-- The call and a frame loop are about to touch the same member, which one of them writes. -/
def Races (t : CameraThreads φ δ) : Prop :=
  ∃ mine ∈ t.control.touches t.track.actualVideoTrackSource, ∃ stage ∈ t.loops, ∃ theirs ∈ stage.touches,
    mine.Conflicts theirs

end CameraThreads

/-! ## A call by itself -/

/-- How many statements a call has still to go, at most. -/
def ControlStage.remaining : ControlStage → Nat
  | .creating _ => 8
  | .starting _ => 7
  | .opening _ => 6
  | .settingRunning => 5
  | .clearingStopFlag => 4
  | .takingTime => 3
  | .launching => 2
  | .assigning _ => 1
  | .stopping _ => 7
  | .settingStopFlag _ => 6
  | .joining _ => 5
  | .releasing _ => 4
  | .clearingRunning _ => 3
  | .stoppingRecording => 2
  | .dropping => 1
  | .idle => 0

/-- The statements from a stage on, with nothing in between, leave the track so. -/
inductive ControlStage.Leaves : ControlStage → CameraTrack φ δ → CameraTrack φ δ → Prop
  | done {s : CameraTrack φ δ} : Leaves .idle s s
  | goOn {stage next : ControlStage} {s s' last : CameraTrack φ δ} (busy : stage ≠ .idle)
      (runs : stage.statement.run s = .ok next s') (rest : Leaves next s' last) : Leaves stage s last

theorem ControlStage.Leaves.idle {s last : CameraTrack φ δ} (h : ControlStage.idle.Leaves s last) : s = last := by
  cases h with
  | done => rfl
  | goOn hBusy _ _ => exact absurd rfl hBusy

theorem ControlStage.Leaves.rest {stage next : ControlStage} {s s' last : CameraTrack φ δ}
    (h : stage.Leaves s last) (hBusy : stage ≠ .idle) (hRun : stage.statement.run s = .ok next s') :
    next.Leaves s' last := by
  cases h with
  | done => exact absurd rfl hBusy
  | goOn _ hRuns hRest =>
      obtain ⟨rfl, rfl⟩ := EStateM.Result.ok.inj (hRuns.symm.trans hRun)
      exact hRest

namespace CameraThreads

theorem creating_run (opens : Bool) (s : CameraTrack φ δ) :
    (ControlStage.creating opens).statement.run s = .ok (.starting opens) (CameraTrack.sourced s) := by
  obtain ⟨source, thread, recordable, alive, started⟩ := s
  cases source <;> rfl

theorem starting_run (opens : Bool) (s : CameraTrack φ δ) :
    (ControlStage.starting opens).statement.run s = .ok (if s.isRunning then .idle else .opening opens) s := rfl

theorem opening_run (opens : Bool) (s : CameraTrack φ δ) :
    (ControlStage.opening opens).statement.run s = .ok (if opens then .settingRunning else .idle) s := rfl

/-- No thread is destroyed that would have to be joined. -/
theorem assigning_run (thread : Nat) {s : CameraTrack φ δ} (hThread : s.frameLoopThread = none) :
    (ControlStage.assigning thread).statement.run s =
      .ok .idle { s with frameLoopThread := some { thread := thread } } := by
  rw [ControlStage.statement, EStateM.run_bind, CameraTrack.assignFrameLoopThread_run, hThread]
  rfl

theorem stopping_run (closes : Bool) (s : CameraTrack φ δ) :
    (ControlStage.stopping closes).statement.run s =
      .ok (if s.isRunning then .settingStopFlag closes else .stopped closes) s := rfl

/-- The frame loop has been told to end. -/
theorem joining_run (closes : Bool) {n : Nat} {s : CameraTrack φ δ}
    (hThread : s.frameLoopThread = some { thread := n }) (hFlag : s.getStopFlag = true) :
    (ControlStage.joining closes).statement.run s =
      .ok (.releasing closes)
        { s with alive := s.alive.erase n, frameLoopThread := some { thread := n, joinable := false } } := by
  rw [ControlStage.statement, EStateM.run_bind, EStateM.run_get]
  simp only [hThread, if_true, EStateM.run_bind, CameraTrack.join, EStateM.run_get, hFlag, Bool.true_eq_false,
    and_false, if_false]
  rfl

theorem releasing_run (closes : Bool) {object : ThreadObject} {s : CameraTrack φ δ}
    (hThread : s.frameLoopThread = some object) (hJoined : object.joinable = false) :
    (ControlStage.releasing closes).statement.run s =
      .ok (.clearingRunning closes) { s with frameLoopThread := none } := by
  rw [ControlStage.statement, EStateM.run_bind, CameraTrack.assignFrameLoopThread_run, hThread, Option.any_some,
    hJoined]
  rfl

theorem stoppingRecording_run {s : CameraTrack φ δ} (hRecordable : s.recordable.recordable = false) :
    ControlStage.stoppingRecording.statement.run s = .ok .dropping s := by
  have hIdle : (Recordable.stopRecording : Program (Recordable φ δ) PUnit).run s.recordable = .ok () s.recordable := by
    simp [Recordable.stopRecording, EStateM.run_bind, hRecordable]
  rw [ControlStage.statement, EStateM.run_bind, CameraTrack.stopRecording_run, hIdle]
  rfl

/-! ## What is known at each stage -/

/-- No frame loop works, and no thread is held. -/
def Off (thread : Option ThreadObject) (working : Option Nat) : Prop :=
  thread = none ∧ working = none

/-- A frame loop works, and its thread is held. -/
def On (n : Nat) (thread : Option ThreadObject) (working : Option Nat) : Prop :=
  thread = some { thread := n } ∧ working = some n

/-- Between two calls the track either runs, with a frame loop that nothing stops, or it does not. -/
def Rests (source : Option ActualVideoTrackSource) (thread : Option ThreadObject) (working : Option Nat) : Prop :=
  (Off thread working ∧ source.any (fun held => held.isRunning) = false) ∨
    ∃ n, On n thread working ∧ source = some ⟨true, false⟩

/-- The source, the thread and the frame loop that works, at each stage of a call. -/
def Fits (source : Option ActualVideoTrackSource) (thread : Option ThreadObject) (working : Option Nat) :
    ControlStage → Prop
  | .idle => Rests source thread working
  | .creating _ => Rests source thread working
  | .starting _ => Rests source thread working ∧ source.isSome = true
  | .opening _ => Off thread working ∧ ∃ stopFlag, source = some ⟨false, stopFlag⟩
  | .settingRunning => Off thread working ∧ ∃ stopFlag, source = some ⟨false, stopFlag⟩
  | .clearingStopFlag => Off thread working ∧ ∃ stopFlag, source = some ⟨true, stopFlag⟩
  | .takingTime => Off thread working ∧ source = some ⟨true, false⟩
  | .launching => Off thread working ∧ source = some ⟨true, false⟩
  | .assigning n => (thread = none ∧ working = some n) ∧ source = some ⟨true, false⟩
  | .stopping _ => Rests source thread working
  | .settingStopFlag _ => ∃ n, On n thread working ∧ source = some ⟨true, false⟩
  | .joining _ => ∃ n, On n thread working ∧ source = some ⟨true, true⟩
  | .releasing _ => (∃ object, thread = some object ∧ object.joinable = false) ∧ working = none ∧
      source = some ⟨true, true⟩
  | .clearingRunning _ => Off thread working ∧ source = some ⟨true, true⟩
  | .stoppingRecording => Off thread working ∧ source.any (fun held => held.isRunning) = false
  | .dropping => Off thread working ∧ source.any (fun held => held.isRunning) = false

/-- All frame loops have ended but the one that works, which does not end without the stop flag; its thread is the
only one that is not joined. -/
structure Accounts (s : CameraTrack φ δ) (loops : List (LoopStage φ)) (working : Option Nat) : Prop where
  alive : s.alive = working.toList
  started : s.started = loops.length
  notRecordable : s.recordable.recordable = false
  works : ∀ n, working = some n → ∃ stage, loops[n]? = some stage ∧ (s.getStopFlag = false → stage ≠ .exited)
  ended : ∀ n stage, loops[n]? = some stage → working ≠ some n → stage = .exited

/-- What holds at every time. -/
structure Placed (t : CameraThreads φ δ) (working : Option Nat) : Prop where
  accounts : Accounts t.track t.loops working
  fits : Fits t.track.actualVideoTrackSource t.track.frameLoopThread working t.control

variable {t : CameraThreads φ δ} {working : Option Nat}

theorem step_eq (hSound : t.crashed = false) (event : CameraEvent φ) : step t event = threadStep t event := by
  simp [step, hSound]

theorem Placed.head_alive (h : Placed t working) : t.track.alive.head? = working := by
  rw [h.accounts.alive]
  cases working <;> rfl

/-- A statement that starts and joins no thread. -/
theorem Accounts.of_track {s s' : CameraTrack φ δ} {loops : List (LoopStage φ)} (h : Accounts s loops working)
    (hAlive : s'.alive = s.alive) (hStarted : s'.started = s.started) (hRecordable : s'.recordable = s.recordable)
    (hFlag : working.isSome = true → s'.getStopFlag = false → s.getStopFlag = false) :
    Accounts s' loops working where
  alive := hAlive.trans h.alive
  started := hStarted.trans h.started
  notRecordable := by rw [hRecordable, h.notRecordable]
  works n hWorking := by
    obtain ⟨stage, hStage, hGoesOn⟩ := h.works n hWorking
    exact ⟨stage, hStage, fun hCleared => hGoesOn (hFlag (by rw [hWorking]; rfl) hCleared)⟩
  ended := h.ended

/-- The next statement of the call does not throw, and leads to a stage that fits. -/
structure Advances (t : CameraThreads φ δ) (next : ControlStage) (s : CameraTrack φ δ) (working : Option Nat) :
    Prop where
  runs : t.control.statement.run t.track = .ok next s
  nearer : next.remaining < t.control.remaining
  accounts : Accounts s (if t.control = .launching then t.loops ++ [.checking] else t.loops) working
  fits : Fits s.actualVideoTrackSource s.frameLoopThread working next

theorem Advances.of_accounts {next : ControlStage} {s : CameraTrack φ δ}
    (hRun : t.control.statement.run t.track = .ok next s) (hNearer : next.remaining < t.control.remaining)
    (hStays : t.control ≠ .launching) (hAccounts : Accounts s t.loops working)
    (hFits : Fits s.actualVideoTrackSource s.frameLoopThread working next) : Advances t next s working :=
  ⟨hRun, hNearer, by rwa [if_neg hStays], hFits⟩

/-- No frame loop works. -/
theorem Accounts.of_none {s s' : CameraTrack φ δ} {loops : List (LoopStage φ)} (h : Accounts s loops working)
    (hNone : working = none) (hAlive : s'.alive = s.alive) (hStarted : s'.started = s.started)
    (hRecordable : s'.recordable = s.recordable) : Accounts s' loops working :=
  h.of_track hAlive hStarted hRecordable fun hWorking => by simp [hNone] at hWorking

/-- The frame loop has been told to end. -/
theorem Accounts.stopped {s s' : CameraTrack φ δ} {loops : List (LoopStage φ)} (h : Accounts s loops working)
    (hAlive : s'.alive = s.alive) (hStarted : s'.started = s.started) (hRecordable : s'.recordable = s.recordable)
    (hFlag : s'.getStopFlag = true) : Accounts s' loops working :=
  h.of_track hAlive hStarted hRecordable fun _ hCleared => by simp [hFlag] at hCleared

/-- The launched frame loop works. -/
theorem Accounts.launched {s s' : CameraTrack φ δ} {loops : List (LoopStage φ)} (h : Accounts s loops none)
    (hAlive : s'.alive = s.alive ++ [s.started]) (hStarted : s'.started = s.started + 1)
    (hRecordable : s'.recordable = s.recordable) : Accounts s' (loops ++ [.checking]) (some s.started) where
  alive := by rw [hAlive, h.alive]; rfl
  started := by simp [hStarted, h.started]
  notRecordable := by rw [hRecordable, h.notRecordable]
  works n hWorking := by
    obtain rfl : s.started = n := Option.some.inj hWorking
    exact ⟨.checking, by simp [h.started], fun _ => by simp⟩
  ended n stage hStage hOther := by
    have hNot : s.started ≠ n := fun hSame => hOther (congrArg some hSame)
    rw [List.getElem?_append] at hStage
    split_ifs at hStage with hLess
    · exact h.ended n stage hStage (by simp)
    · rw [h.started] at hNot
      have hLater : n - loops.length ≠ 0 := by omega
      simp [hLater] at hStage

/-- The frame loop that has exited is joined. -/
theorem Accounts.joined {s s' : CameraTrack φ δ} {loops : List (LoopStage φ)} {n : Nat}
    (h : Accounts s loops (some n)) (hExited : loops[n]?.any LoopStage.hasExited = true)
    (hAlive : s'.alive = s.alive.erase n) (hStarted : s'.started = s.started)
    (hRecordable : s'.recordable = s.recordable) : Accounts s' loops none where
  alive := by simp [hAlive, h.alive]
  started := hStarted.trans h.started
  notRecordable := by rw [hRecordable, h.notRecordable]
  works n hWorking := by cases hWorking
  ended m stage hStage _ := by
    by_cases hSame : n = m
    · subst hSame
      rw [hStage] at hExited
      cases stage <;> first | rfl | cases hExited
    · exact h.ended m stage hStage fun hWorking => hSame (Option.some.inj hWorking)

/-- A track that does not run rests at the end of `Stop`, and is dropped at the end of `Close`. -/
theorem fits_stopped {source : Option ActualVideoTrackSource} {thread : Option ThreadObject}
    (hOff : Off thread working) (hRunning : source.any (fun held => held.isRunning) = false) (closes : Bool) :
    Fits source thread working (.stopped closes) := by
  cases closes with
  | false => exact .inl ⟨hOff, hRunning⟩
  | true => exact ⟨hOff, hRunning⟩

theorem advances_creating (h : Placed t working) {opens : Bool} (hStage : t.control = .creating opens) :
    ∃ s, Advances t (.starting opens) s working := by
  have hFits := h.fits
  rw [hStage] at hFits
  have hFlag : (CameraTrack.sourced t.track).getStopFlag = t.track.getStopFlag :=
    CameraTrack.getStopFlag_sourced t.track
  refine ⟨CameraTrack.sourced t.track, .of_accounts (by rw [hStage, creating_run])
    (by simp [hStage, ControlStage.remaining]) (by simp [hStage])
    (h.accounts.of_track rfl rfl rfl fun _ hCleared => hFlag ▸ hCleared) ⟨?_, rfl⟩⟩
  obtain ⟨hOff, hNot⟩ | ⟨n, hOn, hSource⟩ := hFits
  · exact .inl ⟨hOff, (CameraTrack.isRunning_sourced t.track).trans hNot⟩
  · exact .inr ⟨n, hOn, by simp [CameraTrack.sourced, hSource]⟩

theorem advances_starting (h : Placed t working) {opens : Bool} (hStage : t.control = .starting opens) :
    ∃ s, Advances t (if t.track.isRunning then .idle else .opening opens) s working := by
  have hFits := h.fits
  rw [hStage] at hFits
  obtain ⟨hRests, hSome⟩ := hFits
  refine ⟨t.track, .of_accounts (by rw [hStage, starting_run]) ?_ (by simp [hStage]) h.accounts ?_⟩
  · cases t.track.isRunning <;> simp [hStage, ControlStage.remaining]
  · cases hRunning : t.track.isRunning with
    | true => exact hRests
    | false =>
        obtain ⟨⟨isRunning, stopFlag⟩, hSource⟩ := Option.isSome_iff_exists.mp hSome
        obtain rfl : isRunning = false := by simpa [CameraTrack.isRunning, hSource] using hRunning
        obtain ⟨hOff, -⟩ | ⟨n, -, hOn⟩ := hRests
        · exact ⟨hOff, stopFlag, hSource⟩
        · rw [hSource] at hOn
          cases hOn

theorem advances_opening (h : Placed t working) {opens : Bool} (hStage : t.control = .opening opens) :
    ∃ s, Advances t (if opens then .settingRunning else .idle) s working := by
  have hFits := h.fits
  rw [hStage] at hFits
  obtain ⟨hOff, stopFlag, hSource⟩ := hFits
  refine ⟨t.track, .of_accounts (by rw [hStage, opening_run]) ?_ (by simp [hStage]) h.accounts ?_⟩
  · cases opens <;> simp [hStage, ControlStage.remaining]
  · cases opens with
    | true => exact ⟨hOff, stopFlag, hSource⟩
    | false => exact .inl ⟨hOff, by simp [hSource]⟩

theorem advances_settingRunning (h : Placed t working) (hStage : t.control = .settingRunning) :
    ∃ s, Advances t .clearingStopFlag s working := by
  have hFits := h.fits
  rw [hStage] at hFits
  obtain ⟨hOff, stopFlag, hSource⟩ := hFits
  refine ⟨CameraTrack.setRunning true t.track, .of_accounts (by rw [hStage]; rfl)
    (by simp [hStage, ControlStage.remaining]) (by simp [hStage]) (h.accounts.of_none hOff.2 rfl rfl rfl)
    ⟨hOff, stopFlag, ?_⟩⟩
  simp [CameraTrack.setRunning, hSource]

theorem advances_clearingStopFlag (h : Placed t working) (hStage : t.control = .clearingStopFlag) :
    ∃ s, Advances t .takingTime s working := by
  have hFits := h.fits
  rw [hStage] at hFits
  obtain ⟨hOff, stopFlag, hSource⟩ := hFits
  refine ⟨CameraTrack.setStopFlag false t.track, .of_accounts (by rw [hStage]; rfl)
    (by simp [hStage, ControlStage.remaining]) (by simp [hStage]) (h.accounts.of_none hOff.2 rfl rfl rfl)
    ⟨hOff, ?_⟩⟩
  simp [CameraTrack.setStopFlag, hSource]

theorem advances_takingTime (h : Placed t working) (hStage : t.control = .takingTime) :
    ∃ s, Advances t .launching s working := by
  have hFits := h.fits
  rw [hStage] at hFits
  exact ⟨t.track, .of_accounts (by rw [hStage]; rfl) (by simp [hStage, ControlStage.remaining]) (by simp [hStage])
    h.accounts hFits⟩

theorem advances_launching (h : Placed t working) (hStage : t.control = .launching) :
    ∃ s, Advances t (.assigning t.track.started) s (some t.track.started) := by
  obtain ⟨hAccounts, hFits⟩ := h
  rw [hStage] at hFits
  obtain ⟨⟨hThread, rfl⟩, hSource⟩ := hFits
  refine ⟨{ t.track with alive := t.track.alive ++ [t.track.started], started := t.track.started + 1 },
    by rw [hStage]; rfl, by simp [hStage, ControlStage.remaining], ?_, ⟨hThread, rfl⟩, hSource⟩
  rw [if_pos hStage]
  exact hAccounts.launched rfl rfl rfl

theorem advances_assigning (h : Placed t working) {thread : Nat} (hStage : t.control = .assigning thread) :
    ∃ s, Advances t .idle s working := by
  have hFits := h.fits
  rw [hStage] at hFits
  obtain ⟨⟨hThread, hWorking⟩, hSource⟩ := hFits
  exact ⟨{ t.track with frameLoopThread := some { thread := thread } },
    .of_accounts (by rw [hStage, assigning_run thread hThread]) (by simp [hStage, ControlStage.remaining])
      (by simp [hStage]) (h.accounts.of_track rfl rfl rfl fun _ => id) (.inr ⟨thread, ⟨rfl, hWorking⟩, hSource⟩)⟩

theorem remaining_stopped (closes : Bool) : (ControlStage.stopped closes).remaining ≤ 2 := by
  cases closes <;> decide

theorem advances_stopping (h : Placed t working) {closes : Bool} (hStage : t.control = .stopping closes) :
    ∃ s, Advances t (if t.track.isRunning then .settingStopFlag closes else .stopped closes) s working := by
  have hFits := h.fits
  rw [hStage] at hFits
  have hLess := remaining_stopped closes
  refine ⟨t.track, .of_accounts (by rw [hStage, stopping_run]) ?_ (by simp [hStage]) h.accounts ?_⟩
  · rw [hStage]
    split_ifs
    · simp [ControlStage.remaining]
    · exact Nat.lt_of_le_of_lt hLess (by simp [ControlStage.remaining])
  · obtain ⟨hOff, hNot⟩ | ⟨n, hOn, hSource⟩ := hFits
    · have hRunning : t.track.isRunning = false := hNot
      rw [hRunning]
      exact fits_stopped hOff hNot closes
    · have hRunning : t.track.isRunning = true := by simp [CameraTrack.isRunning, hSource]
      rw [hRunning]
      exact ⟨n, hOn, hSource⟩

theorem advances_settingStopFlag (h : Placed t working) {closes : Bool} (hStage : t.control = .settingStopFlag closes) :
    ∃ s, Advances t (.joining closes) s working := by
  have hFits := h.fits
  rw [hStage] at hFits
  obtain ⟨n, hOn, hSource⟩ := hFits
  refine ⟨CameraTrack.setStopFlag true t.track, .of_accounts (by rw [hStage]; rfl)
    (by simp [hStage, ControlStage.remaining]) (by simp [hStage]) (h.accounts.stopped rfl rfl rfl ?_) ⟨n, hOn, ?_⟩⟩
  · simp [CameraTrack.getStopFlag, CameraTrack.setStopFlag, hSource]
  · simp [CameraTrack.setStopFlag, hSource]

/-- `join` returns when the frame loop has exited, which the stop flag tells it to. -/
theorem advances_joining (h : Placed t working) (hGoes : t.waits = false) {closes : Bool}
    (hStage : t.control = .joining closes) : ∃ s, Advances t (.releasing closes) s none := by
  obtain ⟨hAccounts, hFits⟩ := h
  rw [hStage] at hFits
  obtain ⟨n, ⟨hThread, rfl⟩, hSource⟩ := hFits
  have hExited : t.loops[n]?.any LoopStage.hasExited = true := by simpa [waits, hStage, hThread] using hGoes
  have hFlag : t.track.getStopFlag = true := by simp [CameraTrack.getStopFlag, hSource]
  exact ⟨
    { t.track with alive := t.track.alive.erase n, frameLoopThread := some { thread := n, joinable := false } },
    .of_accounts (by rw [hStage, joining_run closes hThread hFlag]) (by simp [hStage, ControlStage.remaining])
      (by simp [hStage]) (hAccounts.joined hExited rfl rfl rfl) ⟨⟨_, rfl, rfl⟩, rfl, hSource⟩⟩

theorem advances_releasing (h : Placed t working) {closes : Bool} (hStage : t.control = .releasing closes) :
    ∃ s, Advances t (.clearingRunning closes) s working := by
  have hFits := h.fits
  rw [hStage] at hFits
  obtain ⟨⟨object, hThread, hJoined⟩, hNone, hSource⟩ := hFits
  exact ⟨{ t.track with frameLoopThread := none },
    .of_accounts (by rw [hStage, releasing_run closes hThread hJoined]) (by simp [hStage, ControlStage.remaining])
      (by simp [hStage]) (h.accounts.of_none hNone rfl rfl rfl) ⟨⟨rfl, hNone⟩, hSource⟩⟩

theorem advances_clearingRunning (h : Placed t working) {closes : Bool} (hStage : t.control = .clearingRunning closes) :
    ∃ s, Advances t (.stopped closes) s working := by
  have hFits := h.fits
  rw [hStage] at hFits
  obtain ⟨hOff, hSource⟩ := hFits
  refine ⟨CameraTrack.setRunning false t.track, .of_accounts (by rw [hStage]; rfl) ?_ (by simp [hStage])
    (h.accounts.of_none hOff.2 rfl rfl rfl) (fits_stopped hOff ?_ closes)⟩
  · rw [hStage]
    exact Nat.lt_of_le_of_lt (remaining_stopped closes) (by simp [ControlStage.remaining])
  · simp [CameraTrack.setRunning, hSource]

theorem advances_stoppingRecording (h : Placed t working) (hStage : t.control = .stoppingRecording) :
    ∃ s, Advances t .dropping s working := by
  have hFits := h.fits
  rw [hStage] at hFits
  exact ⟨t.track, .of_accounts (by rw [hStage, stoppingRecording_run h.accounts.notRecordable])
    (by simp [hStage, ControlStage.remaining]) (by simp [hStage]) h.accounts hFits⟩

theorem advances_dropping (h : Placed t working) (hStage : t.control = .dropping) :
    ∃ s, Advances t .idle s working := by
  have hFits := h.fits
  rw [hStage] at hFits
  obtain ⟨hOff, -⟩ := hFits
  exact ⟨{ t.track with actualVideoTrackSource := none }, .of_accounts (by rw [hStage]; rfl)
    (by simp [hStage, ControlStage.remaining]) (by simp [hStage]) (h.accounts.of_none hOff.2 rfl rfl rfl)
    (.inl ⟨hOff, rfl⟩)⟩

/-- The next statement of a call that does not wait. -/
theorem advances (h : Placed t working) (hBusy : t.control ≠ .idle) (hGoes : t.waits = false) :
    ∃ next s working', Advances t next s working' := by
  have hPack {next : ControlStage} {working' : Option Nat} (hNext : ∃ s, Advances t next s working') :
      ∃ next s working', Advances t next s working' := ⟨next, hNext.choose, working', hNext.choose_spec⟩
  cases hStage : t.control with
  | idle => exact absurd hStage hBusy
  | creating opens => exact hPack (advances_creating h hStage)
  | starting opens => exact hPack (advances_starting h hStage)
  | opening opens => exact hPack (advances_opening h hStage)
  | settingRunning => exact hPack (advances_settingRunning h hStage)
  | clearingStopFlag => exact hPack (advances_clearingStopFlag h hStage)
  | takingTime => exact hPack (advances_takingTime h hStage)
  | launching => exact hPack (advances_launching h hStage)
  | assigning thread => exact hPack (advances_assigning h hStage)
  | stopping closes => exact hPack (advances_stopping h hStage)
  | settingStopFlag closes => exact hPack (advances_settingStopFlag h hStage)
  | joining closes => exact hPack (advances_joining h hGoes hStage)
  | releasing closes => exact hPack (advances_releasing h hStage)
  | clearingRunning closes => exact hPack (advances_clearingRunning h hStage)
  | stoppingRecording => exact hPack (advances_stoppingRecording h hStage)
  | dropping => exact hPack (advances_dropping h hStage)

theorem controlStep_eq {next : ControlStage} {s : CameraTrack φ δ} {working' : Option Nat} (hGoes : t.waits = false)
    (hNext : Advances t next s working') :
    controlStep t =
      { t with
        track := s
        control := next
        loops := if t.control = .launching then t.loops ++ [.checking] else t.loops } := by
  rw [controlStep, hGoes, hNext.runs]
  rfl

/-! ## The frame loops -/

/-- A frame loop that works has a source. -/
theorem Fits.source {source : Option ActualVideoTrackSource} {thread : Option ThreadObject} {stage : ControlStage}
    (h : Fits source thread working stage) (hWorks : working.isSome = true) : source.isSome = true := by
  have hOff (hNot : Off thread working) : source.isSome = true := by simp [hNot.2] at hWorks
  have hRests (hRests : Rests source thread working) : source.isSome = true := by
    obtain ⟨hNot, -⟩ | ⟨n, -, rfl⟩ := hRests
    · exact hOff hNot
    · rfl
  cases stage with
  | idle => exact hRests h
  | creating opens => exact hRests h
  | starting opens => exact h.2
  | opening opens => exact hOff h.1
  | settingRunning => exact hOff h.1
  | clearingStopFlag => exact hOff h.1
  | takingTime => exact hOff h.1
  | launching => exact hOff h.1
  | assigning thread => exact h.2 ▸ rfl
  | stopping closes => exact hRests h
  | settingStopFlag closes =>
      obtain ⟨n, -, rfl⟩ := h
      rfl
  | joining closes =>
      obtain ⟨n, -, rfl⟩ := h
      rfl
  | releasing closes => exact h.2.2 ▸ rfl
  | clearingRunning closes => exact hOff h.1
  | stoppingRecording => exact hOff h.1
  | dropping => exact hOff h.1

/-- With a source, a frame loop goes through no null pointer, and it ends only when it is told to. -/
theorem next_of_source {s : CameraTrack φ δ} (hSource : s.actualVideoTrackSource.isSome = true) (answer : Option φ)
    (stage : LoopStage φ) : ∃ stage', stage.next s answer = some stage' ∧
      (stage' = .exited → stage = .exited ∨ s.getStopFlag = true) := by
  obtain ⟨source, hSome⟩ := Option.isSome_iff_exists.mp hSource
  cases stage with
  | checking =>
      refine ⟨_, rfl, fun hExited => .inr ?_⟩
      split_ifs at hExited with hFlag
      exact hFlag
  | reading => cases answer <;> exact ⟨_, rfl, fun hExited => by cases hExited⟩
  | sending frame =>
      refine ⟨_, rfl, fun hExited => ?_⟩
      split_ifs at hExited
  | testing frame =>
      refine ⟨if source.isRunning then .gating frame else .sleeping, by rw [LoopStage.next, hSome]; rfl,
        fun hExited => ?_⟩
      split_ifs at hExited
  | gating frame =>
      refine ⟨if source.stopFlag then .sleeping else .delivering frame, by rw [LoopStage.next, hSome]; rfl,
        fun hExited => ?_⟩
      split_ifs at hExited
  | delivering frame => exact ⟨.sleeping, by rw [LoopStage.next, hSome]; rfl, fun hExited => by cases hExited⟩
  | sleeping => exact ⟨_, rfl, fun hExited => by cases hExited⟩
  | exited => exact ⟨_, rfl, fun _ => .inl rfl⟩

/-- The frame loop that works goes on. -/
theorem Accounts.set {s : CameraTrack φ δ} {loops : List (LoopStage φ)} {n : Nat} {stage stage' : LoopStage φ}
    (h : Accounts s loops (some n)) (hStage : loops[n]? = some stage)
    (hExits : stage' = .exited → stage = .exited ∨ s.getStopFlag = true) :
    Accounts s (loops.set n stage') (some n) where
  alive := h.alive
  started := by simp [h.started]
  notRecordable := h.notRecordable
  works m hWorking := by
    obtain rfl : n = m := Option.some.inj hWorking
    obtain ⟨_, hSame, hGoesOn⟩ := h.works n rfl
    obtain rfl := Option.some.inj (hStage.symm.trans hSame)
    refine ⟨stage', List.getElem?_set_self (List.getElem?_eq_some_iff.mp hStage).1, fun hCleared hExited => ?_⟩
    rcases hExits hExited with hBefore | hFlag
    · exact hGoesOn hCleared hBefore
    · rw [hCleared] at hFlag
      cases hFlag
  ended m other hOther hNot := by
    have hDifferent : n ≠ m := fun hSame => hNot (congrArg some hSame)
    exact h.ended m other (by rwa [List.getElem?_set_ne hDifferent] at hOther) hNot

/-- What a statement of a frame loop does. -/
theorem loopStep_cases (h : Placed t working) (thread : Nat) (answer : Option φ) :
    (loopStep t thread answer = t ∧ ∀ stage, t.loops[thread]? = some stage → stage = .exited) ∨
      ∃ stage stage', working = some thread ∧ t.loops[thread]? = some stage ∧
        stage.next t.track answer = some stage' ∧ (stage' = .exited → stage = .exited ∨ t.track.getStopFlag = true) ∧
        loopStep t thread answer = { t with loops := t.loops.set thread stage' } := by
  cases hStage : t.loops[thread]? with
  | none => exact .inl ⟨by rw [loopStep, hStage], fun _ hSome => by cases hSome⟩
  | some stage =>
      by_cases hWorks : working = some thread
      · obtain ⟨stage', hNext, hExits⟩ := next_of_source (h.fits.source (by rw [hWorks]; rfl)) answer stage
        exact .inr ⟨stage, stage', hWorks, rfl, hNext, hExits, by simp only [loopStep, hStage, hNext]⟩
      · obtain rfl : stage = .exited := h.accounts.ended thread stage hStage hWorks
        obtain ⟨hLess, hExited⟩ := List.getElem?_eq_some_iff.mp hStage
        have hSet : t.loops.set thread .exited = t.loops := by
          rw [← hExited]
          exact List.set_getElem_self hLess
        exact .inl ⟨by simp only [loopStep, hStage, LoopStage.next, hSet], fun _ hSome => (Option.some.inj hSome).symm⟩

theorem placed_loopStep (h : Placed t working) (thread : Nat) (answer : Option φ) :
    Placed (loopStep t thread answer) working := by
  rcases loopStep_cases h thread answer with ⟨hSame, -⟩ | ⟨stage, stage', rfl, hStage, -, hExits, hStep⟩
  · rw [hSame]
    exact h
  · rw [hStep]
    exact ⟨h.accounts.set hStage hExits, h.fits⟩

/-! ## Whole calls -/

/-- The statements of `Start` do what the routine does. -/
theorem leaves_starting {s : CameraTrack φ δ} (hThread : s.isRunning = false → s.frameLoopThread = none)
    (opens : Bool) (passed : List (CameraTrack φ δ)) :
    (ControlStage.starting opens).Leaves s
      (finalState ((CameraTrack.start opens : CameraRoutine φ δ PUnit).run ⟨s, passed⟩)).current := by
  have hStart := starting_run opens s
  cases hRunning : s.isRunning with
  | true =>
      rw [hRunning] at hStart
      rw [CameraTrack.start_run_idle (.inl hRunning)]
      exact .goOn (by simp) hStart .done
  | false =>
      rw [hRunning] at hStart
      cases opens with
      | false =>
          rw [CameraTrack.start_run_idle (.inr rfl)]
          exact .goOn (by simp) hStart (.goOn (by simp) (opening_run false s) .done)
      | true =>
          have hHeld : (CameraTrack.launched s).frameLoopThread = none := hThread hRunning
          rw [CameraTrack.start_run_opens hRunning, hThread hRunning]
          refine .goOn (by simp) hStart (.goOn (by simp) (opening_run true s) ?_)
          -- The two flags, the time and the launch.
          refine .goOn (by simp) rfl (.goOn (by simp) rfl (.goOn (by simp) rfl (.goOn (by simp) rfl ?_)))
          exact .goOn (by simp) (assigning_run s.started hHeld) .done

/-- The statements of `Stop` do what the routine does, and go on from there. -/
theorem leaves_stopping {s s' last : CameraTrack φ δ} {passed : List (CameraTrack φ δ)}
    (hHeld : s.isRunning = true → ∃ n, s.frameLoopThread = some { thread := n })
    (hStop : (CameraTrack.stop : CameraRoutine φ δ PUnit).run ⟨s, []⟩ = .ok () ⟨s', passed⟩) {closes : Bool}
    (hRest : (ControlStage.stopped closes).Leaves s' last) : (ControlStage.stopping closes).Leaves s last := by
  have hFirst := stopping_run closes s
  cases hRunning : s.isRunning with
  | false =>
      rw [hRunning] at hFirst
      rw [CameraTrack.stop_run_idle hRunning] at hStop
      obtain rfl : s = s' := congrArg Traced.current (EStateM.Result.ok.inj hStop).2
      exact .goOn (by simp) hFirst hRest
  | true =>
      rw [hRunning] at hFirst
      obtain ⟨n, hThread⟩ := hHeld hRunning
      rw [CameraTrack.stop_run_running hRunning hThread rfl] at hStop
      obtain rfl : CameraTrack.setRunning false (CameraTrack.released { thread := n } s) = s' :=
        congrArg Traced.current (EStateM.Result.ok.inj hStop).2
      have hSame : (CameraTrack.setStopFlag true s).frameLoopThread = some { thread := n } := hThread
      refine .goOn (by simp) hFirst (.goOn (by simp) rfl ?_)
      refine .goOn (by simp) (joining_run closes hSame (CameraTrack.getStopFlag_of_isRunning hRunning)) ?_
      exact .goOn (by simp) (releasing_run closes rfl rfl) (.goOn (by simp) rfl hRest)

/-- From a track at rest, the statements of a call do what the call does as a whole. -/
theorem leaves_call {s : CameraTrack φ δ} (hRests : Rests s.actualVideoTrackSource s.frameLoopThread working)
    (hRecordable : s.recordable.recordable = false) (call : CameraCall) :
    call.stage.Leaves s (cameraStep s call) := by
  have hHeld : s.isRunning = true → ∃ n, s.frameLoopThread = some { thread := n } := by
    intro hRunning
    obtain ⟨-, hNot⟩ | ⟨n, ⟨hThread, -⟩, -⟩ := hRests
    · rw [CameraTrack.isRunning, hNot] at hRunning
      cases hRunning
    · exact ⟨n, hThread⟩
  have hNone : s.isRunning = false → s.frameLoopThread = none := by
    intro hRunning
    obtain ⟨⟨hThread, -⟩, -⟩ | ⟨n, -, hSource⟩ := hRests
    · exact hThread
    · simp [CameraTrack.isRunning, hSource] at hRunning
  obtain ⟨s', passed, hStop, hStopped⟩ : ∃ s' passed,
      (CameraTrack.stop : CameraRoutine φ δ PUnit).run ⟨s, []⟩ = .ok () ⟨s', passed⟩ ∧
        s'.recordable.recordable = false := by
    cases hRunning : s.isRunning with
    | false => exact ⟨s, [], CameraTrack.stop_run_idle hRunning, hRecordable⟩
    | true =>
        obtain ⟨n, hThread⟩ := hHeld hRunning
        exact ⟨_, _, CameraTrack.stop_run_running hRunning hThread rfl, hRecordable⟩
  cases call with
  | start opens => exact leaves_starting hNone opens []
  | stop =>
      rw [cameraStep, CameraCall.routine, hStop]
      exact leaves_stopping hHeld hStop .done
  | createVideoTrackSource opens =>
      obtain ⟨made, -, hRun⟩ := CameraTrack.createVideoTrackSource_run s [] opens
      rw [cameraStep, CameraCall.routine, hRun]
      refine .goOn (by simp [CameraCall.stage]) (creating_run opens s) (leaves_starting (fun hRunning => ?_) opens _)
      exact hNone (CameraTrack.isRunning_sourced s ▸ hRunning)
  | close =>
      rw [cameraStep, CameraCall.routine, CameraTrack.close_run hStop hStopped]
      have hRest : (ControlStage.stopped true).Leaves s' { s' with actualVideoTrackSource := none } :=
        .goOn (by decide) (stoppingRecording_run hStopped) (.goOn (by decide) rfl .done)
      exact leaves_stopping hHeld hStop hRest

/-! ## Every interleaving -/

/-- The threads are in step with the calls that have been begun. -/
structure InStep (t : CameraThreads φ δ) (calls : List CameraCall) : Prop where
  sound : t.crashed = false
  placed : ∃ working, Placed t working
  leaves : t.control.Leaves t.track (run cameraStep ({} : CameraTrack φ δ) calls)

theorem inStep_new : InStep ({} : CameraThreads φ δ) [] where
  sound := rfl
  placed := ⟨none, ⟨rfl, rfl, rfl, by simp, by simp⟩, .inl ⟨⟨rfl, rfl⟩, rfl⟩⟩
  leaves := .done

theorem InStep.rests {calls : List CameraCall} (h : InStep t calls) (hIdle : t.control = .idle) :
    t.track = run cameraStep ({} : CameraTrack φ δ) calls ∧ ∃ working, Accounts t.track t.loops working ∧
      Rests t.track.actualVideoTrackSource t.track.frameLoopThread working := by
  obtain ⟨working, hAccounts, hFits⟩ := h.placed
  have hLeaves := h.leaves
  rw [hIdle] at hFits hLeaves
  exact ⟨hLeaves.idle, working, hAccounts, hFits⟩

theorem inStep_call {calls : List CameraCall} (h : InStep t calls) (hIdle : t.control = .idle) {call : CameraCall}
    (hSourced : Sourced t (.call call : CameraEvent φ)) :
    InStep { t with control := call.stage } (calls ++ [call]) := by
  obtain ⟨hTrack, working, hAccounts, hRests⟩ := h.rests hIdle
  refine ⟨h.sound, ⟨working, hAccounts, ?_⟩, ?_⟩
  · cases call with
    | start opens => exact ⟨hRests, hSourced opens rfl hIdle⟩
    | stop => exact hRests
    | createVideoTrackSource opens => exact hRests
    | close => exact hRests
  · rw [run_append, run_cons, run_nil, ← hTrack]
    exact leaves_call hRests hAccounts.notRecordable call

theorem inStep_controlStep {calls : List CameraCall} (h : InStep t calls) : InStep (controlStep t) calls := by
  cases hWaits : t.waits with
  | true =>
      rw [controlStep, if_pos hWaits]
      exact h
  | false =>
      obtain ⟨working, hPlaced⟩ := h.placed
      by_cases hIdle : t.control = .idle
      · have hSame : controlStep t = t := by
          obtain ⟨track, control, loops, crashed⟩ := t
          obtain rfl : control = .idle := hIdle
          rfl
        rw [hSame]
        exact h
      · obtain ⟨next, s, working', hNext⟩ := advances hPlaced hIdle hWaits
        rw [controlStep_eq hWaits hNext]
        exact ⟨h.sound, ⟨working', hNext.accounts, hNext.fits⟩, h.leaves.rest hIdle hNext.runs⟩

theorem inStep_loopStep {calls : List CameraCall} (h : InStep t calls) (thread : Nat) (answer : Option φ) :
    InStep (loopStep t thread answer) calls := by
  obtain ⟨working, hPlaced⟩ := h.placed
  have hPlaced' := placed_loopStep hPlaced thread answer
  rcases loopStep_cases hPlaced thread answer with ⟨hSame, -⟩ | ⟨stage, stage', -, -, -, -, hStep⟩
  · rw [hSame]
    exact h
  · rw [hStep] at hPlaced' ⊢
    exact ⟨h.sound, ⟨working, hPlaced'⟩, h.leaves⟩

theorem inStep_step {calls : List CameraCall} (h : InStep t calls) {event : CameraEvent φ}
    (hSourced : Sourced t event) : InStep (step t event) (calls ++ accepted t event) := by
  rw [step_eq h.sound]
  cases event with
  | call call =>
      by_cases hIdle : t.control = .idle
      · have hAccepted : accepted t (.call call : CameraEvent φ) = [call] := if_pos ⟨h.sound, hIdle⟩
        have hBegun : threadStep t (.call call) = { t with control := call.stage } := if_pos hIdle
        rw [hAccepted, hBegun]
        exact inStep_call h hIdle hSourced
      · have hRefused : accepted t (.call call : CameraEvent φ) = [] := if_neg fun hBoth => hIdle hBoth.2
        have hSame : threadStep t (.call call) = t := if_neg hIdle
        rw [hRefused, hSame, List.append_nil]
        exact h
  | control =>
      rw [accepted, List.append_nil]
      exact inStep_controlStep h
  | loop thread answer =>
      rw [accepted, List.append_nil]
      exact inStep_loopStep h thread answer

/-- While a frame loop works, a call at most reads the source. -/
theorem Fits.touches {source : Option ActualVideoTrackSource} {thread : Option ThreadObject} {stage : ControlStage}
    (h : Fits source thread working stage) (hWorks : working.isSome = true) :
    ∀ mine ∈ stage.touches source, mine = ⟨.actualVideoTrackSource, false⟩ := by
  have hSource := h.source hWorks
  have hOn {thread : Option ThreadObject} (hOff : Off thread working) : False := by simp [hOff.2] at hWorks
  cases stage with
  | creating opens =>
      have hSome : source.isNone = false := by simpa using hSource
      simp [ControlStage.touches, hSome]
  | opening opens => exact (hOn h.1).elim
  | takingTime => exact (hOn h.1).elim
  | dropping => exact (hOn h.1).elim
  | _ => simp [ControlStage.touches]

/-- A frame loop does not write the source. -/
theorem LoopStage.reads_source (stage : LoopStage φ) :
    ∀ theirs ∈ stage.touches, theirs.member = .actualVideoTrackSource → theirs.writes = false := by
  cases stage <;> simp [LoopStage.touches]

/-- The frame loop that works is the one that is accounted for. -/
theorem Accounts.of_works {loops : List (LoopStage φ)} {s : CameraTrack φ δ} (h : Accounts s loops working) {n : Nat}
    {stage : LoopStage φ} (hStage : loops[n]? = some stage) (hWorks : stage ≠ .exited) : working = some n :=
  Decidable.byContradiction fun hNot => hWorks (h.ended n stage hStage hNot)

theorem Placed.not_races (h : Placed t working) : ¬ t.Races := by
  rintro ⟨mine, hMine, stage, hStage, theirs, hTheirs, hMember, hWrites⟩
  obtain ⟨n, hAt⟩ := List.getElem?_of_mem hStage
  have hWorks : working = some n := by
    refine h.accounts.of_works hAt fun hExited => ?_
    rw [hExited] at hTheirs
    cases hTheirs
  obtain rfl := h.fits.touches (by rw [hWorks]; rfl) mine hMine
  have hReads := LoopStage.reads_source stage theirs hTheirs hMember.symm
  simp [hReads] at hWrites

/-- **The frame loop keeps in step with the calls.**  In every interleaving of their statements in which `Start` is not
called by itself before there is a source: nothing goes through a null pointer, and no joinable thread is destroyed; the
two threads never race; at most one frame loop works; and between two calls the track is as after these calls as wholes,
with a frame loop at work exactly if it runs. -/
theorem calls_in_step {events : List (CameraEvent φ)}
    (hSourced : EachStep step Sourced ({} : CameraThreads φ δ) events) :
    let t := run step ({} : CameraThreads φ δ) events
    t.crashed = false ∧ ¬ t.Races ∧ (∀ n m, t.Works n → t.Works m → n = m) ∧
      (t.control = .idle →
        t.track = run cameraStep ({} : CameraTrack φ δ) (outputs step accepted ({} : CameraThreads φ δ) events) ∧
          (t.track.isRunning = true ↔ ∃ n, t.Works n)) := by
  intro t
  have h : InStep t ([] ++ outputs step accepted ({} : CameraThreads φ δ) events) :=
    outputs_invariant (I := InStep) (fun _ _ _ h hSourced => inStep_step h hSourced) hSourced inStep_new
  obtain ⟨working, hPlaced⟩ := h.placed
  refine ⟨h.sound, hPlaced.not_races, ?_, fun hIdle => ?_⟩
  · rintro n m ⟨stage, hStage, hWorks⟩ ⟨stage', hStage', hWorks'⟩
    have hFirst := hPlaced.accounts.of_works hStage hWorks
    exact Option.some.inj (hFirst.symm.trans (hPlaced.accounts.of_works hStage' hWorks'))
  · obtain ⟨hTrack, working, hAccounts, hRests⟩ := h.rests hIdle
    refine ⟨hTrack, ?_⟩
    obtain ⟨⟨-, hNone⟩, hNot⟩ | ⟨n, ⟨-, hWorking⟩, hSource⟩ := hRests
    · have hRunning : t.track.isRunning = false := hNot
      refine iff_of_false (by simp [hRunning]) ?_
      rintro ⟨n, stage, hStage, hWorks⟩
      rw [hAccounts.of_works hStage hWorks] at hNone
      cases hNone
    · obtain ⟨stage, hStage, hGoesOn⟩ := hAccounts.works n hWorking
      refine iff_of_true (by simp [CameraTrack.isRunning, hSource]) ⟨n, stage, hStage, hGoesOn ?_⟩
      simp [CameraTrack.getStopFlag, hSource]

instance decidableSourced [DecidableEq φ] (t : CameraThreads φ δ) (event : CameraEvent φ) :
    Decidable (Sourced t event) :=
  inferInstanceAs (Decidable (∀ opens, event = .call (.start opens) → t.control = .idle →
    t.track.actualVideoTrackSource.isSome = true))

/-- A camera that is started, and closed while its frame loop has a frame at hand. -/
def closedInTheMiddle : List (CameraEvent Nat) :=
  .call (.createVideoTrackSource true) :: List.replicate 8 .control ++
    [.loop 0 none, .loop 0 (some 7), .call .close, .control, .control, .loop 0 none, .loop 0 none, .control,
      .loop 0 none, .loop 0 none, .loop 0 none] ++ List.replicate 5 .control

theorem calls_in_step_closed :
    let t := run step ({} : CameraThreads Nat Rat) closedInTheMiddle
    t.crashed = false ∧ ¬ t.Races ∧ (∀ n m, t.Works n → t.Works m → n = m) ∧
      (t.control = .idle →
        t.track = run cameraStep ({} : CameraTrack Nat Rat)
            (outputs step accepted ({} : CameraThreads Nat Rat) closedInTheMiddle) ∧
          (t.track.isRunning = true ↔ ∃ n, t.Works n)) :=
  calls_in_step (by decide)

end CameraThreads

end MosaicCore
