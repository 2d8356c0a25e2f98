import MosaicCore.Handlers.CameraFrames

/-!
# The end of a frame loop

`Stop` sets the stop flag and joins the frame loop, which may be anywhere in its loop by then.  In whatever order the
threads go on, `Stop` and `Close` return after a bounded number of steps, and until then at most one more frame is
delivered (`stop_returns`).  Here too `Start` is not called by itself before there is a source
(`CameraThreads.Sourced`).

Each step is taken to end: a camera whose `read` blocks for ever keeps `Stop` from returning.
-/

namespace MosaicCore

open EventRun

variable {φ δ : Type} [OfScientific δ]

/-- How many steps a frame loop has still to take once it has been told to stop. -/
def LoopStage.remaining : LoopStage φ → Nat
  | .reading => 7
  | .sending _ => 6
  | .testing _ => 5
  | .gating _ => 4
  | .delivering _ => 3
  | .sleeping => 2
  | .checking => 1
  | .exited => 0

/-- The frame loop is about to deliver a frame. -/
def LoopStage.delivers : LoopStage φ → Bool
  | .delivering _ => true
  | _ => false

/-- `Stop` has set the stop flag of a running track. -/
def ControlStage.halts : ControlStage → Bool
  | .joining _ => true
  | .releasing _ => true
  | .clearingRunning _ => true
  | .stoppingRecording => true
  | .dropping => true
  | _ => false

theorem ControlStage.halts_cases {stage : ControlStage} (h : stage.halts = true) :
    (∃ closes, stage = .joining closes) ∨ (∃ closes, stage = .releasing closes) ∨
      (∃ closes, stage = .clearingRunning closes) ∨ stage = .stoppingRecording ∨ stage = .dropping := by
  cases stage <;> simp [halts] at h ⊢

def CameraAct.frameDelivered : CameraAct φ → Option φ
  | .delivered _ frame => some frame
  | _ => none

namespace CameraThreads

/-- The stage of the frame loop that works. -/
def workingStage (working : Option Nat) (loops : List (LoopStage φ)) : Option (LoopStage φ) :=
  working.bind fun n => loops[n]?

/-- The steps that are left of the call and of the frame loop. -/
def remaining (t : CameraThreads φ δ) : Nat :=
  t.control.remaining + ((workingStage t.track.alive.head? t.loops).map LoopStage.remaining).getD 0

/-- How many frames may still be delivered. -/
def pending (t : CameraThreads φ δ) : Nat :=
  if (workingStage t.track.alive.head? t.loops).any LoopStage.delivers then 1 else 0

/-- `Stop` has set the stop flag, or it has returned. -/
structure Halting (t : CameraThreads φ δ) (working : Option Nat) : Prop where
  placed : Placed t working
  sound : t.crashed = false
  halts : t.control.halts = true ∨ t.control = .idle ∧ working = none

variable {t : CameraThreads φ δ} {working : Option Nat}

theorem Placed.remaining_eq (h : Placed t working) :
    remaining t = t.control.remaining + ((workingStage working t.loops).map LoopStage.remaining).getD 0 := by
  rw [remaining, h.head_alive]

theorem Placed.pending_eq (h : Placed t working) :
    pending t = if (workingStage working t.loops).any LoopStage.delivers then 1 else 0 := by
  rw [pending, h.head_alive]

/-- A frame loop that still works has the stop flag to see. -/
theorem Halting.source (h : Halting t working) (hWorks : working.isSome = true) :
    t.track.actualVideoTrackSource = some ⟨true, true⟩ := by
  have hFits := h.placed.fits
  obtain hHalts | ⟨-, hNone⟩ := h.halts
  · rcases ControlStage.halts_cases hHalts with ⟨closes, hStage⟩ | ⟨closes, hStage⟩ | ⟨closes, hStage⟩ | hStage | hStage
      <;> rw [hStage] at hFits
    · obtain ⟨_, -, hSource⟩ := hFits
      exact hSource
    · exact hFits.2.2
    · exact hFits.2
    · simp [hFits.1.2] at hWorks
    · simp [hFits.1.2] at hWorks
  · simp [hNone] at hWorks

/-- It goes on towards its end, and comes to deliver no other frame. -/
theorem next_halting {s : CameraTrack φ δ} (hSource : s.actualVideoTrackSource = some ⟨true, true⟩)
    {answer : Option φ} {stage stage' : LoopStage φ} (hNext : stage.next s answer = some stage') :
    stage'.delivers = false ∧ (stage = .exited ∧ stage' = .exited ∨ stage'.remaining < stage.remaining) := by
  cases stage with
  | checking =>
      obtain rfl : .exited = stage' := by simpa [LoopStage.next, CameraTrack.getStopFlag, hSource] using hNext
      exact ⟨rfl, .inr (by simp [LoopStage.remaining])⟩
  | reading =>
      cases answer with
      | none =>
          obtain rfl : .sleeping = stage' := Option.some.inj hNext
          exact ⟨rfl, .inr (by simp [LoopStage.remaining])⟩
      | some frame =>
          obtain rfl : .sending frame = stage' := Option.some.inj hNext
          exact ⟨rfl, .inr (by simp [LoopStage.remaining])⟩
  | sending frame =>
      obtain rfl : .testing frame = stage' := by simpa [LoopStage.next, hSource] using hNext
      exact ⟨rfl, .inr (by simp [LoopStage.remaining])⟩
  | testing frame =>
      obtain rfl : .gating frame = stage' := by simpa [LoopStage.next, hSource] using hNext
      exact ⟨rfl, .inr (by simp [LoopStage.remaining])⟩
  | gating frame =>
      obtain rfl : .sleeping = stage' := by simpa [LoopStage.next, hSource] using hNext
      exact ⟨rfl, .inr (by simp [LoopStage.remaining])⟩
  | delivering frame =>
      obtain rfl : .sleeping = stage' := by simpa [LoopStage.next, hSource] using hNext
      exact ⟨rfl, .inr (by simp [LoopStage.remaining])⟩
  | sleeping =>
      obtain rfl : .checking = stage' := Option.some.inj hNext
      exact ⟨rfl, .inr (by simp [LoopStage.remaining])⟩
  | exited =>
      obtain rfl : .exited = stage' := Option.some.inj hNext
      exact ⟨rfl, .inl ⟨rfl, rfl⟩⟩

/-- The next statement of the call leads it on. -/
theorem halting_advances (h : Halting t working) (hBusy : t.control ≠ .idle) (hGoes : t.waits = false) :
    ∃ next s working', Advances t next s working' ∧ t.control ≠ .launching ∧ (working' = none ∨ working' = working) ∧
      (next.halts = true ∨ next = .idle ∧ working' = none) := by
  have hFits := h.placed.fits
  have hHalts : t.control.halts = true := h.halts.resolve_right fun hReturned => hBusy hReturned.1
  rcases ControlStage.halts_cases hHalts with ⟨closes, hStage⟩ | ⟨closes, hStage⟩ | ⟨closes, hStage⟩ | hStage | hStage
    <;> rw [hStage] at hFits
  · obtain ⟨s, hNext⟩ := advances_joining h.placed hGoes hStage
    exact ⟨_, s, _, hNext, by simp [hStage], .inl rfl, .inl rfl⟩
  · obtain ⟨s, hNext⟩ := advances_releasing h.placed hStage
    exact ⟨_, s, _, hNext, by simp [hStage], .inr rfl, .inl rfl⟩
  · obtain ⟨s, hNext⟩ := advances_clearingRunning h.placed hStage
    refine ⟨_, s, _, hNext, by simp [hStage], .inr rfl, ?_⟩
    cases closes with
    | false => exact .inr ⟨rfl, hFits.1.2⟩
    | true => exact .inl rfl
  · obtain ⟨s, hNext⟩ := advances_stoppingRecording h.placed hStage
    exact ⟨_, s, _, hNext, by simp [hStage], .inr rfl, .inl rfl⟩
  · obtain ⟨s, hNext⟩ := advances_dropping h.placed hStage
    exact ⟨_, s, _, hNext, by simp [hStage], .inr rfl, .inr ⟨rfl, hFits.1.2⟩⟩

/-- A statement of the call that does not wait. -/
theorem halting_controlStep (h : Halting t working) (hBusy : t.control ≠ .idle) (hGoes : t.waits = false) :
    ∃ working', Halting (controlStep t) working' ∧ remaining (controlStep t) < remaining t ∧
      pending (controlStep t) ≤ pending t := by
  obtain ⟨next, s, working', hNext, hStays, hWorking, hHalts⟩ := halting_advances h hBusy hGoes
  have hStep : controlStep t = { t with track := s, control := next } := by
    rw [controlStep_eq hGoes hNext, if_neg hStays]
  have hAccounts : Accounts s t.loops working' := by
    have hAfter := hNext.accounts
    rwa [if_neg hStays] at hAfter
  have hPlaced : Placed { t with track := s, control := next } working' := ⟨hAccounts, hNext.fits⟩
  refine ⟨working', ?_⟩
  rw [hStep, hPlaced.remaining_eq, h.placed.remaining_eq, hPlaced.pending_eq, h.placed.pending_eq]
  refine ⟨⟨hPlaced, h.sound, hHalts⟩, ?_, ?_⟩
  · rcases hWorking with rfl | rfl
    · exact Nat.lt_of_lt_of_le hNext.nearer (Nat.le_add_right _ _)
    · exact Nat.add_lt_add_right hNext.nearer _
  · rcases hWorking with rfl | rfl
    · exact Nat.zero_le _
    · exact Nat.le_refl _

/-- A call delivers no frame itself. -/
theorem delivered_controlActs (t : CameraThreads φ δ) :
    (controlActs t).filterMap CameraAct.frameDelivered = [] := by
  unfold controlActs
  split
  · split_ifs <;> rfl
  · rfl
  · cases t.track.frameLoopThread <;> rfl
  · split_ifs
    · rfl
    · cases t.track.frameLoopThread.filter fun object => object.joinable <;> rfl
  · rfl

theorem delivered_acts (thread : Nat) (stage stage' : LoopStage φ) :
    ((stage.acts thread stage').filterMap CameraAct.frameDelivered).length = if stage.delivers then 1 else 0 := by
  cases stage <;> simp only [LoopStage.acts] <;> cases stage'.frame <;> rfl

/-- A statement of a frame loop that goes on. -/
theorem halting_loopStep (h : Halting t working) (thread : Nat) (answer : Option φ) :
    Halting (loopStep t thread answer) working ∧
      (loopStep t thread answer = t ∨ remaining (loopStep t thread answer) < remaining t) ∧
      ((loopActs t thread answer).filterMap CameraAct.frameDelivered).length + pending (loopStep t thread answer) ≤
        pending t := by
  have hPlaced := placed_loopStep h.placed thread answer
  rcases loopStep_cases h.placed thread answer with ⟨hSame, hExited⟩ | ⟨stage, stage', rfl, hStage, hNext, -, hStep⟩
  · rw [hSame, loopActs_of_exited hExited]
    exact ⟨h, .inl rfl, Nat.le_of_eq (Nat.zero_add _)⟩
  · have hAfter : (t.loops.set thread stage')[thread]? = some stage' :=
      List.getElem?_set_self (List.getElem?_eq_some_iff.mp hStage).1
    obtain ⟨hQuiet, hNearer⟩ := next_halting (h.source rfl) hNext
    refine ⟨?_, ?_, ?_⟩
    · rw [hStep] at hPlaced ⊢
      exact ⟨hPlaced, h.sound, h.halts⟩
    · rcases hNearer with ⟨rfl, rfl⟩ | hLess
      · refine .inl (hStep.trans ?_)
        obtain ⟨hBound, hAt⟩ := List.getElem?_eq_some_iff.mp hStage
        rw [← hAt, List.set_getElem_self hBound]
      · rw [hPlaced.remaining_eq, h.placed.remaining_eq, hStep]
        exact .inr (by simpa [workingStage, hStage, hAfter] using hLess)
    · rw [hPlaced.pending_eq, h.placed.pending_eq, loopActs_of_next hStage hNext, delivered_acts, hStep]
      simp [workingStage, hStage, hAfter, hQuiet]

/-- As long as the call has not returned, each step keeps what is known of its end. -/
theorem halting_step (h : Halting t working) (hBusy : t.control ≠ .idle) (event : CameraEvent φ) :
    ∃ working', Halting (step t event) working' ∧
      (step t event = t ∨ remaining (step t event) < remaining t) ∧
      ((acts t event).filterMap CameraAct.frameDelivered).length + pending (step t event) ≤ pending t := by
  rw [step_eq h.sound]
  cases event with
  | call call =>
      have hSame : threadStep t (.call call) = t := if_neg hBusy
      rw [hSame, acts_call]
      exact ⟨working, h, .inl rfl, Nat.le_of_eq (Nat.zero_add _)⟩
  | control =>
      have hControl : threadStep t (.control : CameraEvent φ) = controlStep t := rfl
      rw [acts_control h.sound, delivered_controlActs, hControl, List.length_nil, Nat.zero_add]
      cases hWaits : t.waits with
      | true =>
          have hSame : controlStep t = t := if_pos hWaits
          rw [hSame]
          exact ⟨working, h, .inl rfl, Nat.le_refl _⟩
      | false =>
          obtain ⟨working', hNext, hLess, hPending⟩ := halting_controlStep h hBusy hWaits
          exact ⟨working', hNext, .inr hLess, hPending⟩
  | loop thread answer =>
      rw [acts_loop h.sound]
      exact ⟨working, halting_loopStep h thread answer⟩

/-- Until the call has returned, one of the threads can go on. -/
theorem halting_progress (h : Halting t working) (hBusy : t.control ≠ .idle) : ∃ event, step t event ≠ t := by
  cases hWaits : t.waits with
  | false =>
      obtain ⟨_, -, hLess, -⟩ := halting_controlStep h hBusy hWaits
      refine ⟨.control, fun hSame => ?_⟩
      have hControl : controlStep t = t := (step_eq h.sound .control).symm.trans hSame
      rw [hControl] at hLess
      exact Nat.lt_irrefl _ hLess
  | true =>
      -- `join` waits for a frame loop that has not exited, and that can go on.
      unfold waits at hWaits
      split at hWaits
      next closes hStage =>
        have hFits := h.placed.fits
        rw [hStage] at hFits
        obtain ⟨n, ⟨hThread, rfl⟩, hSource⟩ := hFits
        obtain ⟨stage, hLoop, -⟩ := h.placed.accounts.works n rfl
        have hSome : t.track.actualVideoTrackSource.isSome = true := by
          rw [hSource]
          rfl
        obtain ⟨stage', hNext, -⟩ := next_of_source hSome (none : Option φ) stage
        have hNot : stage ≠ .exited := by
          rintro rfl
          simp [hThread, hLoop, LoopStage.hasExited] at hWaits
        obtain ⟨-, ⟨hExited, -⟩ | hLess⟩ := next_halting hSource hNext
        · exact absurd hExited hNot
        · refine ⟨.loop n none, fun hSame => ?_⟩
          have hLoopStep : loopStep t n none = t := (step_eq h.sound (.loop n none)).symm.trans hSame
          have hLoops := congrArg CameraThreads.loops hLoopStep
          simp only [loopStep, hLoop, hNext] at hLoops
          have hAt : (t.loops.set n stage')[n]? = some stage' :=
            List.getElem?_set_self (List.getElem?_eq_some_iff.mp hLoop).1
          rw [hLoops, hLoop] at hAt
          obtain rfl := Option.some.inj hAt
          exact Nat.lt_irrefl _ hLess
      next => cases hWaits

/-- At most twelve steps are left. -/
theorem remaining_le (h : Halting t working) (hHalts : t.control.halts = true) : remaining t ≤ 12 := by
  have hControl : t.control.remaining ≤ 5 := by
    rcases ControlStage.halts_cases hHalts with ⟨closes, hStage⟩ | ⟨closes, hStage⟩ | ⟨closes, hStage⟩ | hStage | hStage
      <;> simp [hStage, ControlStage.remaining]
  have hLoop : ((workingStage working t.loops).map LoopStage.remaining).getD 0 ≤ 7 := by
    cases workingStage working t.loops with
    | none => exact Nat.zero_le _
    | some stage => cases stage <;> simp [LoopStage.remaining]
  rw [h.placed.remaining_eq]
  omega

/-- **`Stop` and `Close` return.**  Where `Start` was not called by itself before there was a source: once the stop flag
of a running track is set, at most twelve steps that do something are left until the call returns, in whatever order
the threads take them; until then one of them can always go on; at most one more frame is delivered; and when the call
has returned the track does not run and no frame loop works. -/
theorem stop_returns {events : List (CameraEvent φ)}
    (hSourced : EachStep step Sourced ({} : CameraThreads φ δ) events)
    (hHalts : (run step ({} : CameraThreads φ δ) events).control.halts = true) {more : List (CameraEvent φ)}
    (hUntil : EachStep step (fun t _ => t.control ≠ .idle) (run step ({} : CameraThreads φ δ) events) more) :
    let t := run step ({} : CameraThreads φ δ) events
    let last := run step t more
    (EachStep step (fun t event => step t event ≠ t) t more → more.length ≤ 12) ∧
      (last.control ≠ .idle → ∃ event, step last event ≠ last) ∧
      ((outputs step acts t more).filterMap CameraAct.frameDelivered).length ≤ 1 ∧
      (last.control = .idle → last.track.isRunning = false ∧ ∀ n, ¬ last.Works n) := by
  intro t last
  have hInStep : InStep t ([] ++ outputs step accepted ({} : CameraThreads φ δ) events) :=
    outputs_invariant (I := InStep) (fun _ _ _ h hSourced => inStep_step h hSourced) hSourced inStep_new
  obtain ⟨working, hPlaced⟩ := hInStep.placed
  have hStart : Halting t working := ⟨hPlaced, hInStep.sound, .inl hHalts⟩
  have hKeep (s : CameraThreads φ δ) (event : CameraEvent φ) (hHalting : ∃ working, Halting s working)
      (hBusy : s.control ≠ .idle) : ∃ working, Halting (step s event) working := by
    obtain ⟨working, hHalting⟩ := hHalting
    obtain ⟨working', hNext, -⟩ := halting_step hHalting hBusy event
    exact ⟨working', hNext⟩
  obtain ⟨working', hLast⟩ : ∃ working', Halting last working' := hUntil.keeps hKeep ⟨working, hStart⟩
  refine ⟨fun hMoves => ?_, halting_progress hLast, ?_, fun hIdle => ?_⟩
  · have hNearer (s : CameraThreads φ δ) (event : CameraEvent φ) (hHalting : ∃ working, Halting s working)
        (hBoth : s.control ≠ .idle ∧ step s event ≠ s) :
        (∃ working, Halting (step s event) working) ∧ remaining (step s event) < remaining s := by
      refine ⟨hKeep s event hHalting hBoth.1, ?_⟩
      obtain ⟨working, hHalting⟩ := hHalting
      obtain ⟨_, -, hSame | hLess, -⟩ := halting_step hHalting hBoth.1 event
      · exact absurd hSame hBoth.2
      · exact hLess
    have hLength : more.length + remaining last ≤ remaining t :=
      EachStep.length_le hNearer ⟨working, hStart⟩ (hUntil.and hMoves)
    have hBound := remaining_le hStart hHalts
    omega
  · have hFew : (∃ working, Halting last working) ∧
        (([] ++ outputs step acts t more).filterMap CameraAct.frameDelivered).length + pending last ≤ 1 := by
      refine outputs_invariant (G := fun t _ => t.control ≠ .idle)
        (I := fun s log => (∃ working, Halting s working) ∧
          (log.filterMap CameraAct.frameDelivered).length + pending s ≤ 1) ?_ hUntil ⟨⟨working, hStart⟩, ?_⟩
      · rintro s log event ⟨hHalting, hLog⟩ hBusy
        refine ⟨hKeep s event hHalting hBusy, ?_⟩
        obtain ⟨working, hHalting⟩ := hHalting
        obtain ⟨_, -, -, hActs⟩ := halting_step hHalting hBusy event
        rw [List.filterMap_append, List.length_append]
        omega
      · rw [pending]
        split_ifs <;> simp
    rw [List.nil_append] at hFew
    omega
  · have hNone : working' = none := by
      obtain hNot | ⟨-, hNone⟩ := hLast.halts
      · rw [hIdle] at hNot
        cases hNot
      · exact hNone
    subst hNone
    have hFits := hLast.placed.fits
    rw [hIdle] at hFits
    refine ⟨?_, fun n hWorks => ?_⟩
    · obtain ⟨-, hNot⟩ | ⟨_, ⟨-, hSome⟩, -⟩ := hFits
      · exact hNot
      · cases hSome
    · obtain ⟨stage, hStage, hGoesOn⟩ := hWorks
      cases hLast.placed.accounts.of_works hStage hGoesOn

/-- A track that is closed while a frame is about to be delivered: the frame is delivered, and `Close` returns. -/
theorem stop_returns_delivering :
    let events : List (CameraEvent Nat) :=
      .call (.createVideoTrackSource true) :: List.replicate 8 .control ++
        [.loop 0 none, .loop 0 (some 7), .loop 0 none, .loop 0 none, .loop 0 none, .call .close, .control, .control]
    let more : List (CameraEvent Nat) := List.replicate 3 (.loop 0 none) ++ List.replicate 5 .control
    let t := run step ({} : CameraThreads Nat Rat) events
    let last := run step t more
    (EachStep step (fun t event => step t event ≠ t) t more → more.length ≤ 12) ∧
      (last.control ≠ .idle → ∃ event, step last event ≠ last) ∧
      ((outputs step acts t more).filterMap CameraAct.frameDelivered).length ≤ 1 ∧
      (last.control = .idle → last.track.isRunning = false ∧ ∀ n, ¬ last.Works n) :=
  stop_returns (by decide) (by decide) (by decide)

end CameraThreads

end MosaicCore
