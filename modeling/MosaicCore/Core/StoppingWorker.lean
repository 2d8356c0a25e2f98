import MosaicCore.Core.StateThreads

/-!
# The end of a state manager's worker

The destructor sets `stop_flag_`, notifies the worker and joins it.  The notification is made without the mutex, so it
may come between the worker's test of the flag and its wait, and be lost; then the time limit of `wait_for` ends the
wait.  In every case the join returns after a bounded number of steps, unless a throwing send has ended the process,
and until then the state is sent at most once more (`destructor_returns`).
-/

namespace MosaicCore

open EffectProgram EventRun

/-- How many steps the worker has still to take once it is to stop. -/
def WorkerStage.remaining : WorkerStage → Nat
  | .blocking => 7
  | .waiting => 6
  | .locking => 5
  | .relocking _ => 5
  | .testing => 4
  | .woken => 3
  | .sending => 3
  | .unlocking => 2
  | .loop => 1
  | .exited => 0
  | .terminated => 0

/-- And how many the destructor. -/
def DestructorStage.remaining : DestructorStage → Nat
  | .idle => 3
  | .notifying => 2
  | .joining => 1
  | .returned => 0

namespace StateThreads

variable {σ : Type} {sc : ISignalingClient σ} {w : World σ} {t : StateThreads σ}

/-- The steps that are left of a destruction. -/
def remaining (t : StateThreads σ) : Nat := t.worker.remaining + t.destructor.remaining

/-- The destructor has begun. -/
structure Stopping (t : StateThreads σ) : Prop where
  consistent : t.Consistent
  begun : t.destructor ≠ .idle

theorem Stopping.stopFlag (h : t.Stopping) : t.stopFlag = true :=
  h.consistent.stopped.mpr h.begun

/-- No call is in progress. -/
theorem Stopping.setterStep_eq (h : t.Stopping) (call : Nat) : setterStep sc t call = t := by
  cases hCall : t.setters[call]? with
  | none => simp only [setterStep, hCall]
  | some setter =>
      have hReturned := h.consistent.returned h.begun setter (List.mem_of_getElem? hCall)
      simp only [setterStep, hCall, hReturned]

/-- A worker that waits for the mutex finds it free. -/
theorem Stopping.mutex_free (h : t.Stopping) (hHolds : t.worker.holds = false) : t.mutex = none := by
  cases hMutex : t.mutex with
  | none => rfl
  | some holder =>
      cases holder with
      | worker =>
          rw [h.consistent.worker.mp hMutex] at hHolds
          cases hHolds
      | setter call =>
          have hLess := h.consistent.setter_lt call hMutex
          have hCall : t.setters[call]? = some t.setters[call] := List.getElem?_eq_getElem hLess
          have hReturned := h.consistent.returned h.begun _ (List.mem_of_getElem? hCall)
          have hHeld := (h.consistent.setter call _ hCall).mp hMutex
          rw [hReturned] at hHeld
          cases hHeld

variable (sc) in
/-- The worker's next step leads it on, and it does not send unless it was about to. -/
theorem workerStep_stopping (h : t.Stopping) :
    (workerStep sc t).destructor = t.destructor ∧
      (workerStep sc t = t ∧ (t.worker = .waiting ∨ t.worker = .exited ∨ t.worker = .terminated) ∨
        (workerStep sc t).worker.remaining < t.worker.remaining ∧ (workerStep sc t).worker ≠ .sending) := by
  have hStop := h.stopFlag
  cases hStage : t.worker with
  | loop => simp [workerStep, hStage, hStop, WorkerStage.remaining]
  | locking =>
      have hFree := h.mutex_free (by rw [hStage]; rfl)
      simp [workerStep, hStage, hFree, WorkerStage.remaining]
  | testing => simp [workerStep, hStage, hStop, WorkerStage.remaining]
  | blocking => simp [workerStep, hStage, WorkerStage.remaining]
  | waiting => simp [workerStep, hStage]
  | relocking timeout =>
      have hFree := h.mutex_free (by rw [hStage]; rfl)
      cases timeout <;> simp [workerStep, hStage, hFree, WorkerStage.remaining]
  | woken => simp [workerStep, hStage, hStop, WorkerStage.remaining]
  | sending =>
      cases hRun : (World.sendState sc).run t.world <;> simp [workerStep, hStage, hRun, WorkerStage.remaining]
  | unlocking => simp [workerStep, hStage, WorkerStage.remaining]
  | exited => simp [workerStep, hStage]
  | terminated => simp [workerStep, hStage]

/-- The destructor's next step leads it on; it may wake the worker, and waits for it at the end. -/
theorem destructorStep_stopping (h : t.Stopping) :
    destructorStep t = t ∧ (t.destructor = .returned ∨ t.destructor = .joining ∧ t.worker ≠ .exited) ∨
      remaining (destructorStep t) < remaining t ∧ (destructorStep t).destructor ≠ .idle ∧
        ((destructorStep t).worker = t.worker ∨ (destructorStep t).worker = .relocking false) := by
  cases hStage : t.destructor with
  | idle => exact absurd hStage h.begun
  | notifying =>
      by_cases hWaiting : t.worker = .waiting
      · simp [destructorStep, hStage, hWaiting, remaining, WorkerStage.remaining, DestructorStage.remaining]
      · simp [destructorStep, hStage, hWaiting, remaining, DestructorStage.remaining]
  | joining =>
      by_cases hExited : t.worker = .exited
      · simp [destructorStep, hStage, hExited, remaining, DestructorStage.remaining]
      · simp [destructorStep, hStage, hExited]
  | returned => simp [destructorStep, hStage]

/-- Once the destructor has begun, each step that does something brings it nearer to its end. -/
theorem stopping_step (h : t.Stopping) {event : ThreadEvent} (hMoves : step sc t event ≠ t) :
    (step sc t event).Stopping ∧ remaining (step sc t event) < remaining t := by
  have hConsistent : (step sc t event).Consistent := consistent_step h.consistent event
  by_cases hEnded : t.worker = .terminated
  · exact absurd (if_pos hEnded) hMoves
  have hStep : step sc t event = threadStep sc t event := if_neg hEnded
  rw [hStep] at hMoves hConsistent ⊢
  cases event with
  | setState newState => exact absurd (if_neg h.begun) hMoves
  | setter call => exact absurd (h.setterStep_eq call) hMoves
  | worker =>
      obtain ⟨hDestructor, ⟨hSame, -⟩ | ⟨hLess, -⟩⟩ := workerStep_stopping sc h
      · exact absurd hSame hMoves
      · refine ⟨⟨hConsistent, ?_⟩, ?_⟩
        · show (workerStep sc t).destructor ≠ .idle
          rw [hDestructor]
          exact h.begun
        · show (workerStep sc t).worker.remaining + (workerStep sc t).destructor.remaining < _
          rw [hDestructor]
          exact Nat.add_lt_add_right hLess _
  | wake timeout =>
      by_cases hWaiting : t.worker = .waiting
      · have hWake : threadStep sc t (.wake timeout) = { t with worker := .relocking timeout } := if_pos hWaiting
        rw [hWake] at hConsistent ⊢
        exact ⟨⟨hConsistent, h.begun⟩, by simp [remaining, WorkerStage.remaining, hWaiting]⟩
      · exact absurd (if_neg hWaiting) hMoves
  | destructor =>
      rcases destructorStep_stopping h with ⟨hSame, -⟩ | ⟨hLess, hBegun, -⟩
      · exact absurd hSame hMoves
      · exact ⟨⟨hConsistent, hBegun⟩, hLess⟩

theorem Stopping.step (h : t.Stopping) (event : ThreadEvent) : (StateThreads.step sc t event).Stopping := by
  by_cases hSame : StateThreads.step sc t event = t
  · rw [hSame]
    exact h
  · exact (stopping_step h hSame).1

variable (sc) in
/-- And some step does something, until the destructor has returned or the process has ended. -/
theorem stopping_progress (h : t.Stopping) (hBusy : t.destructor ≠ .returned) (hAlive : t.worker ≠ .terminated) :
    ∃ event, step sc t event ≠ t := by
  have hStep (event : ThreadEvent) : step sc t event = threadStep sc t event := if_neg hAlive
  rcases destructorStep_stopping h with ⟨-, hReturned | ⟨-, hNotExited⟩⟩ | ⟨hLess, -, -⟩
  · exact absurd hReturned hBusy
  · -- The destructor waits for the worker, and the worker can go on.
    obtain ⟨-, ⟨-, hWaiting | hExited | hEnded⟩ | ⟨hLess, -⟩⟩ := workerStep_stopping sc h
    · refine ⟨.wake true, fun hSame => ?_⟩
      have hWake : threadStep sc t (.wake true) = { t with worker := .relocking true } := if_pos hWaiting
      rw [hStep, hWake] at hSame
      have hWorker := congrArg StateThreads.worker hSame
      rw [hWaiting] at hWorker
      cases hWorker
    · exact absurd hExited hNotExited
    · exact absurd hEnded hAlive
    · refine ⟨.worker, fun hSame => ?_⟩
      have hWorker : workerStep sc t = t := (hStep .worker).symm.trans hSame
      rw [hWorker] at hLess
      exact Nat.lt_irrefl _ hLess
  · refine ⟨.destructor, fun hSame => ?_⟩
    have hDestructor : destructorStep t = t := (hStep .destructor).symm.trans hSame
    rw [hDestructor] at hLess
    exact Nat.lt_irrefl _ hLess

variable (sc) in
/-- Nothing takes effect but the broadcast that the worker was about to make, and it comes to no other. -/
theorem effect_stopping (h : t.Stopping) (event : ThreadEvent) :
    (effect t event = none ∧ ((step sc t event).worker = .sending → t.worker = .sending)) ∨
      (effect t event = some .stateBroadcast ∧ t.worker = .sending ∧ (step sc t event).worker ≠ .sending) := by
  by_cases hEnded : t.worker = .terminated
  · have hStep : step sc t event = t := if_pos hEnded
    rw [hStep]
    exact .inl ⟨if_pos hEnded, id⟩
  have hStep : step sc t event = threadStep sc t event := if_neg hEnded
  rw [hStep]
  cases event with
  | setState newState =>
      have hSame : threadStep sc t (.setState newState) = t := if_neg h.begun
      rw [hSame]
      exact .inl ⟨if_neg hEnded, id⟩
  | setter call =>
      have hSame : threadStep sc t (.setter call) = t := h.setterStep_eq call
      have hEffect : effect t (.setter call) = setterEffect t call := if_neg hEnded
      rw [hSame, hEffect]
      refine .inl ⟨?_, id⟩
      cases hCall : t.setters[call]? with
      | none => simp [setterEffect, hCall]
      | some setter =>
          obtain ⟨newState, stage⟩ := setter
          have hReturned := h.consistent.returned h.begun _ (List.mem_of_getElem? hCall)
          cases hReturned
          simp [setterEffect, hCall]
  | worker =>
      have hEffect : effect t .worker = if t.worker = .sending then some .stateBroadcast else none := if_neg hEnded
      have hWorker : threadStep sc t .worker = workerStep sc t := rfl
      rw [hEffect, hWorker]
      obtain ⟨-, ⟨hSame, hStays⟩ | ⟨-, hNotSending⟩⟩ := workerStep_stopping sc h
      · have hNot : t.worker ≠ .sending := by
          rcases hStays with hStage | hStage | hStage <;> simp [hStage]
        rw [hSame, if_neg hNot]
        exact .inl ⟨rfl, id⟩
      · by_cases hSending : t.worker = .sending
        · rw [if_pos hSending]
          exact .inr ⟨rfl, hSending, hNotSending⟩
        · rw [if_neg hSending]
          exact .inl ⟨rfl, fun hAfter => absurd hAfter hNotSending⟩
  | wake timeout =>
      refine .inl ⟨if_neg hEnded, fun hAfter => ?_⟩
      by_cases hWaiting : t.worker = .waiting
      · have hWake : threadStep sc t (.wake timeout) = { t with worker := .relocking timeout } := if_pos hWaiting
        rw [hWake] at hAfter
        cases hAfter
      · have hSame : threadStep sc t (.wake timeout) = t := if_neg hWaiting
        rwa [hSame] at hAfter
  | destructor =>
      refine .inl ⟨if_neg hEnded, fun hAfter => ?_⟩
      have hAfter' : (destructorStep t).worker = .sending := hAfter
      rcases destructorStep_stopping h with ⟨hSame, -⟩ | ⟨-, -, hWorker | hWoken⟩
      · rwa [hSame] at hAfter'
      · rwa [hWorker] at hAfter'
      · rw [hWoken] at hAfter'
        cases hAfter'

/-- The state is sent at most once more. -/
structure SendsOnce (r : StateThreads σ × List StateOp) : Prop where
  stopping : r.1.Stopping
  once : r.2 = [] ∨ (r.2 = [.stateBroadcast] ∧ r.1.worker ≠ .sending)

theorem sendsOnce_step {r : StateThreads σ × List StateOp} (h : SendsOnce r) (event : ThreadEvent) :
    SendsOnce (recorded sc r event) := by
  obtain ⟨t, operations⟩ := r
  refine ⟨h.stopping.step event, ?_⟩
  show operations ++ (effect t event).toList = [] ∨
    (operations ++ (effect t event).toList = [.stateBroadcast] ∧ (step sc t event).worker ≠ .sending)
  rcases effect_stopping sc h.stopping event with ⟨hNone, hStays⟩ | ⟨hSome, hSending, hAfter⟩
  · rw [hNone, Option.toList_none, List.append_nil]
    exact h.once.imp_right fun hOnce => ⟨hOnce.1, fun hAfter => hOnce.2 (hStays hAfter)⟩
  · rcases h.once with hEmpty | ⟨-, hNot⟩
    · rw [hSome]
      exact .inr ⟨by rw [show operations = [] from hEmpty]; rfl, hAfter⟩
    · exact absurd hSending hNot

/-- The destructor returns only after the worker has exited. -/
def Joined (t : StateThreads σ) : Prop :=
  t.destructor = .returned → t.worker = .exited

theorem Joined.of_eq (h : t.Joined) {t' : StateThreads σ} (hDestructor : t'.destructor = t.destructor)
    (hWorker : t.worker = .exited → t'.worker = .exited) : t'.Joined := by
  intro hReturned
  rw [hDestructor] at hReturned
  exact hWorker (h hReturned)

theorem joined_step (h : t.Joined) (event : ThreadEvent) : (step sc t event).Joined := by
  unfold step
  split_ifs
  · exact h
  cases event with
  | setState newState =>
      simp only [threadStep]
      split_ifs <;> exact h
  | setter call =>
      refine h.of_eq ?_ fun hExited => ?_
      · show (setterStep sc t call).destructor = t.destructor
        unfold setterStep
        split <;> first | rfl | (split <;> first | rfl | (split <;> rfl))
      · show (setterStep sc t call).worker = .exited
        rw [← hExited]
        unfold setterStep
        split <;> first | rfl | (split <;> first | rfl | (split <;> rfl))
  | worker =>
      refine h.of_eq ?_ fun hExited => ?_
      · show (workerStep sc t).destructor = t.destructor
        unfold workerStep
        split <;> first | rfl | (split <;> rfl)
      · show (workerStep sc t).worker = .exited
        simp only [workerStep, hExited]
  | wake timeout =>
      simp only [threadStep]
      split_ifs with hWaiting
      · exact h.of_eq rfl fun hExited => by rw [hWaiting] at hExited; cases hExited
      · exact h
  | destructor =>
      show (destructorStep t).Joined
      unfold destructorStep
      split
      · split_ifs
        · exact fun hReturned => by cases hReturned
        · exact h
      · exact fun hReturned => by cases hReturned
      · split_ifs with hExited
        · exact fun _ => hExited
        · exact h
      · exact h

theorem joined_run (h : t.Joined) (events : List ThreadEvent) : (run (step sc) t events).Joined :=
  run_invariant (I := Joined) (A := fun _ => True) (fun _ event _ h => joined_step h event) h fun _ _ => trivial

/-- The longest way is that of a worker that is about to wait. -/
theorem Stopping.remaining_le (h : t.Stopping) : remaining t ≤ 9 := by
  have hWorker : t.worker.remaining ≤ 7 := by
    cases t.worker <;> simp [WorkerStage.remaining]
  have hDestructor : t.destructor.remaining ≤ 2 := by
    have hBegun := h.begun
    cases hStage : t.destructor with
    | idle => exact absurd hStage hBegun
    | notifying => exact Nat.le_refl _
    | joining => simp [DestructorStage.remaining]
    | returned => simp [DestructorStage.remaining]
  have hRemaining : remaining t = t.worker.remaining + t.destructor.remaining := rfl
  omega

/-- The destructor has begun after some steps from the start. -/
theorem stopping_run {events : List ThreadEvent}
    (hBegun : (run (step sc) (fresh w) events).destructor ≠ .idle) : (run (step sc) (fresh w) events).Stopping :=
  ⟨run_invariant (I := Consistent) (A := fun _ => True) (fun _ event _ h => consistent_step h event)
    (consistent_fresh w) fun _ _ => trivial, hBegun⟩

/-- **The destructor returns.**  Once it has set `stop_flag_`, no more than nine steps that do something are left, in
whatever order the threads take them; when no step does anything any more, `join` has returned, unless a throwing send
has ended the process; on the way the state is sent at most once; and `join` returns only after the worker has
exited. -/
theorem destructor_returns (w : World σ) (events : List ThreadEvent)
    (hBegun : (run (step sc) (fresh w) events).destructor ≠ .idle) (more : List ThreadEvent) :
    let t := run (step sc) (fresh w) events
    let last := run (step sc) t more
    (EachStep (step sc) (fun t event => step sc t event ≠ t) t more → more.length ≤ 9) ∧
      ((∀ event, step sc last event = last) → last.destructor = .returned ∨ last.worker = .terminated) ∧
      ((run (recorded sc) (t, []) more).2 = [] ∨ (run (recorded sc) (t, []) more).2 = [.stateBroadcast]) ∧
      (last.destructor = .returned → last.worker = .exited) := by
  intro t last
  have hStopping : t.Stopping := stopping_run hBegun
  have hLast : last.Stopping :=
    run_invariant (I := Stopping) (A := fun _ => True) (fun _ event _ h => h.step event) hStopping fun _ _ => trivial
  refine ⟨fun hSteps => ?_, fun hStuck => ?_, ?_, ?_⟩
  · have hLength : more.length + remaining last ≤ remaining t :=
      EachStep.length_le (I := Stopping) (G := fun t event => step sc t event ≠ t)
        (fun _ _ h hMoves => stopping_step h hMoves) hStopping hSteps
    have hBound := hStopping.remaining_le
    omega
  · by_contra hNeither
    obtain ⟨hBusy, hAlive⟩ := not_or.mp hNeither
    obtain ⟨event, hMoves⟩ := stopping_progress sc hLast hBusy hAlive
    exact hMoves (hStuck event)
  · have hOnce : SendsOnce (run (recorded sc) (t, []) more) :=
      run_invariant (I := SendsOnce) (A := fun _ => True) (fun _ event _ h => sendsOnce_step h event)
        ⟨hStopping, .inl rfl⟩ fun _ _ => trivial
    exact hOnce.once.imp_right And.left
  · have hStart : (fresh w).Joined := fun hReturned => by cases hReturned
    exact joined_run (joined_run hStart events) more

/-- A worker stopped between the test and the wait: the notification is lost, and the time limit ends the wait. -/
theorem destructor_returns_lost_notification :
    let sc := ISignalingClient.offline
    let t := run (step sc) (fresh (World.wired () (fun _ => .kOpen) [])) [.worker, .worker, .worker, .destructor]
    let more := [.destructor, .worker, .wake true, .worker, .worker, .worker, .worker, .destructor]
    let last := run (step sc) t more
    (EachStep (step sc) (fun t event => step sc t event ≠ t) t more → more.length ≤ 9) ∧
      ((∀ event, step sc last event = last) → last.destructor = .returned ∨ last.worker = .terminated) ∧
      ((run (recorded sc) (t, []) more).2 = [] ∨ (run (recorded sc) (t, []) more).2 = [.stateBroadcast]) ∧
      (last.destructor = .returned → last.worker = .exited) :=
  destructor_returns _ _ (by decide) _

end StateThreads

end MosaicCore
