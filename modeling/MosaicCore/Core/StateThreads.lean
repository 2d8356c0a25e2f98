import MosaicCore.Core.ConnectorRun

/-!
# The threads of a state manager

`SetState` is called from any thread, and `StateBroadcastWorker` is a thread of its own: it sends the state every
second until the destructor stops it.  Both work under `mutex_`.  Here each of them is the sequence of its steps, and
any interleaving can happen.

Under every interleaving the object graph is as after a sequence of whole `SetState` calls and whole broadcasts, in
which each call that has returned occurs once (`sets_state_atomically`).  This is what the runs of a connector
(`World.step`) take for granted when they treat a `SetState` or a broadcast as one step.

A wake-up may come from `notify_all`, from the time limit of `wait_for`, or for no reason.  The predicate of
`wait_for` is tested in one step and the mutex given up in the next; `notify_all` is called without the mutex, so it
can fall between the two and wake nobody.  The destructor runs when the last reference is dropped, so no `SetState` is
in progress then.
-/

namespace MosaicCore

open EffectProgram EventRun

/-- Where `StateBroadcastWorker` stands. -/
inductive WorkerStage
  /-- At `while (!stop_flag_)`. -/
  | loop
  | locking
  /-- At the predicate of `wait_for`, with the mutex. -/
  | testing
  /-- The predicate was false; still with the mutex, the worker is about to wait. -/
  | blocking
  /-- In `wait_for`, without the mutex. -/
  | waiting
  /-- Woken, or out of time. -/
  | relocking (timeout : Bool)
  /-- At `if (!stop_flag_)`, with the mutex. -/
  | woken
  | sending
  | unlocking
  | exited
  /-- An exception has left the thread, and `std::terminate` has ended the process. -/
  | terminated
  deriving DecidableEq, Repr

/-- Where a call of `SetState` stands. -/
inductive SetterStage
  | locking
  | assigning
  | sending
  | unlocking
  | returned
  deriving DecidableEq, Repr

/-- A call of `SetState`. -/
structure Setter where
  newState : ConnectorState
  stage : SetterStage := .locking
  deriving DecidableEq, Repr

/-- Where the destructor stands. -/
inductive DestructorStage
  | idle
  | notifying
  | joining
  | returned
  deriving DecidableEq, Repr

/-- Who holds `mutex_`. -/
inductive MutexHolder
  | worker
  | setter (call : Nat)
  deriving DecidableEq, Repr

/-- A state manager in its object graph, with its threads. -/
structure StateThreads (σ : Type) where
  world : World σ
  stopFlag : Bool := false
  mutex : Option MutexHolder := none
  worker : WorkerStage := .loop
  setters : List Setter := []
  destructor : DestructorStage := .idle

/-- Which thread goes on. -/
inductive ThreadEvent
  /-- Some thread calls `SetState`. -/
  | setState (newState : ConnectorState)
  /-- The next step of one of the calls. -/
  | setter (call : Nat)
  /-- The next step of the worker. -/
  | worker
  /-- `wait_for` runs out of time, or wakes for no reason. -/
  | wake (timeout : Bool)
  /-- The next step of the destructor. -/
  | destructor
  deriving DecidableEq, Repr

/-- The worker holds the mutex. -/
def WorkerStage.holds : WorkerStage → Bool
  | .testing => true
  | .blocking => true
  | .woken => true
  | .sending => true
  | .unlocking => true
  | .terminated => true
  | _ => false

/-- The call holds the mutex. -/
def SetterStage.holds : SetterStage → Bool
  | .assigning => true
  | .sending => true
  | .unlocking => true
  | _ => false

/-- The call has taken effect. -/
def SetterStage.hasSent : SetterStage → Bool
  | .unlocking => true
  | .returned => true
  | _ => false

namespace StateThreads

variable {σ : Type} (sc : ISignalingClient σ)

/-- `state_ = newState`. -/
def assign (newState : ConnectorState) (w : World σ) : World σ :=
  { w with stateManager := { w.stateManager with state := newState } }

/-- The next step of `StateBroadcastWorker`. -/
def workerStep (t : StateThreads σ) : StateThreads σ :=
  match t.worker with
  | .loop => { t with worker := if t.stopFlag then .exited else .locking }
  | .locking => if t.mutex = none then { t with mutex := some .worker, worker := .testing } else t
  | .testing => { t with worker := if t.stopFlag then .woken else .blocking }
  | .blocking => { t with mutex := none, worker := .waiting }
  | .waiting => t
  | .relocking timeout =>
      if t.mutex = none then
        { t with mutex := some .worker, worker := if timeout then .woken else .testing }
      else t
  | .woken => { t with worker := if t.stopFlag then .unlocking else .sending }
  | .sending =>
      match (World.sendState sc).run t.world with
      | .ok _ w => { t with world := w, worker := .unlocking }
      | .error _ w => { t with world := w, worker := .terminated }
  | .unlocking => { t with mutex := none, worker := .loop }
  | .exited => t
  | .terminated => t

/-- A call goes on to a stage. -/
def advance (t : StateThreads σ) (call : Nat) (setter : Setter) (stage : SetterStage) : StateThreads σ :=
  { t with setters := t.setters.set call { setter with stage := stage } }

/-- The next step of a `SetState`; an exception of the send unlocks the mutex and leaves the call. -/
def setterStep (t : StateThreads σ) (call : Nat) : StateThreads σ :=
  match t.setters[call]? with
  | none => t
  | some setter =>
      match setter.stage with
      | .locking =>
          if t.mutex = none then { t.advance call setter .assigning with mutex := some (.setter call) } else t
      | .assigning => { t.advance call setter .sending with world := assign setter.newState t.world }
      | .sending =>
          { t.advance call setter .unlocking with world := finalState ((World.sendState sc).run t.world) }
      | .unlocking => { t.advance call setter .returned with mutex := none }
      | .returned => t

/-- The next step of the destructor. -/
def destructorStep (t : StateThreads σ) : StateThreads σ :=
  match t.destructor with
  | .idle =>
      if ∀ setter ∈ t.setters, setter.stage = .returned then { t with stopFlag := true, destructor := .notifying }
      else t
  | .notifying =>
      { t with
        worker := if t.worker = .waiting then .relocking false else t.worker
        destructor := .joining }
  | .joining => if t.worker = .exited then { t with destructor := .returned } else t
  | .returned => t

/-- A step of the running process. -/
def threadStep (t : StateThreads σ) : ThreadEvent → StateThreads σ
  | .setState newState =>
      if t.destructor = .idle then { t with setters := t.setters ++ [{ newState := newState }] } else t
  | .setter call => setterStep sc t call
  | .worker => workerStep sc t
  | .wake timeout => if t.worker = .waiting then { t with worker := .relocking timeout } else t
  | .destructor => destructorStep t

/-- The state after a step; nothing happens once the process has ended. -/
def step (t : StateThreads σ) (event : ThreadEvent) : StateThreads σ :=
  if t.worker = .terminated then t else threadStep sc t event

/-- A state manager whose worker has just been started. -/
def fresh (w : World σ) : StateThreads σ where
  world := w

/-! ## Who holds the mutex -/

/-- The mutex is held by the one thread that is between locking and unlocking, and there are no calls while the
object is destroyed. -/
structure Consistent (t : StateThreads σ) : Prop where
  worker : t.mutex = some .worker ↔ t.worker.holds = true
  setter : ∀ call setter, t.setters[call]? = some setter →
    (t.mutex = some (.setter call) ↔ setter.stage.holds = true)
  setter_lt : ∀ call, t.mutex = some (.setter call) → call < t.setters.length
  stopped : t.stopFlag = true ↔ t.destructor ≠ .idle
  returned : t.destructor ≠ .idle → ∀ setter ∈ t.setters, setter.stage = .returned

theorem consistent_fresh (w : World σ) : (fresh w).Consistent where
  worker := by simp [fresh, WorkerStage.holds]
  setter call setter hCall := by simp [fresh] at hCall
  setter_lt call hHolder := by simp [fresh] at hHolder
  stopped := by simp [fresh]
  returned hBegun := absurd rfl hBegun

variable {sc}

/-- The worker goes on without touching the mutex. -/
theorem Consistent.of_worker {t : StateThreads σ} (h : t.Consistent) {t' : StateThreads σ}
    (hHolds : t'.worker.holds = t.worker.holds) (hMutex : t'.mutex = t.mutex) (hSetters : t'.setters = t.setters)
    (hStop : t'.stopFlag = t.stopFlag) (hDestructor : t'.destructor = t.destructor) : t'.Consistent where
  worker := by rw [hMutex, hHolds]; exact h.worker
  setter := by rw [hMutex, hSetters]; exact h.setter
  setter_lt := by rw [hMutex, hSetters]; exact h.setter_lt
  stopped := by rw [hStop, hDestructor]; exact h.stopped
  returned := by rw [hSetters, hDestructor]; exact h.returned

/-- The worker locks the free mutex. -/
theorem Consistent.worker_locks {t : StateThreads σ} (h : t.Consistent) (hFree : t.mutex = none)
    {stage : WorkerStage} (hHolds : stage.holds = true) :
    ({ t with mutex := some .worker, worker := stage } : StateThreads σ).Consistent where
  worker := by simp [hHolds]
  setter call setter hCall := by
    have hNot := (h.setter call setter hCall).not
    rw [hFree] at hNot
    simpa using hNot
  setter_lt call hHolder := by simp at hHolder
  stopped := h.stopped
  returned := h.returned

/-- The worker unlocks it. -/
theorem Consistent.worker_unlocks {t : StateThreads σ} (h : t.Consistent) (hHeld : t.worker.holds = true)
    {stage : WorkerStage} (hHolds : stage.holds = false) :
    ({ t with mutex := none, worker := stage } : StateThreads σ).Consistent where
  worker := by simp [hHolds]
  setter call setter hCall := by
    have hNot := (h.setter call setter hCall).not
    rw [h.worker.mpr hHeld] at hNot
    simpa using hNot
  setter_lt call hHolder := by simp at hHolder
  stopped := h.stopped
  returned := h.returned

theorem consistent_workerStep {t : StateThreads σ} (h : t.Consistent) : (workerStep sc t).Consistent := by
  cases hStage : t.worker with
  | loop =>
      rw [workerStep, hStage]
      refine h.of_worker ?_ rfl rfl rfl rfl
      show (if t.stopFlag then WorkerStage.exited else .locking).holds = _
      rw [hStage]
      split_ifs <;> rfl
  | locking =>
      simp only [workerStep, hStage]
      split_ifs with hFree
      · exact h.worker_locks hFree rfl
      · exact h
  | testing =>
      simp only [workerStep, hStage]
      refine h.of_worker ?_ rfl rfl rfl rfl
      rw [hStage]
      split_ifs <;> rfl
  | blocking =>
      simp only [workerStep, hStage]
      exact h.worker_unlocks (by rw [hStage]; rfl) rfl
  | waiting =>
      simp only [workerStep, hStage]
      exact h
  | relocking timeout =>
      simp only [workerStep, hStage]
      split_ifs with hFree
      · exact h.worker_locks hFree rfl
      · exact h.worker_locks hFree rfl
      · exact h
  | woken =>
      simp only [workerStep, hStage]
      refine h.of_worker ?_ rfl rfl rfl rfl
      rw [hStage]
      split_ifs <;> rfl
  | sending =>
      simp only [workerStep, hStage]
      cases (World.sendState sc).run t.world with
      | ok _ w => exact h.of_worker (by rw [hStage]; rfl) rfl rfl rfl rfl
      | error e w => exact h.of_worker (by rw [hStage]; rfl) rfl rfl rfl rfl
  | unlocking =>
      simp only [workerStep, hStage]
      exact h.worker_unlocks (by rw [hStage]; rfl) rfl
  | exited =>
      simp only [workerStep, hStage]
      exact h
  | terminated =>
      simp only [workerStep, hStage]
      exact h

/-- A call goes on, locking or unlocking the mutex on its way. -/
theorem Consistent.of_setter {t : StateThreads σ} (h : t.Consistent) {call : Nat} {setter : Setter}
    (hCall : t.setters[call]? = some setter) (hActive : setter.stage ≠ .returned)
    (hBefore : t.mutex = none ∨ t.mutex = some (.setter call)) {t' : StateThreads σ} {stage : SetterStage}
    (hSetters : t'.setters = t.setters.set call { setter with stage := stage })
    (hMutex : t'.mutex = if stage.holds then some (.setter call) else none) (hWorker : t'.worker = t.worker)
    (hStop : t'.stopFlag = t.stopFlag) (hDestructor : t'.destructor = t.destructor) : t'.Consistent where
  worker := by
    have hNot : t.mutex ≠ some .worker := by
      rcases hBefore with hFree | hMine <;> simp [*]
    have hIdle : t.worker.holds ≠ true := fun hHolds => hNot (h.worker.mpr hHolds)
    rw [hMutex, hWorker]
    constructor
    · intro hHolder
      split_ifs at hHolder
      cases hHolder
    · exact fun hHolds => absurd hHolds hIdle
  setter other otherSetter hOther := by
    have hLess : call < t.setters.length := (List.getElem?_eq_some_iff.mp hCall).1
    rw [hSetters, List.getElem?_set] at hOther
    rw [hMutex]
    split_ifs at hOther with hSame
    · subst hSame
      cases hOther
      cases stage <;> simp [SetterStage.holds]
    · have hNot : t.mutex ≠ some (.setter other) := by
        rcases hBefore with hFree | hMine
        · simp [hFree]
        · rw [hMine]
          exact fun hHolder => hSame (by cases hHolder; rfl)
      have hIdle : otherSetter.stage.holds ≠ true := fun hHolds =>
        hNot ((h.setter other otherSetter hOther).mpr hHolds)
      constructor
      · intro hHolder
        split_ifs at hHolder
        cases hHolder
        exact absurd rfl hSame
      · exact fun hHolds => absurd hHolds hIdle
  setter_lt other hHolder := by
    rw [hMutex] at hHolder
    rw [hSetters, List.length_set]
    split_ifs at hHolder
    cases hHolder
    exact (List.getElem?_eq_some_iff.mp hCall).1
  stopped := by rw [hStop, hDestructor]; exact h.stopped
  returned := by
    rw [hDestructor]
    exact fun hBegun => absurd (h.returned hBegun setter (List.mem_of_getElem? hCall)) hActive

theorem consistent_setterStep {t : StateThreads σ} (h : t.Consistent) (call : Nat) :
    (setterStep sc t call).Consistent := by
  cases hCall : t.setters[call]? with
  | none =>
      simp only [setterStep, hCall]
      exact h
  | some setter =>
      have hHolder := h.setter call setter hCall
      cases hStage : setter.stage with
      | locking =>
          simp only [setterStep, hCall, hStage]
          split_ifs with hFree
          · exact h.of_setter hCall (by simp [hStage]) (.inl hFree) rfl rfl rfl rfl rfl
          · exact h
      | assigning =>
          simp only [setterStep, hCall, hStage]
          have hMine : t.mutex = some (.setter call) := hHolder.mpr (by rw [hStage]; rfl)
          exact h.of_setter hCall (by simp [hStage]) (.inr hMine) rfl hMine rfl rfl rfl
      | sending =>
          simp only [setterStep, hCall, hStage]
          have hMine : t.mutex = some (.setter call) := hHolder.mpr (by rw [hStage]; rfl)
          exact h.of_setter hCall (by simp [hStage]) (.inr hMine) rfl hMine rfl rfl rfl
      | unlocking =>
          simp only [setterStep, hCall, hStage]
          have hMine : t.mutex = some (.setter call) := hHolder.mpr (by rw [hStage]; rfl)
          exact h.of_setter hCall (by simp [hStage]) (.inr hMine) rfl rfl rfl rfl rfl
      | returned =>
          simp only [setterStep, hCall, hStage]
          exact h

theorem consistent_destructorStep {t : StateThreads σ} (h : t.Consistent) : (destructorStep t).Consistent := by
  cases hStage : t.destructor with
  | idle =>
      simp only [destructorStep, hStage]
      split_ifs with hReturned
      · exact ⟨h.worker, h.setter, h.setter_lt, by simp, fun _ => hReturned⟩
      · exact h
  | notifying =>
      simp only [destructorStep, hStage]
      have hReturned := h.returned (by simp [hStage])
      have hStopped : t.stopFlag = true := h.stopped.mpr (by simp [hStage])
      refine ⟨?_, h.setter, h.setter_lt, by simp [hStopped], fun _ => hReturned⟩
      by_cases hWaiting : t.worker = .waiting
      · have hIdle := h.worker
        rw [hWaiting] at hIdle
        simpa [hWaiting, WorkerStage.holds] using hIdle
      · simpa [hWaiting] using h.worker
  | joining =>
      simp only [destructorStep, hStage]
      have hReturned := h.returned (by simp [hStage])
      have hStopped : t.stopFlag = true := h.stopped.mpr (by simp [hStage])
      split_ifs
      · exact ⟨h.worker, h.setter, h.setter_lt, by simp [hStopped], fun _ => hReturned⟩
      · exact h
  | returned =>
      simp only [destructorStep, hStage]
      exact h

/-- **Every step keeps the mutex consistent.** -/
theorem consistent_step {t : StateThreads σ} (h : t.Consistent) (event : ThreadEvent) :
    (step sc t event).Consistent := by
  unfold step
  split_ifs
  · exact h
  cases event with
  | setState newState =>
      simp only [threadStep]
      split_ifs with hIdle
      · refine ⟨h.worker, fun call setter hCall => ?_, fun call hHolder => ?_, h.stopped,
          fun hBegun => absurd hIdle hBegun⟩
        · rcases Nat.lt_trichotomy call t.setters.length with hLess | hSame | hMore
          · rw [List.getElem?_append_left hLess] at hCall
            exact h.setter call setter hCall
          · subst hSame
            have hNew : setter = { newState := newState } := by simpa using hCall.symm
            subst hNew
            constructor
            · exact fun hHolder => absurd (h.setter_lt _ hHolder) (Nat.lt_irrefl _)
            · exact fun hHolds => by cases hHolds
          · rw [List.getElem?_eq_none (by simp; omega)] at hCall
            cases hCall
        · simpa using Nat.lt_succ_of_lt (h.setter_lt call hHolder)
      · exact h
  | setter call => exact consistent_setterStep h call
  | worker => exact consistent_workerStep h
  | wake timeout =>
      simp only [threadStep]
      split_ifs with hWaiting
      · exact h.of_worker (by rw [hWaiting]; rfl) rfl rfl rfl rfl
      · exact h
  | destructor => exact consistent_destructorStep h

/-! ## One step of the object graph for each call -/

/-- What happens to the object graph at once. -/
inductive StateOp
  /-- The whole of one call of `SetState`. -/
  | setState (call : Nat) (newState : ConnectorState)
  | stateBroadcast
  deriving DecidableEq, Repr

/-- The call of an operation. -/
def StateOp.call : StateOp → Option Nat
  | .setState call _ => some call
  | .stateBroadcast => none

variable (sc) in
/-- The object graph after an operation. -/
def apply (w : World σ) : StateOp → World σ
  | .setState _ newState => finalState ((World.setState sc newState).run w)
  | .stateBroadcast => finalState ((World.sendState sc).run w)

/-- The operation that takes effect with the next step of a call. -/
def setterEffect (t : StateThreads σ) (call : Nat) : Option StateOp :=
  match t.setters[call]? with
  | some ⟨newState, .sending⟩ => some (.setState call newState)
  | _ => none

/-- The operation that takes effect with a step: the one whose send it makes. -/
def effect (t : StateThreads σ) (event : ThreadEvent) : Option StateOp :=
  if t.worker = .terminated then none
  else
    match event with
    | .setter call => setterEffect t call
    | .worker => if t.worker = .sending then some .stateBroadcast else none
    | _ => none

variable (sc) in
/-- A step, and the operations so far. -/
def recorded (r : StateThreads σ × List StateOp) (event : ThreadEvent) : StateThreads σ × List StateOp :=
  (step sc r.1 event, r.2 ++ (effect r.1 event).toList)

/-- The state that a call has assigned and not sent yet. -/
def unsent (t : StateThreads σ) : Option ConnectorState :=
  match t.mutex with
  | some (.setter call) =>
      match t.setters[call]? with
      | some ⟨newState, .sending⟩ => some newState
      | _ => none
  | _ => none

/-- The object graph with a state assigned that is not sent yet. -/
def assigned (w : World σ) : Option ConnectorState → World σ
  | none => w
  | some newState => assign newState w

/-- A call has sent the state. -/
def SentBy (setters : List Setter) (call : Nat) (newState : ConnectorState) : Prop :=
  ∃ stage : SetterStage, setters[call]? = some ⟨newState, stage⟩ ∧ stage.hasSent = true

variable (sc) in
/-- The object graph is as after the operations, and these are the broadcasts and the calls that have sent. -/
structure Atomic (w : World σ) (r : StateThreads σ × List StateOp) : Prop where
  consistent : r.1.Consistent
  world : r.1.world = assigned (r.2.foldl (apply sc) w) (unsent r.1)
  once : (r.2.filterMap StateOp.call).Nodup
  sent : ∀ call newState, .setState call newState ∈ r.2 ↔ SentBy r.1.setters call newState

theorem sentBy_iff {setters : List Setter} {call : Nat} {setter : Setter} (hCall : setters[call]? = some setter)
    (newState : ConnectorState) :
    SentBy setters call newState ↔ newState = setter.newState ∧ setter.stage.hasSent = true := by
  obtain ⟨state, stage⟩ := setter
  constructor
  · rintro ⟨stage', hSame, hSent⟩
    rw [hCall] at hSame
    cases hSame
    exact ⟨rfl, hSent⟩
  · rintro ⟨rfl, hSent⟩
    exact ⟨stage, hCall, hSent⟩

/-- One call goes on. -/
theorem sentBy_set {setters : List Setter} {call : Nat} {setter : Setter} (hCall : setters[call]? = some setter)
    (stage : SetterStage) (other : Nat) (newState : ConnectorState) :
    SentBy (setters.set call { setter with stage := stage }) other newState ↔
      if other = call then newState = setter.newState ∧ stage.hasSent = true else SentBy setters other newState := by
  have hLess : call < setters.length := (List.getElem?_eq_some_iff.mp hCall).1
  by_cases hSame : other = call
  · subst hSame
    rw [if_pos rfl]
    exact sentBy_iff (List.getElem?_set_self hLess) newState
  · rw [if_neg hSame, SentBy, List.getElem?_set_ne (Ne.symm hSame)]
    rfl

/-- A call that goes on without sending. -/
theorem sentBy_set_same {setters : List Setter} {call : Nat} {setter : Setter}
    (hCall : setters[call]? = some setter) {stage : SetterStage} (hSent : stage.hasSent = setter.stage.hasSent)
    (other : Nat) (newState : ConnectorState) :
    SentBy (setters.set call { setter with stage := stage }) other newState ↔ SentBy setters other newState := by
  rw [sentBy_set hCall]
  split_ifs with hSame
  · rw [hSame, sentBy_iff hCall, hSent]
  · rfl

/-- A new call has sent nothing. -/
theorem sentBy_append {setters : List Setter} (newState : ConnectorState) (call : Nat) (state : ConnectorState) :
    SentBy (setters ++ [{ newState := newState }]) call state ↔ SentBy setters call state := by
  rcases Nat.lt_trichotomy call setters.length with hLess | hSame | hMore
  · rw [SentBy, List.getElem?_append_left hLess]
    rfl
  · have hNew : (setters ++ [({ newState := newState } : Setter)])[call]? = some { newState := newState } := by
      simp [hSame]
    have hNone : setters[call]? = none := List.getElem?_eq_none (Nat.le_of_eq hSame.symm)
    rw [sentBy_iff hNew]
    simp [SentBy, hNone, SetterStage.hasSent]
  · have hNew : (setters ++ [({ newState := newState } : Setter)])[call]? = none := by
      rw [List.getElem?_eq_none]
      simp only [List.length_append, List.length_singleton]
      omega
    have hNone : setters[call]? = none := List.getElem?_eq_none (Nat.le_of_lt hMore)
    simp [SentBy, hNone, hNew]

variable {w : World σ} {t : StateThreads σ} {operations : List StateOp}

/-- A step in which nothing takes effect. -/
theorem Atomic.quiet (h : Atomic sc w (t, operations)) {t' : StateThreads σ} (hConsistent : t'.Consistent)
    (hWorld : t'.world = t.world) (hUnsent : unsent t' = unsent t)
    (hSent : ∀ call newState, SentBy t'.setters call newState ↔ SentBy t.setters call newState) :
    Atomic sc w (t', operations) where
  consistent := hConsistent
  world := by
    show t'.world = assigned _ (unsent t')
    rw [hWorld, hUnsent]
    exact h.world
  once := h.once
  sent call newState := (h.sent call newState).trans (hSent call newState).symm

theorem unsent_of_not_setter (hNot : ∀ call, t.mutex ≠ some (.setter call)) : unsent t = none := by
  unfold unsent
  split
  next call hHolder => exact absurd hHolder (hNot call)
  next => rfl

theorem unsent_of_setter {call : Nat} {setter : Setter} (hHolder : t.mutex = some (.setter call))
    (hCall : t.setters[call]? = some setter) :
    unsent t = if setter.stage = .sending then some setter.newState else none := by
  obtain ⟨newState, stage⟩ := setter
  cases stage <;> simp [unsent, hHolder, hCall]

theorem unsent_congr {t' : StateThreads σ} (hMutex : t'.mutex = t.mutex) (hSetters : t'.setters = t.setters) :
    unsent t' = unsent t := by
  rw [unsent, unsent, hMutex, hSetters]

/-- The worker locks and unlocks the mutex for itself only. -/
theorem unsent_workerStep (h : t.Consistent) : unsent (workerStep sc t) = unsent t := by
  have hFree {t' : StateThreads σ} (hBefore : ∀ call, t.mutex ≠ some (.setter call))
      (hAfter : ∀ call, t'.mutex ≠ some (.setter call)) : unsent t' = unsent t := by
    rw [unsent_of_not_setter hBefore, unsent_of_not_setter hAfter]
  have hHolder (hHolds : t.worker.holds = true) : ∀ call, t.mutex ≠ some (.setter call) := by
    simp [h.worker.mpr hHolds]
  cases hStage : t.worker with
  | loop =>
      simp only [workerStep, hStage]
      exact unsent_congr rfl rfl
  | locking =>
      simp only [workerStep, hStage]
      split_ifs with hNone
      · exact hFree (by simp [hNone]) (by simp)
      · rfl
  | testing =>
      simp only [workerStep, hStage]
      exact unsent_congr rfl rfl
  | blocking =>
      simp only [workerStep, hStage]
      exact hFree (hHolder (by rw [hStage]; rfl)) (by simp)
  | waiting => simp only [workerStep, hStage]
  | relocking timeout =>
      simp only [workerStep, hStage]
      split_ifs with hNone
      · exact hFree (by simp [hNone]) (by simp)
      · exact hFree (by simp [hNone]) (by simp)
      · rfl
  | woken =>
      simp only [workerStep, hStage]
      exact unsent_congr rfl rfl
  | sending =>
      simp only [workerStep, hStage]
      cases (World.sendState sc).run t.world with
      | ok _ w => exact unsent_congr rfl rfl
      | error e w => exact unsent_congr rfl rfl
  | unlocking =>
      simp only [workerStep, hStage]
      exact hFree (hHolder (by rw [hStage]; rfl)) (by simp)
  | exited => simp only [workerStep, hStage]
  | terminated => simp only [workerStep, hStage]

theorem setters_workerStep : (workerStep sc t).setters = t.setters := by
  unfold workerStep
  split <;> first | rfl | (split <;> rfl)

/-- The worker changes the object graph only when it sends. -/
theorem world_workerStep : (workerStep sc t).world =
    if t.worker = .sending then finalState ((World.sendState sc).run t.world) else t.world := by
  cases hStage : t.worker with
  | sending =>
      simp only [workerStep, hStage]
      cases (World.sendState sc).run t.world <;> rfl
  | locking =>
      simp only [workerStep, hStage, reduceCtorEq, if_false]
      split_ifs <;> rfl
  | relocking timeout =>
      simp only [workerStep, hStage, reduceCtorEq, if_false]
      split_ifs <;> rfl
  | _ => simp [workerStep, hStage]

/-- The worker goes on: it sends the state, or nothing takes effect. -/
theorem atomic_workerStep (h : Atomic sc w (t, operations)) :
    Atomic sc w (workerStep sc t,
      operations ++ (if t.worker = .sending then some StateOp.stateBroadcast else none).toList) := by
  have hConsistent : (workerStep sc t).Consistent := consistent_workerStep h.consistent
  by_cases hSending : t.worker = .sending
  · have hMutex : t.mutex = some .worker := h.consistent.worker.mpr (by rw [hSending]; rfl)
    have hNone : unsent t = none := unsent_of_not_setter (by simp [hMutex])
    have hWorld : t.world = operations.foldl (apply sc) w := by
      have hBefore := h.world
      rwa [hNone] at hBefore
    rw [if_pos hSending]
    refine ⟨hConsistent, ?_, ?_, fun call newState => ?_⟩
    · show (workerStep sc t).world = assigned _ (unsent (workerStep sc t))
      rw [unsent_workerStep h.consistent, hNone, world_workerStep, if_pos hSending, hWorld]
      simp [assigned, apply]
    · have hCalls : [StateOp.stateBroadcast].filterMap StateOp.call = [] := rfl
      show ((operations ++ [StateOp.stateBroadcast]).filterMap StateOp.call).Nodup
      rw [List.filterMap_append, hCalls, List.append_nil]
      exact h.once
    · have hSent := h.sent call newState
      rw [setters_workerStep]
      simpa using hSent
  · rw [if_neg hSending, Option.toList_none, List.append_nil]
    refine h.quiet hConsistent ?_ (unsent_workerStep h.consistent) fun call newState => ?_
    · rw [world_workerStep, if_neg hSending]
    · rw [setters_workerStep]

/-- A call that has gone on with the mutex. -/
theorem unsent_advance {call : Nat} {setter : Setter} (hCall : t.setters[call]? = some setter) (stage : SetterStage)
    (t' : StateThreads σ) (hSetters : t'.setters = t.setters.set call { setter with stage := stage })
    (hHolder : t'.mutex = some (.setter call)) :
    unsent t' = if stage = .sending then some setter.newState else none := by
  have hLess : call < t.setters.length := (List.getElem?_eq_some_iff.mp hCall).1
  have hSet : t'.setters[call]? = some { setter with stage := stage } := by
    rw [hSetters]
    exact List.getElem?_set_self hLess
  exact unsent_of_setter hHolder hSet

/-- A call goes on: it sends the state it has assigned, or nothing takes effect. -/
theorem atomic_setterStep (h : Atomic sc w (t, operations)) (call : Nat) :
    Atomic sc w (setterStep sc t call, operations ++ (setterEffect t call).toList) := by
  have hConsistent : (setterStep sc t call).Consistent := consistent_setterStep h.consistent call
  cases hCall : t.setters[call]? with
  | none =>
      simp only [setterStep, setterEffect, hCall, Option.toList_none, List.append_nil]
      exact h
  | some setter =>
      have hHolder := h.consistent.setter call setter hCall
      have hOther (hNotSending : setter.stage ≠ .sending) : setterEffect t call = none := by
        obtain ⟨newState, stage⟩ := setter
        cases stage <;> simp_all [setterEffect]
      cases hStage : setter.stage with
      | locking =>
          rw [hOther (by simp [hStage]), Option.toList_none, List.append_nil]
          simp only [setterStep, hCall, hStage] at hConsistent ⊢
          split_ifs at hConsistent ⊢ with hFree
          · refine h.quiet hConsistent rfl ?_ fun other newState => sentBy_set_same hCall (by rw [hStage]; rfl) _ _
            have hBefore : unsent t = none := unsent_of_not_setter (by simp [hFree])
            rw [hBefore]
            exact unsent_advance hCall .assigning _ rfl rfl
          · exact h
      | assigning =>
          have hMine : t.mutex = some (.setter call) := hHolder.mpr (by rw [hStage]; rfl)
          have hBefore : unsent t = none := by
            rw [unsent_of_setter hMine hCall, hStage]
            rfl
          have hWorld := h.world
          rw [hBefore] at hWorld
          rw [hOther (by simp [hStage]), Option.toList_none, List.append_nil]
          simp only [setterStep, hCall, hStage] at hConsistent ⊢
          refine ⟨hConsistent, ?_, h.once, fun other newState => (h.sent other newState).trans ?_⟩
          · -- The state is assigned, and not sent.
            show assign setter.newState t.world = assigned _ (unsent _)
            have hAfter : unsent { t.advance call setter .sending with world := assign setter.newState t.world } =
                some setter.newState := unsent_advance hCall .sending _ rfl hMine
            rw [hAfter, hWorld]
            rfl
          · exact (sentBy_set_same hCall (by rw [hStage]; rfl) _ _).symm
      | sending =>
          have hMine : t.mutex = some (.setter call) := hHolder.mpr (by rw [hStage]; rfl)
          have hBefore : unsent t = some setter.newState := by
            rw [unsent_of_setter hMine hCall, hStage]
            rfl
          have hWorld := h.world
          rw [hBefore] at hWorld
          have hEffect : setterEffect t call = some (.setState call setter.newState) := by
            obtain ⟨newState, stage⟩ := setter
            simp_all [setterEffect]
          have hNew : ∀ newState, .setState call newState ∉ operations := by
            intro newState hMem
            have hSent := (h.sent call newState).mp hMem
            rw [sentBy_iff hCall, hStage] at hSent
            exact absurd hSent.2 (by simp [SetterStage.hasSent])
          rw [hEffect]
          simp only [setterStep, hCall, hStage] at hConsistent ⊢
          refine ⟨hConsistent, ?_, ?_, fun other newState => ?_⟩
          · show finalState ((World.sendState sc).run t.world) = assigned _ (unsent _)
            have hAfter : unsent { t.advance call setter .unlocking with
                world := finalState ((World.sendState sc).run t.world) } = none :=
              unsent_advance hCall .unlocking _ rfl hMine
            rw [hAfter, hWorld, Option.toList_some, List.foldl_append]
            rfl
          · show ((operations ++ [StateOp.setState call setter.newState]).filterMap StateOp.call).Nodup
            have hCalls : [StateOp.setState call setter.newState].filterMap StateOp.call = [call] := rfl
            rw [List.filterMap_append, hCalls]
            refine List.nodup_append.mpr ⟨h.once, by simp, fun other hOld last hLast hSame => ?_⟩
            rw [List.mem_singleton.mp hLast] at hSame
            obtain ⟨operation, hMem, hOperation⟩ := List.mem_filterMap.mp hOld
            cases operation with
            | stateBroadcast => cases hOperation
            | setState first newState =>
                have hFirst : first = call := (Option.some.inj hOperation).trans hSame
                rw [hFirst] at hMem
                exact hNew newState hMem
          · have hSent := h.sent other newState
            show .setState other newState ∈ operations ++ [StateOp.setState call setter.newState] ↔
              SentBy (t.setters.set call { setter with stage := .unlocking }) other newState
            rw [sentBy_set hCall, List.mem_append, List.mem_singleton]
            by_cases hSame : other = call
            · rw [hSame, if_pos rfl]
              simp [hNew newState, SetterStage.hasSent]
            · rw [if_neg hSame]
              simpa [hSame] using hSent
      | unlocking =>
          have hMine : t.mutex = some (.setter call) := hHolder.mpr (by rw [hStage]; rfl)
          rw [hOther (by simp [hStage]), Option.toList_none, List.append_nil]
          simp only [setterStep, hCall, hStage] at hConsistent ⊢
          refine h.quiet hConsistent rfl ?_ fun other newState => sentBy_set_same hCall (by rw [hStage]; rfl) _ _
          rw [unsent_of_setter hMine hCall, hStage]
          exact unsent_of_not_setter (by simp)
      | returned =>
          rw [hOther (by simp [hStage]), Option.toList_none, List.append_nil]
          simp only [setterStep, hCall, hStage]
          exact h

/-- **Every step is one operation, or none.** -/
theorem atomic_step {r : StateThreads σ × List StateOp} (h : Atomic sc w r) (event : ThreadEvent) :
    Atomic sc w (recorded sc r event) := by
  obtain ⟨t, operations⟩ := r
  have hConsistent : (step sc t event).Consistent := consistent_step h.consistent event
  unfold recorded effect step at *
  dsimp only at hConsistent ⊢
  by_cases hEnded : t.worker = .terminated
  · rw [if_pos hEnded, if_pos hEnded, Option.toList_none, List.append_nil]
    exact h
  rw [if_neg hEnded] at hConsistent
  rw [if_neg hEnded, if_neg hEnded]
  cases event with
  | setState newState =>
      rw [Option.toList_none, List.append_nil]
      simp only [threadStep] at hConsistent ⊢
      split_ifs at hConsistent ⊢ with hIdle
      · refine h.quiet hConsistent rfl ?_ fun call state => sentBy_append _ call state
        by_cases hSetter : ∃ call, t.mutex = some (.setter call)
        · obtain ⟨call, hHolder⟩ := hSetter
          have hLess := h.consistent.setter_lt call hHolder
          have hCall : t.setters[call]? = some t.setters[call] := List.getElem?_eq_getElem hLess
          rw [unsent_of_setter hHolder hCall]
          exact unsent_of_setter hHolder ((List.getElem?_append_left hLess).trans hCall)
        · have hNot : ∀ call, t.mutex ≠ some (.setter call) := fun call hHolder => hSetter ⟨call, hHolder⟩
          rw [unsent_of_not_setter hNot]
          exact unsent_of_not_setter hNot
      · exact h
  | setter call => exact atomic_setterStep h call
  | worker => exact atomic_workerStep h
  | wake timeout =>
      rw [Option.toList_none, List.append_nil]
      simp only [threadStep] at hConsistent ⊢
      split_ifs at hConsistent ⊢
      · exact h.quiet hConsistent rfl (unsent_congr rfl rfl) fun _ _ => Iff.rfl
      · exact h
  | destructor =>
      rw [Option.toList_none, List.append_nil]
      have hWorld : (destructorStep t).world = t.world := by
        unfold destructorStep
        split <;> first | rfl | (split <;> rfl)
      have hMutex : (destructorStep t).mutex = t.mutex := by
        unfold destructorStep
        split <;> first | rfl | (split <;> rfl)
      have hSetters : (destructorStep t).setters = t.setters := by
        unfold destructorStep
        split <;> first | rfl | (split <;> rfl)
      exact h.quiet hConsistent hWorld (unsent_congr hMutex hSetters) fun _ _ => by
        show SentBy (destructorStep t).setters _ _ ↔ _
        rw [hSetters]

theorem atomic_fresh (w : World σ) : Atomic sc w (fresh w, []) where
  consistent := consistent_fresh w
  world := by
    have hNone : unsent (fresh w) = none := rfl
    show w = assigned w (unsent (fresh w))
    rw [hNone]
    rfl
  once := List.nodup_nil
  sent call newState := by simp [SentBy, fresh]

variable (sc) in
/-- **`SetState` and the broadcasts are atomic.**  Under every interleaving of any number of `SetState` calls, of the
worker's loop and of the destructor, whatever the sends throw: whenever the mutex is free, the object graph is as
after a sequence of whole `SetState` calls and whole broadcasts.  Each call that has returned occurs in it once, and a
call that occurs in it has sent its own state. -/
theorem sets_state_atomically (w : World σ) (events : List ThreadEvent) :
    let r := run (recorded sc) (fresh w, []) events
    (r.1.mutex = none → r.1.world = r.2.foldl (apply sc) w) ∧ (r.2.filterMap StateOp.call).Nodup ∧
      (∀ call setter, r.1.setters[call]? = some setter → setter.stage = .returned →
        .setState call setter.newState ∈ r.2) ∧
      ∀ call newState, .setState call newState ∈ r.2 → ∃ setter, r.1.setters[call]? = some setter ∧
        setter.newState = newState ∧ setter.stage.hasSent = true := by
  intro r
  have h : Atomic sc w r :=
    run_invariant (I := Atomic sc w) (A := fun _ => True) (fun _ event _ hBefore => atomic_step hBefore event)
      (atomic_fresh w) fun _ _ => trivial
  refine ⟨fun hFree => ?_, h.once, fun call setter hCall hReturned => ?_, fun call newState hMem => ?_⟩
  · have hWorld := h.world
    rwa [unsent_of_not_setter (by simp [hFree])] at hWorld
  · rw [h.sent, sentBy_iff hCall, hReturned]
    exact ⟨rfl, rfl⟩
  · obtain ⟨stage, hCall, hSent⟩ := (h.sent call newState).mp hMem
    exact ⟨_, hCall, rfl, hSent⟩

end StateThreads

end MosaicCore
