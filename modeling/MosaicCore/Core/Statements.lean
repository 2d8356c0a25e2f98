import MosaicCore.Core.Session

/-!
# The closing routines, statement by statement

`ClosePeerConnection`, `HandleSdpOffer` and `ShuttingDown` run on different threads over the same object graph
and take no lock around their statements.  A `Location` is the next statement of such a thread, `statement`
what it does: every `IsState`, every `SetState`, every loop over the handlers and every access to
`peer_connection_` or `signaling_client_` is one step.

`settles_closePeerConnection`, `settles_handleSdpOffer` and `settles_shuttingDown` tie this to the routines: a
thread that runs alone from the first statement ends as the routine does.
-/

namespace MosaicCore

open EffectProgram

/-- The next statement of a thread. -/
inductive Location
  -- `ClosePeerConnection`
  | checkConnected
  | checkConnecting
  | setDisconnecting
  | closeMediaTracks
  | closeDataChannels
  | testPeer
  | closePeer
  | dropPeer
  | setReady
  -- `HandleSdpOffer`
  | testExisting
  | checkReady
  | setConnecting
  | createPeer
  | testCreated
  | setFailed
  | setRemote
  -- `ShuttingDown`
  | setDisconnected
  | stopSignaling
  | dropSignaling
  | destroyPeer
  | destroyRest
  deriving DecidableEq, Repr

/-- The routine a thread is in. -/
inductive Routine
  | closePeerConnection
  | handleSdpOffer (sdpOffer : String) (created : Bool)
  | shuttingDown
  deriving DecidableEq, Repr

/-- The first statement. -/
def Routine.start : Routine → Location
  | .closePeerConnection => .checkConnected
  | .handleSdpOffer _ _ => .testExisting
  | .shuttingDown => .setDisconnected

/-- The statement after the `ClosePeerConnection` in a routine. -/
def Routine.afterClose : Routine → Option Location
  | .closePeerConnection => none
  | .handleSdpOffer _ _ => some .checkReady
  | .shuttingDown => some .destroyPeer

/-- The statements that may follow one. -/
def Routine.successors (routine : Routine) : Location → List (Option Location)
  | .checkConnected => [some .setDisconnecting, some .checkConnecting]
  | .checkConnecting => [some .setDisconnecting, routine.afterClose]
  | .setDisconnecting => [some .closeMediaTracks]
  | .closeMediaTracks => [some .closeDataChannels, some .setReady]
  | .closeDataChannels => [some .testPeer, some .setReady]
  | .testPeer => [some .closePeer, some .setReady]
  | .closePeer => [some .dropPeer]
  | .dropPeer => [some .setReady]
  | .setReady => [routine.afterClose]
  | .testExisting => [some .checkConnected, some .checkReady]
  | .checkReady => [some .setConnecting, none]
  | .setConnecting => [some .createPeer]
  | .createPeer => [some .testCreated]
  | .testCreated => [some .setRemote, some .setFailed]
  | .setFailed => [none]
  | .setRemote => [none]
  | .setDisconnected => [some .stopSignaling]
  | .stopSignaling => [some .dropSignaling, some .checkConnected]
  | .dropSignaling => [some .checkConnected]
  | .destroyPeer => [some .destroyRest]
  | .destroyRest => [none]

/-- The offer a routine handles. -/
def Routine.sdpOffer : Routine → String
  | .handleSdpOffer sdpOffer _ => sdpOffer
  | _ => ""

/-- Whether the peer connection of the offer can be created. -/
def Routine.created : Routine → Bool
  | .handleSdpOffer _ created => created
  | _ => false

namespace World

variable {σ : Type}

/-- A statement of the `try` block: an exception continues after the block. -/
def inTry (p : Program (World σ) (Option Location)) : Program (World σ) (Option Location) := fun w =>
  match p.run w with
  | .ok next w' => .ok next w'
  | .error e w' => if e.isException then .ok (some .setReady) w' else .error e w'

variable (sc : ISignalingClient σ) (env : Environment) (routine : Routine)

/-- What a statement does, and the statement after it. -/
def statement : Location → Program (World σ) (Option Location)
  | .checkConnected => do
      pure (if isState (← get) .rtcConnected then some .setDisconnecting else some .checkConnecting)
  | .checkConnecting => do
      pure (if isState (← get) .rtcConnecting then some .setDisconnecting else routine.afterClose)
  | .setDisconnecting => do
      setState sc .rtcDisconnecting
      pure (some .closeMediaTracks)
  | .closeMediaTracks => inTry do
      closeAllMediaTracks env
      pure (some .closeDataChannels)
  | .closeDataChannels => inTry do
      closeAllDataChannels
      pure (some .testPeer)
  | .testPeer => do
      pure (if (← get).manager.peerConnection.isSome then some .closePeer else some .setReady)
  | .closePeer => do
      let peer ← dereference "peer_connection_" (← get).manager.peerConnection
      rtcCall (.close peer)
      pure (some .dropPeer)
  | .dropPeer => do
      assignPeerConnection none
      pure (some .setReady)
  | .setReady => do
      onConnectionDisconnected sc
      pure routine.afterClose
  | .testExisting => do
      pure (if (← get).manager.peerConnection.isSome then some .checkConnected else some .checkReady)
  | .checkReady => do
      pure (if isState (← get) .readyToConnect then some .setConnecting else none)
  | .setConnecting => do
      setState sc .rtcConnecting
      pure (some .createPeer)
  | .createPeer => do
      createPeerConnection routine.created
      pure (some .testCreated)
  | .testCreated => do
      pure (if (← get).manager.peerConnection.isSome then some .setRemote else some .setFailed)
  | .setFailed => do
      setState sc .rtcFailed
      pure none
  | .setRemote => do
      let peer ← dereference "peer_connection_" (← get).manager.peerConnection
      rtcCall (.setRemoteDescription peer routine.sdpOffer)
      rtcStart peer .setRemoteDescription
      pure none
  | .setDisconnected => do
      setState sc .disconnected
      pure (some .stopSignaling)
  | .stopSignaling => do
      if (← get).manager.signalingClient then do
        onSignaling sc.stop
        pure (some .dropSignaling)
      else pure (some .checkConnected)
  | .dropSignaling => do
      modify fun w => { w with manager := { w.manager with signalingClient := false } }
      pure (some .checkConnected)
  | .destroyPeer => do
      assignPeerConnection none
      pure (some .destroyRest)
  | .destroyRest => do
      destroyFactoryAndThreads
      pure none

/-- One step of a thread; a thread that throws is at its end. -/
def advance : Option Location × World σ → Option Location × World σ
  | (none, w) => (none, w)
  | (some location, w) =>
      match (statement sc env routine location).run w with
      | .ok next w' => (next, w')
      | .error _ w' => (none, w')

theorem advance_snd (location : Location) (w : World σ) :
    (advance sc env routine (some location, w)).2 =
      finalState ((statement sc env routine location).run w) := by
  rw [advance]
  cases (statement sc env routine location).run w with
  | ok next w' => rfl
  | error e w' => rfl

/-- A statement of the `try` block moves the way its body does. -/
theorem within_inTry {R : World σ → World σ → Prop} {p : Program (World σ) (Option Location)}
    (h : Within R p) : Within R (inTry p) := by
  intro w
  have hEnd := h w
  show R w (finalState (inTry p w))
  rw [inTry]
  cases hRun : p.run w with
  | ok next w' =>
      rw [hRun] at hEnd
      exact hEnd
  | error e w' =>
      rw [hRun] at hEnd
      by_cases hException : e.isException = true
      · simpa [hException] using hEnd
      · simpa [hException] using hEnd

variable {sc env routine} in
/-- A preorder that holds along the primitive steps of a statement holds along the statement. -/
theorem within_statement {R : World σ → World σ → Prop} [IsPreorder (World σ) R] {location : Location}
    (hSet : ∀ newState, Within R (setState sc newState))
    (hMedia : location = .closeMediaTracks → Within R (closeAllMediaTracks env))
    (hData : Within R (closeAllDataChannels : Program (World σ) Unit))
    (hClose : location = .closePeer → ∀ peer, Within R (rtcCall (.close peer)))
    (hDrop : location = .dropPeer ∨ location = .destroyPeer → Within R (assignPeerConnection none))
    (hCreate : location = .createPeer → Within R (createPeerConnection routine.created))
    (hRemote : ∀ peer, Within R (rtcCall (.setRemoteDescription peer routine.sdpOffer)))
    (hStart : ∀ peer, Within R (rtcStart peer .setRemoteDescription))
    (hStop : Within R (onSignaling sc.stop))
    (hReset : ∀ w : World σ, R w { w with manager := { w.manager with signalingClient := false } })
    (hDestroy : location = .destroyRest → Within R (destroyFactoryAndThreads : Program (World σ) Unit)) :
    Within R (statement sc env routine location) := by
  have hThen {p : Program (World σ) Unit} {next : Option Location} (hp : Within R p) :
      Within R (p >>= fun _ => pure next) := by
    apply within_bind
    · exact hp
    intro _
    exact within_pure _
  have hLook (choose : World σ → Option Location) :
      Within R (do pure (choose (← get)) : Program (World σ) (Option Location)) := by
    apply within_get_bind
    intro _
    exact within_pure _
  cases location with
  | checkConnected => exact hLook _
  | checkConnecting => exact hLook _
  | testPeer => exact hLook _
  | testExisting => exact hLook _
  | checkReady => exact hLook _
  | testCreated => exact hLook _
  | setDisconnecting => exact hThen (hSet _)
  | setReady => exact hThen (hSet _)
  | setConnecting => exact hThen (hSet _)
  | setFailed => exact hThen (hSet _)
  | setDisconnected => exact hThen (hSet _)
  | closeMediaTracks => exact within_inTry (hThen (hMedia rfl))
  | closeDataChannels => exact within_inTry (hThen hData)
  | dropPeer => exact hThen (hDrop (.inl rfl))
  | destroyPeer => exact hThen (hDrop (.inr rfl))
  | createPeer => exact hThen (hCreate rfl)
  | dropSignaling => exact hThen (within_modify hReset)
  | destroyRest => exact hThen (hDestroy rfl)
  | closePeer =>
      apply within_get_bind
      intro _
      apply within_dereference_bind
      intro peer
      exact hThen (hClose rfl peer)
  | setRemote =>
      apply within_get_bind
      intro _
      apply within_dereference_bind
      intro peer
      apply within_bind
      · exact hRemote peer
      intro _
      exact hThen (hStart peer)
  | stopSignaling =>
      apply within_get_bind
      intro _
      exact within_ite (hThen hStop) (within_pure _)

/-- A statement of the `try` block that returns goes on as its body does, or behind the block. -/
theorem inTry_eq_ok {p : Program (World σ) (Option Location)} {w w' : World σ} {next : Option Location}
    (hRun : (inTry p).run w = .ok next w') : p.run w = .ok next w' ∨ next = some .setReady := by
  have hRun' : inTry p w = .ok next w' := hRun
  rw [inTry] at hRun'
  cases hBody : p.run w with
  | ok next₁ w₁ =>
      rw [hBody] at hRun'
      exact .inl hRun'
  | error e w₁ =>
      rw [hBody] at hRun'
      by_cases hException : e.isException = true
      · simp only [hException, if_true] at hRun'
        cases hRun'
        exact .inr rfl
      · simp [hException] at hRun'

/-- A statement that runs a program and goes on to a fixed next statement. -/
theorem next_fixed {p : Program (World σ) Unit} {fixed next : Option Location} {w w' : World σ}
    (hRun : (p >>= fun _ => pure fixed).run w = .ok next w') : p.run w = .ok () w' ∧ next = fixed := by
  obtain ⟨_, _, hFirst, hNext⟩ := run_bind_eq_ok.mp hRun
  cases hNext
  exact ⟨hFirst, rfl⟩

variable {sc env routine} in
/-- What a statement leads to, when it returns. -/
theorem next_mem_successors {location : Location} {next : Option Location} {w w' : World σ}
    (hRun : (statement sc env routine location).run w = .ok next w') :
    next ∈ routine.successors location := by
  have hFixed : ∀ {p : Program (World σ) Unit} {fixed : Option Location},
      (p >>= fun _ => pure fixed).run w = .ok next w' → next ∈ [fixed] := by
    intro p fixed hBind
    exact List.mem_singleton.mpr (next_fixed hBind).2
  have hChoice : ∀ {c : Prop} [Decidable c] {yes no : Option Location},
      (.ok (if c then yes else no) w : EStateM.Result Fault _ _) = .ok next w' → next ∈ [yes, no] := by
    intro c _ yes no hSame
    cases hSame
    split_ifs <;> simp
  -- An exception inside the `try` block goes on after it.
  have hTry : ∀ {p : Program (World σ) Unit} {fixed : Option Location},
      (inTry (p >>= fun _ => pure fixed)).run w = .ok next w' → next ∈ [fixed, some .setReady] := by
    intro p fixed hInTry
    rcases inTry_eq_ok hInTry with hBody | rfl
    · rw [(next_fixed hBody).2]
      simp
    · simp
  cases location with
  | checkConnected => exact hChoice hRun
  | checkConnecting => exact hChoice hRun
  | testPeer => exact hChoice hRun
  | testExisting => exact hChoice hRun
  | checkReady => exact hChoice hRun
  | testCreated => exact hChoice hRun
  | setDisconnecting => exact hFixed hRun
  | closeMediaTracks => exact hTry hRun
  | closeDataChannels => exact hTry hRun
  | dropPeer => exact hFixed hRun
  | setReady => exact hFixed hRun
  | setConnecting => exact hFixed hRun
  | createPeer => exact hFixed hRun
  | setFailed => exact hFixed hRun
  | setDisconnected => exact hFixed hRun
  | dropSignaling => exact hFixed hRun
  | destroyPeer => exact hFixed hRun
  | destroyRest => exact hFixed hRun
  | closePeer =>
      obtain ⟨_, _, _, hRest⟩ := run_bind_eq_ok.mp hRun
      obtain ⟨_, _, _, hCall⟩ := run_bind_eq_ok.mp hRest
      obtain ⟨_, _, _, hNext⟩ := run_bind_eq_ok.mp hCall
      cases hNext
      exact List.mem_singleton_self _
  | setRemote =>
      obtain ⟨_, _, _, hRest⟩ := run_bind_eq_ok.mp hRun
      obtain ⟨_, _, _, hCall⟩ := run_bind_eq_ok.mp hRest
      obtain ⟨_, _, _, hStart⟩ := run_bind_eq_ok.mp hCall
      obtain ⟨_, _, _, hNext⟩ := run_bind_eq_ok.mp hStart
      cases hNext
      exact List.mem_singleton_self _
  | stopSignaling =>
      obtain ⟨w₁, _, hGet, hRest⟩ := run_bind_eq_ok.mp hRun
      by_cases hSignaling : w₁.manager.signalingClient = true
      · rw [if_pos hSignaling] at hRest
        obtain ⟨_, _, _, hNext⟩ := run_bind_eq_ok.mp hRest
        cases hNext
        simp [Routine.successors]
      · rw [if_neg hSignaling] at hRest
        cases hRest
        simp [Routine.successors]

variable {sc env routine} in
/-- What a thread that has not ended has gone on to. -/
theorem advance_fst_mem {location next : Location} {w : World σ}
    (hNext : (advance sc env routine (some location, w)).1 = some next) :
    some next ∈ routine.successors location := by
  rw [advance] at hNext
  cases hRun : (statement sc env routine location).run w with
  | ok other w' =>
      rw [hRun] at hNext
      exact hNext ▸ next_mem_successors hRun
  | error e w' =>
      rw [hRun] at hNext
      cases hNext

/-! ## A thread alone -/

/-- Running alone from a location, the thread ends in `w'`. -/
def Settles (location : Option Location) (w w' : World σ) : Prop :=
  ∃ n, (advance sc env routine)^[n] (location, w) = (none, w')

variable {sc env routine}

/-! The statements that only look. -/

theorem run_checkConnected (w : World σ) : (statement sc env routine .checkConnected).run w =
    .ok (if isState w .rtcConnected then some .setDisconnecting else some .checkConnecting) w := rfl

theorem run_checkConnecting (w : World σ) : (statement sc env routine .checkConnecting).run w =
    .ok (if isState w .rtcConnecting then some .setDisconnecting else routine.afterClose) w := rfl

theorem run_testPeer (w : World σ) : (statement sc env routine .testPeer).run w =
    .ok (if w.manager.peerConnection.isSome then some .closePeer else some .setReady) w := rfl

theorem run_testExisting (w : World σ) : (statement sc env routine .testExisting).run w =
    .ok (if w.manager.peerConnection.isSome then some .checkConnected else some .checkReady) w := rfl

theorem run_checkReady (w : World σ) : (statement sc env routine .checkReady).run w =
    .ok (if isState w .readyToConnect then some .setConnecting else none) w := rfl

theorem run_testCreated (w : World σ) : (statement sc env routine .testCreated).run w =
    .ok (if w.manager.peerConnection.isSome then some .setRemote else some .setFailed) w := rfl

theorem settles_none (w : World σ) : Settles sc env routine none w w :=
  ⟨0, rfl⟩

/-- The rest of a thread after a statement that returns. -/
theorem settles_of_ok {location : Location} {next : Option Location} {w w₁ w' : World σ}
    (hRun : (statement sc env routine location).run w = .ok next w₁)
    (hRest : Settles sc env routine next w₁ w') : Settles sc env routine (some location) w w' := by
  obtain ⟨n, hEnd⟩ := hRest
  refine ⟨n + 1, ?_⟩
  rw [Function.iterate_succ_apply]
  simpa [advance, hRun] using hEnd

theorem settles_of_error {location : Location} {e : Fault} {w w' : World σ}
    (hRun : (statement sc env routine location).run w = .error e w') :
    Settles sc env routine (some location) w w' := by
  refine ⟨1, ?_⟩
  simp [advance, hRun]

variable (sc env routine) in
/-- From a location, a thread alone ends as the program does. -/
def EndsAs (location : Option Location) (p : Program (World σ) Unit) : Prop :=
  ∀ w, Settles sc env routine location w (finalState (p.run w))

theorem endsAs_none : EndsAs sc env routine none (pure ()) :=
  fun w => settles_none w

/-- A statement that runs a program and goes on to a fixed next statement. -/
theorem endsAs_bind {location : Location} {next : Option Location} {p q : Program (World σ) Unit}
    (hStatement : statement sc env routine location = (p >>= fun _ => pure next))
    (hRest : EndsAs sc env routine next q) :
    EndsAs sc env routine (some location) (p >>= fun _ => q) := by
  intro w
  rw [finalState_bind]
  cases hRun : p.run w with
  | ok u w₁ =>
      refine settles_of_ok ?_ (hRest w₁)
      rw [hStatement, EStateM.run_bind, hRun]
      rfl
  | error e w₁ =>
      refine settles_of_error (e := e) ?_
      rw [hStatement, EStateM.run_bind, hRun]

/-- A statement of the `try` block. -/
theorem endsAs_try {location : Location} {next : Option Location} {p q k : Program (World σ) Unit}
    (hStatement : statement sc env routine location = inTry (p >>= fun _ => pure next))
    (hRest : EndsAs sc env routine next (catchException q >>= fun _ => k))
    (hCaught : EndsAs sc env routine (some .setReady) k) :
    EndsAs sc env routine (some location) (catchException (p >>= fun _ => q) >>= fun _ => k) := by
  intro w
  cases hRun : p.run w with
  | ok u w₁ =>
      have hSame : (catchException (p >>= fun _ => q) >>= fun _ => k).run w =
          (catchException q >>= fun _ => k).run w₁ := by
        simp only [EStateM.run_bind, catchException, recover_run, hRun]
      rw [hSame]
      refine settles_of_ok ?_ (hRest w₁)
      rw [hStatement]
      show inTry (p >>= fun _ => pure next) w = _
      rw [inTry, EStateM.run_bind, hRun]
      rfl
  | error e w₁ =>
      by_cases hException : e.isException = true
      · have hSame : (catchException (p >>= fun _ => q) >>= fun _ => k).run w = k.run w₁ := by
          simp only [EStateM.run_bind, catchException, recover_run, hRun, hException, if_true]
        rw [hSame]
        refine settles_of_ok ?_ (hCaught w₁)
        rw [hStatement]
        show inTry (p >>= fun _ => pure next) w = _
        rw [inTry, EStateM.run_bind, hRun]
        simp only [hException, if_true]
      · have hSame : (catchException (p >>= fun _ => q) >>= fun _ => k).run w = .error e w₁ := by
          simp only [EStateM.run_bind, catchException, recover_run, hRun, hException, Bool.false_eq_true,
            if_false]
        rw [hSame]
        refine settles_of_error (e := e) ?_
        rw [hStatement]
        show inTry (p >>= fun _ => pure next) w = _
        rw [inTry, EStateM.run_bind, hRun]
        simp only [hException, Bool.false_eq_true, if_false, finalState_error]

/-- A statement that only chooses the next one. -/
theorem endsAs_of_next {location : Location} {p : Program (World σ) Unit}
    {choose : World σ → Option Location}
    (hStatement : ∀ w, (statement sc env routine location).run w = .ok (choose w) w)
    (hRest : ∀ w, Settles sc env routine (choose w) w (finalState (p.run w))) :
    EndsAs sc env routine (some location) p :=
  fun w => settles_of_ok (hStatement w) (hRest w)

/-- Closing and dropping the peer connection. -/
theorem endsAs_testPeer {k : Program (World σ) Unit} (hReady : EndsAs sc env routine (some .setReady) k) :
    EndsAs sc env routine (some .testPeer)
      (catchException (closeAndDrop (pure ())) >>= fun _ => k) := by
  refine endsAs_of_next run_testPeer fun w => ?_
  cases hPeer : w.manager.peerConnection with
  | none =>
      have hSame : (catchException (closeAndDrop (pure ())) >>= fun _ => k).run w = k.run w := by
        simp [catchException, recover_run, closeAndDrop, hPeer]
      rw [hSame]
      exact hReady w
  | some peer =>
      have hSame : (catchException (closeAndDrop (pure ())) >>= fun _ => k).run w =
          k.run (dropped w) := by
        simp [catchException, recover_run, closeAndDrop, hPeer, rtcCall, assignPeerConnection, dropped]
      rw [hSame]
      have hClosed : (statement sc env routine .closePeer).run w =
          .ok (some .dropPeer) (finalState ((rtcCall (.close peer)).run w)) := by
        simp only [statement, EStateM.run_bind, EStateM.run_get, hPeer, dereference_some, EStateM.run_pure]
        rfl
      have hDropped : (statement sc env routine .dropPeer).run (finalState ((rtcCall (.close peer)).run w)) =
          .ok (some .setReady) (dropped w) := by
        simp only [statement, EStateM.run_bind, assignPeerConnection, EStateM.run_get]
        simp [hPeer, rtcCall, dropped]
      exact settles_of_ok hClosed (settles_of_ok hDropped (hReady _))

variable (sc env routine) in
/-- `ClosePeerConnection` and what follows it in its routine. -/
theorem endsAs_closePeerConnection {r : Program (World σ) Unit}
    (hAfter : EndsAs sc env routine routine.afterClose r) :
    EndsAs sc env routine (some .checkConnected)
      (closePeerConnection sc env (pure ()) >>= fun _ => r) := by
  have hReady : EndsAs sc env routine (some .setReady)
      (onConnectionDisconnected sc >>= fun _ => r) := endsAs_bind rfl hAfter
  have hBody : EndsAs sc env routine (some .setDisconnecting) (setState sc .rtcDisconnecting >>= fun _ =>
      catchException (closeHandlersAndDrop env (pure ())) >>= fun _ =>
        onConnectionDisconnected sc >>= fun _ => r) :=
    endsAs_bind rfl (endsAs_try rfl (endsAs_try rfl (endsAs_testPeer hReady) hReady) hReady)
  have hClose : ∀ w, connecting w = true →
      (closePeerConnection sc env (pure ()) >>= fun _ => r).run w =
        (setState sc .rtcDisconnecting >>= fun _ =>
          catchException (closeHandlersAndDrop env (pure ())) >>= fun _ =>
            onConnectionDisconnected sc >>= fun _ => r).run w := by
    intro w hConnecting
    rw [EStateM.run_bind, closePeerConnection_eq hConnecting, ← EStateM.run_bind]
    simp only [bind_assoc]
  have hIdle : ∀ w, connecting w = false →
      (closePeerConnection sc env (pure ()) >>= fun _ => r).run w = r.run w := by
    intro w hIdle
    rw [EStateM.run_bind, closePeerConnection_idle hIdle]
  have hSecond : ∀ w, ¬ isState w .rtcConnected = true →
      Settles sc env routine (some .checkConnecting) w
        (finalState ((closePeerConnection sc env (pure ()) >>= fun _ => r).run w)) := by
    intro w hNotConnected
    by_cases hConnecting : isState w .rtcConnecting = true
    · rw [hClose w (by simp [connecting, hConnecting])]
      refine settles_of_ok ?_ (hBody w)
      rw [run_checkConnecting, if_pos hConnecting]
    · rw [hIdle w (by simp [connecting, hNotConnected, hConnecting])]
      refine settles_of_ok ?_ (hAfter w)
      rw [run_checkConnecting, if_neg hConnecting]
  refine endsAs_of_next run_checkConnected fun w => ?_
  split_ifs with hConnected
  · rw [hClose w (by simp [connecting, hConnected])]
    exact hBody w
  · exact hSecond w hConnected

/-- **A thread alone in `ClosePeerConnection`** ends as the routine does. -/
theorem settles_closePeerConnection (w : World σ) :
    Settles sc env .closePeerConnection (some .checkConnected) w
      (finalState ((closePeerConnection sc env (pure ())).run w)) := by
  have h := endsAs_closePeerConnection sc env .closePeerConnection endsAs_none w
  simpa using h

theorem endsAs_testCreated (sdpOffer : String) (created : Bool) :
    EndsAs sc env (.handleSdpOffer sdpOffer created) (some .testCreated)
      (setRemoteDescription sc sdpOffer) := by
  refine endsAs_of_next run_testCreated fun w => ?_
  cases hPeer : w.manager.peerConnection with
  | none =>
      rw [setRemoteDescription_none hPeer]
      have hFailed : EndsAs sc env (.handleSdpOffer sdpOffer created) (some .setFailed)
          (setState sc .rtcFailed >>= fun _ => pure ()) := endsAs_bind rfl endsAs_none
      simpa using hFailed w
  | some peer =>
      rw [setRemoteDescription_some hPeer]
      refine settles_of_ok ?_ (settles_none _)
      simp only [statement, EStateM.run_bind, EStateM.run_get, hPeer, dereference_some, EStateM.run_pure]
      rfl

/-- What follows the closing of an existing connection in `HandleSdpOffer`. -/
theorem endsAs_checkReady (sdpOffer : String) (created : Bool) :
    EndsAs sc env (.handleSdpOffer sdpOffer created) (some .checkReady)
      (acceptOffer sc sdpOffer created) := by
  have hConnecting : EndsAs sc env (.handleSdpOffer sdpOffer created) (some .setConnecting)
      (setState sc .rtcConnecting >>= fun _ => createPeerConnection created >>= fun _ =>
        setRemoteDescription sc sdpOffer) :=
    endsAs_bind rfl (endsAs_bind rfl (endsAs_testCreated sdpOffer created))
  refine endsAs_of_next run_checkReady fun w => ?_
  split_ifs with hReady
  · rw [acceptOffer_ready (by simpa [isState, session] using hReady)]
    exact hConnecting w
  · rw [acceptOffer_refused (by simpa [isState, session] using hReady)]
    exact settles_none w

/-- **A thread alone in `HandleSdpOffer`** ends as the routine does. -/
theorem settles_handleSdpOffer (sdpOffer : String) (created : Bool) (w : World σ) :
    Settles sc env (.handleSdpOffer sdpOffer created) (some .testExisting) w
      (finalState ((handleSdpOffer sc env sdpOffer created .done).run w)) := by
  refine settles_of_ok (run_testExisting w) ?_
  cases hPeer : w.manager.peerConnection with
  | none =>
      rw [handleSdpOffer_none hPeer]
      exact endsAs_checkReady sdpOffer created w
  | some peer =>
      rw [handleSdpOffer_some (by rw [hPeer]; rfl)]
      exact endsAs_closePeerConnection _ _ _ (endsAs_checkReady sdpOffer created) w

/-- **A thread alone in `ShuttingDown`** ends as the routine does. -/
theorem settles_shuttingDown (w : World σ) :
    Settles sc env .shuttingDown (some .setDisconnected) w
      (finalState ((shuttingDown sc env .done).run w)) := by
  have hDestroy : EndsAs sc env .shuttingDown (some .destroyPeer) destroyPeerConnectionManager := by
    have hRest : EndsAs sc env .shuttingDown (some .destroyRest)
        (destroyFactoryAndThreads >>= fun _ => pure ()) := endsAs_bind rfl endsAs_none
    rw [bind_pure_unit] at hRest
    exact endsAs_bind rfl hRest
  have hClose := endsAs_closePeerConnection sc env .shuttingDown hDestroy
  have hStop : EndsAs sc env .shuttingDown (some .stopSignaling) (stopSignalingServer sc >>= fun _ =>
      closePeerConnection sc env (pure ()) >>= fun _ => destroyPeerConnectionManager) := by
    have hDrop : EndsAs sc env .shuttingDown (some .dropSignaling) ((modify fun w =>
        { w with manager := { w.manager with signalingClient := false } }) >>= fun _ =>
          closePeerConnection sc env (pure ()) >>= fun _ => destroyPeerConnectionManager) :=
      endsAs_bind rfl hClose
    intro w
    cases hSignaling : w.manager.signalingClient with
    | false =>
        have hSame : (stopSignalingServer sc).run w = .ok () w := by
          simp [stopSignalingServer, hSignaling]
        rw [finalState_bind, hSame]
        refine settles_of_ok ?_ (hClose w)
        simp [statement, hSignaling]
    | true =>
        have hStatement : (statement sc env .shuttingDown .stopSignaling).run w =
            (onSignaling sc.stop >>= fun _ => pure (some Location.dropSignaling)).run w := by
          simp [statement, hSignaling]
        have hSame : (stopSignalingServer sc).run w = (onSignaling sc.stop >>= fun _ => modify fun w =>
            { w with manager := { w.manager with signalingClient := false } }).run w := by
          simp [stopSignalingServer, hSignaling]
        rw [finalState_bind, hSame, EStateM.run_bind]
        cases hRun : (onSignaling sc.stop).run w with
        | ok u w₁ =>
            refine settles_of_ok ?_ (hDrop w₁)
            rw [hStatement, EStateM.run_bind, hRun]
            rfl
        | error e w₁ =>
            refine settles_of_error (e := e) ?_
            rw [hStatement, EStateM.run_bind, hRun]
  exact endsAs_bind rfl hStop w

end World
end MosaicCore
