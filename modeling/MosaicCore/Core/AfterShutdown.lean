import MosaicCore.Core.Shutdown

/-!
# A connector that has been shut down

`ShuttingDown` may leave things open, but it leaves the connector unable to do anything more.  Whatever reaches it
afterwards, an offer, a close, a registration or a second `ShuttingDown`, libwebrtc is asked for nothing, no handler
is called, and the signaling client is told at most that the state is DISCONNECTED.

Three things are taken for granted.  The send of DISCONNECTED returns; an exception of it would leave `ShuttingDown`
before anything is stopped.  `InitializeWebRTC` is not called again (`ConnectorEvent.Initialized`).  And libwebrtc, no
longer held, calls nothing back: in the runs here a completion is one of the peer connection held, and without one
nothing comes (`fromPeer`).
-/

namespace MosaicCore

open EffectProgram EventRun

/-- The events after `InitializeWebRTC`. -/
def ConnectorEvent.Initialized : ConnectorEvent → Prop
  | .initializeWebRTC _ => False
  | _ => True

namespace World

variable {σ : Type} {sc : ISignalingClient σ} {env : Environment}

/-- What a shutdown leaves: nothing of libwebrtc, and no signaling client. -/
structure Down (w : World σ) : Prop where
  state : w.stateManager.state = .disconnected
  peerConnection : w.manager.peerConnection = none
  peerConnectionObserver : w.manager.peerConnectionObserver = false
  peerConnectionFactory : w.manager.peerConnectionFactory = false
  signalingClient : w.manager.signalingClient = false
  networkThread : w.manager.networkThread = false
  workerThread : w.manager.workerThread = false
  signalingThread : w.manager.signalingThread = false

/-- `Down` is about the state and the manager. -/
theorem Down.congr {w w' : World σ} (h : Down w) (hState : w'.stateManager = w.stateManager)
    (hManager : w'.manager = w.manager) : Down w' := by
  obtain ⟨hDisconnected, hPeer, hObserver, hFactory, hClient, hNetwork, hWorker, hSignaling⟩ := h
  rw [← hManager] at hPeer hObserver hFactory hClient hNetwork hWorker hSignaling
  rw [← hState] at hDisconnected
  exact ⟨hDisconnected, hPeer, hObserver, hFactory, hClient, hNetwork, hWorker, hSignaling⟩

variable (sc) in
/-- From one object graph to the next, libwebrtc was asked for nothing, no handler was called, and of the signaling
client all remains that `SendState(DISCONNECTED)` keeps. -/
structure Silent (w w' : World σ) : Prop where
  webrtc : w'.webrtc = w.webrtc
  callbacks : w'.callbacks = w.callbacks
  channels : w'.channels.calls = w.channels.calls
  signaling : ∀ I : σ → Prop,
    (∀ s, I s → I (finalState ((sc.sendState ConnectorState.disconnected.stateToInt).run s))) →
      I w.signaling → I w'.signaling

instance isPreorder_silent : IsPreorder (World σ) (Silent sc) where
  refl _ := ⟨rfl, rfl, rfl, fun _ _ h => h⟩
  trans _ _ _ hFirst hSecond :=
    ⟨hSecond.webrtc.trans hFirst.webrtc, hSecond.callbacks.trans hFirst.callbacks,
      hSecond.channels.trans hFirst.channels, fun I hSend h =>
        hSecond.signaling I hSend (hFirst.signaling I hSend h)⟩

/-! ## Getting there -/

theorem stopSignalingServer_ends (hSends : sc.NeverFaults) (w : World σ) :
    Ends (stopSignalingServer sc) w fun _ w' =>
      session w' = session w ∧ w'.manager.signalingClient = false := by
  cases hClient : w.manager.signalingClient with
  | false => exact ⟨(), w, by simp [stopSignalingServer, hClient], rfl, hClient⟩
  | true =>
      have hRun : (stopSignalingServer sc).run w = (onSignaling sc.stop >>= fun _ =>
          modify fun w => { w with manager := { w.manager with signalingClient := false } }).run w := by
        simp [stopSignalingServer, hClient]
      have hStop : NeverFaults (onSignaling sc.stop : Program (World σ) Unit) := neverFaults_zoom hSends.stop
      refine Ends.congr_run hRun (ends_bind ((hStop.ends (keepsSession_onSignaling _) w).imp fun _ w₁ hKept => ?_))
      exact ends_modify ⟨hKept, rfl⟩

/-- Stopping a thread resets its pointer, and nothing else but the log of calls changes. -/
theorem stopThread_ends (thread : RtcThread) {view : PeerConnectionManager → Bool}
    {reset : PeerConnectionManager → PeerConnectionManager} (hReset : ∀ m, view m = false → reset m = m)
    (w : World σ) :
    Ends (stopThread thread view reset) w fun _ w' =>
      w'.stateManager = w.stateManager ∧ w'.manager = reset w.manager := by
  cases hThread : view w.manager with
  | false => exact ⟨(), w, by simp [stopThread, hThread], rfl, (hReset _ hThread).symm⟩
  | true =>
      refine ⟨(), _, by simp [stopThread, hThread, rtcCall]; rfl, ?_⟩
      exact ⟨rfl, rfl⟩

theorem destroyFactoryAndThreads_ends (w : World σ) :
    Ends destroyFactoryAndThreads w fun _ w' =>
      w'.stateManager = w.stateManager ∧ w'.manager =
        { w.manager with
          peerConnectionObserver := false, peerConnectionFactory := false
          networkThread := false, workerThread := false, signalingThread := false } := by
  refine ends_bind (ends_modify ?_)
  refine ends_bind ((stopThread_ends .network (fun m h => ?_) _).imp fun _ w₁ h₁ => ?_)
  · cases m
    cases h
    rfl
  refine ends_bind ((stopThread_ends .worker (fun m h => ?_) w₁).imp fun _ w₂ h₂ => ?_)
  · cases m
    cases h
    rfl
  refine (stopThread_ends .signaling (fun m h => ?_) w₂).imp fun _ w₃ h₃ => ?_
  · cases m
    cases h
    rfl
  refine ⟨h₃.1.trans (h₂.1.trans h₁.1), ?_⟩
  rw [h₃.2, h₂.2, h₁.2]

/-- **`ShuttingDown` returns, from any state, and nothing is left to act with.** -/
theorem shuttingDown_ends (hSends : sc.NeverFaults) (w : World σ) (inside : Reentry) :
    Ends (shuttingDown sc env inside) w fun _ w' => Down w' := by
  refine ends_bind ((setState_ends hSends .disconnected w).imp fun _ w₁ hSet => ?_)
  refine ends_bind ((stopSignalingServer_ends hSends w₁).imp fun _ w₂ hStop => ?_)
  have hState : (session w₂).state = .disconnected := by rw [hStop.1, hSet]
  have hIdle : connecting w₂ = false := connecting_eq_false .disconnected hState (by decide)
  refine ends_bind ⟨(), w₂, closePeerConnection_idle hIdle _, ?_⟩
  -- Dropping the reference keeps the state and the pointer to the signaling client.
  have hDrop : Ends (assignPeerConnection none) w₂ fun _ w₃ =>
      w₃.stateManager = w₂.stateManager ∧ w₃.manager = { w₂.manager with peerConnection := none } := by
    cases hHeld : w₂.manager.peerConnection with
    | none =>
        refine ⟨(), _, by simp [assignPeerConnection, hHeld]; rfl, ?_⟩
        exact ⟨rfl, rfl⟩
    | some old =>
        refine ⟨(), _, by simp [assignPeerConnection, hHeld, rtcCall]; rfl, ?_⟩
        exact ⟨rfl, rfl⟩
  refine ends_bind (hDrop.imp fun _ w₃ hDropped => ?_)
  refine (destroyFactoryAndThreads_ends w₃).imp fun _ w₄ hDestroyed => ?_
  have hManager : w₄.manager = _ := hDestroyed.2
  rw [hDropped.2] at hManager
  refine ⟨?_, by rw [hManager], by rw [hManager], by rw [hManager], ?_, by rw [hManager], by rw [hManager],
    by rw [hManager]⟩
  · rw [hDestroyed.1, hDropped.1]
    exact hState
  · rw [hManager]
    exact hStop.2

/-! ## Staying there -/

variable (sc) in
/-- A connector that is down stays down, and silent. -/
def StaysDown (w w' : World σ) : Prop :=
  Down w → Silent sc w w' ∧ Down w'

instance isPreorder_staysDown : IsPreorder (World σ) (StaysDown sc) where
  refl w hDown := ⟨Std.Refl.refl w, hDown⟩
  trans _ _ _ hFirst hSecond hDown := by
    obtain ⟨hSilent, hDown₁⟩ := hFirst hDown
    obtain ⟨hSilent₁, hDown₂⟩ := hSecond hDown₁
    exact ⟨IsTrans.trans _ _ _ hSilent hSilent₁, hDown₂⟩

/-- What keeps the state, the manager, libwebrtc, the handlers' calls and the signaling client. -/
theorem staysDown_of_eq {w w' : World σ} (hState : w'.stateManager = w.stateManager)
    (hManager : w'.manager = w.manager) (hWebRtc : w'.webrtc = w.webrtc) (hCallbacks : w'.callbacks = w.callbacks)
    (hChannels : w'.channels.calls = w.channels.calls) (hSignaling : w'.signaling = w.signaling) :
    StaysDown sc w w' := by
  intro hDown
  refine ⟨⟨hWebRtc, hCallbacks, hChannels, fun I _ h => by rwa [hSignaling]⟩, ?_⟩
  exact hDown.congr hState hManager

theorem staysDown_sendState : Within (StaysDown sc) (sendState sc) := by
  intro w hDown
  cases hClient : w.stateManager.signalingClient with
  | false =>
      have hRun : (sendState sc).run w = .ok () w := by simp [sendState, hClient]
      rw [hRun]
      exact ⟨Std.Refl.refl w, hDown⟩
  | true =>
      have hRun : (sendState sc).run w =
          (onSignaling (sc.sendState ConnectorState.disconnected.stateToInt)).run w := by
        simp [sendState, hClient, hDown.state]
      rw [hRun, onSignaling, finalState_zoom]
      exact ⟨⟨rfl, rfl, rfl, fun I hSend h => hSend _ h⟩, hDown.congr rfl rfl⟩

/-- A second shutdown finds nothing to stop, close, drop or destroy. -/
theorem staysDown_shuttingDown (inside : Reentry) : Within (StaysDown sc) (shuttingDown sc env inside) := by
  apply within_shuttingDown
  · refine within_setState (fun w hDown => ?_) staysDown_sendState
    exact ⟨⟨rfl, rfl, rfl, fun _ _ h => h⟩, { hDown with state := rfl }⟩
  · intro w hDown
    have hRun : (stopSignalingServer sc).run w = .ok () w := by simp [stopSignalingServer, hDown.signalingClient]
    rw [hRun]
    exact ⟨Std.Refl.refl w, hDown⟩
  · intro w hDown
    rw [closePeerConnection_idle (connecting_eq_false .disconnected hDown.state (by decide))]
    exact ⟨Std.Refl.refl w, hDown⟩
  · intro w hDown
    have hRun : (assignPeerConnection none).run w =
        .ok () { w with manager := { w.manager with peerConnection := none } } := by
      simp [assignPeerConnection, hDown.peerConnection]
    rw [hRun]
    exact ⟨⟨rfl, rfl, rfl, fun _ _ h => h⟩, { hDown with peerConnection := rfl }⟩
  · intro w hDown
    have hRun : (destroyFactoryAndThreads).run w = .ok () { w with manager :=
        { w.manager with peerConnectionObserver := false, peerConnectionFactory := false } } := by
      simp [destroyFactoryAndThreads, stopThread, hDown.networkThread, hDown.workerThread, hDown.signalingThread]
    rw [hRun]
    exact ⟨⟨rfl, rfl, rfl, fun _ _ h => h⟩,
      { hDown with peerConnectionObserver := rfl, peerConnectionFactory := rfl }⟩

/-- Every event finds the connector down, and leaves it down and silent. -/
theorem down_step {w : World σ} {event : ConnectorEvent} (hEvent : event.Initialized) :
    StaysDown sc w (step sc env w event) := by
  intro hDown
  have hNotReady : (session w).state ≠ .readyToConnect := by
    show w.stateManager.state ≠ .readyToConnect
    rw [hDown.state]
    simp
  have hIdle : connecting w = false := connecting_eq_false .disconnected hDown.state (by decide)
  have hStay {w' : World σ} (hSame : w' = w) : Silent sc w w' ∧ Down w' := by
    rw [hSame]
    exact ⟨Std.Refl.refl w, hDown⟩
  cases event with
  | initializeWebRTC factory => exact absurd hEvent id
  | addDataChannelHandler label =>
      have hAdd : Within (StaysDown sc) (addDataChannelHandler label : Program (World σ) Unit) :=
        within_addDataChannelHandler fun _ => staysDown_of_eq rfl rfl rfl rfl rfl rfl
      exact hAdd w hDown
  | addMediaTrackHandler trackName handler =>
      have hAdd : Within (StaysDown sc) (addMediaTrackHandler trackName handler : Program (World σ) Unit) :=
        within_addMediaTrackHandler fun _ => staysDown_of_eq rfl rfl rfl rfl rfl rfl
      exact hAdd w hDown
  | sdpOffer sdpOffer created inside =>
      refine hStay ?_
      show finalState ((handleSdpOffer sc env sdpOffer created inside).run w) = w
      rw [handleSdpOffer_none hDown.peerConnection, acceptOffer_refused hNotReady]
      rfl
  | closeMessage inside =>
      refine hStay ?_
      show finalState ((closePeerConnection sc env (deliver sc env inside)).run w) = w
      rw [closePeerConnection_idle hIdle]
      rfl
  | iceCandidateMessage candidate =>
      exact hStay (by simp [step, handle, handleIceCandidateFromSignaling, hDown.peerConnection])
  | complete completion => exact hStay (congrArg finalState (fromPeer_none hDown.peerConnection _))
  | connectionChange newState inside => exact hStay (congrArg finalState (fromPeer_none hDown.peerConnection _))
  | iceCandidate candidate => exact hStay (congrArg finalState (fromPeer_none hDown.peerConnection _))
  | dataChannel label => exact hStay (congrArg finalState (fromPeer_none hDown.peerConnection _))
  | channelState channel state => exact staysDown_of_eq rfl rfl rfl rfl rfl rfl hDown
  | stateBroadcast => exact staysDown_sendState w hDown
  | shuttingDown inside => exact staysDown_shuttingDown inside w hDown

theorem down_run {w : World σ} {events : List ConnectorEvent} (hEvents : ∀ event ∈ events, event.Initialized) :
    StaysDown sc w (run (step sc env) w events) := by
  intro hDown
  refine run_invariant (I := fun w' => Silent sc w w' ∧ Down w') (A := ConnectorEvent.Initialized)
    (fun w' event hEvent h => ?_) ⟨Std.Refl.refl w, hDown⟩ hEvents
  obtain ⟨hSilent, hDown'⟩ := down_step hEvent h.2
  exact ⟨IsTrans.trans _ _ _ h.1 hSilent, hDown'⟩

/-- **A shut-down connector is down for good.**  Where sends return, from whatever state `ShuttingDown` is called in:
in every run afterwards in which `InitializeWebRTC` is not called again and libwebrtc calls nothing back, the state
stays DISCONNECTED with nothing held, libwebrtc is asked for nothing more, no handler is called, and the signaling
client sees nothing but `SendState(DISCONNECTED)`. -/
theorem shutdown_is_final (hSends : sc.NeverFaults) (w : World σ) (inside : Reentry) {events : List ConnectorEvent}
    (hEvents : ∀ event ∈ events, event.Initialized) :
    let stopped := step sc env w (.shuttingDown inside)
    let later := run (step sc env) stopped events
    Down later ∧ Silent sc stopped later := by
  intro stopped later
  have hEnds : Ends (shuttingDown sc env inside) w fun _ w' => Down w' := shuttingDown_ends hSends w inside
  obtain ⟨_, hDown⟩ := hEnds.finalState
  have hLater : Silent sc stopped later ∧ Down later := down_run hEvents hDown
  exact ⟨hLater.2, hLater.1⟩

/-- A shutdown in the middle of a session, and an offer, a close and a second shutdown after it. -/
theorem shutdown_is_final_late_offer :
    let sc := ISignalingClient.offline
    let live := run (step sc .calm) (wired () (fun _ => .kOpen) [])
      [.initializeWebRTC true, .sdpOffer "v=0" true .done, .connectionChange .kConnected .done]
    let stopped := step sc .calm live (.shuttingDown .done)
    let later := run (step sc .calm) stopped
      [.sdpOffer "v=1" true .done, .closeMessage .done, .shuttingDown .done]
    Down later ∧ Silent sc stopped later :=
  shutdown_is_final ISignalingClient.neverFaults_offline _ .done (by simp [ConnectorEvent.Initialized])

end World

end MosaicCore
