import MosaicCore.Core.HandlerSide
import MosaicCore.Core.Lifecycle

/-!
# What `ShuttingDown` leaves open

`ShuttingDown` sets the state to DISCONNECTED first, so the guard of the `ClosePeerConnection` it then calls
always fails: no handler is closed, and `DestroyPeerConnectionManager` drops the peer connection without
closing it.  A shutdown is therefore complete exactly when there was nothing to close.

* `Session.Sound` holds in every run, whatever throws: the peer connection held has neither been closed nor
  released.
* Over a run in which nothing throws, there is something to close exactly while a session is live
  (`nothingOpen_iff_not_connecting`).
-/

namespace MosaicCore

open EffectProgram EventRun

/-- The calls closed or released the peer connection. -/
def Ended (calls : List PeerCall) (peer : Nat) : Prop :=
  PeerCall.closed peer ∈ calls ∨ PeerCall.released peer ∈ calls

theorem ended_append {calls more : List PeerCall} {peer : Nat} :
    Ended (calls ++ more) peer ↔ Ended calls peer ∨ Ended more peer := by
  simp only [Ended, List.mem_append]
  tauto

theorem ended_release {held : Option Nat} {peer : Nat} :
    Ended (held.toList.map .released) peer ↔ held = some peer := by
  cases held <;> simp [Ended, eq_comm]

theorem ended_close {held : Option Nat} {peer : Nat} :
    Ended (held.toList.flatMap fun p => [.closed p, .released p]) peer ↔ held = some peer := by
  cases held <;> simp [Ended, eq_comm]

/-- The peer connection held has been neither closed nor released, and whatever was has been created. -/
structure Session.Sound (s : Session) : Prop where
  held_lt : ∀ peer, s.peerConnection = some peer → peer < s.created
  held : ∀ peer, s.peerConnection = some peer → ¬ Ended s.calls peer
  past : ∀ peer, Ended s.calls peer → peer < s.created

namespace Session

theorem Sound.setState {s : Session} (h : s.Sound) (state : ConnectorState) :
    ({ s with state := state } : Session).Sound :=
  ⟨h.held_lt, h.held, h.past⟩

/-- Giving up the reference, by calls that end just the peer connection held. -/
theorem Sound.drop {s : Session} (h : s.Sound) {more : List PeerCall}
    (hMore : ∀ peer, Ended more peer ↔ s.peerConnection = some peer) (state : ConnectorState)
    (factory : Bool) :
    Sound ⟨state, factory, none, s.created, s.calls ++ more⟩ where
  held_lt := fun peer hHeld => by simp at hHeld
  held := fun peer hHeld => by simp at hHeld
  past := by
    intro peer hEnded
    rcases ended_append.mp hEnded with hOld | hNew
    · exact h.past peer hOld
    · exact h.held_lt peer ((hMore peer).mp hNew)

theorem Sound.closed {s : Session} (h : s.Sound) : s.closed.Sound :=
  h.drop (fun _ => ended_close) .readyToConnect s.peerConnectionFactory

/-- A new peer connection over whatever was held. -/
theorem Sound.opened {s : Session} (h : s.Sound) : s.opened.Sound := by
  have hCalls : ∀ peer, Ended s.opened.calls peer → peer < s.created := by
    intro peer hEnded
    rcases ended_append.mp hEnded with hOld | hRelease
    · rcases ended_append.mp hOld with hOlder | hCreated
      · exact h.past peer hOlder
      · simp [Ended] at hCreated
    · exact h.held_lt peer (ended_release.mp hRelease)
  refine ⟨fun peer hHeld => ?_, fun peer hHeld hEnded => ?_, fun peer hEnded => ?_⟩
  · cases hHeld
    exact Nat.lt_succ_self _
  · cases hHeld
    exact absurd (hCalls _ hEnded) (Nat.lt_irrefl _)
  · exact Nat.lt_succ_of_lt (hCalls peer hEnded)

end Session

namespace World

variable {σ : Type} {sc : ISignalingClient σ} {env : Environment}

/-! ## In every run, whatever throws -/

/-- The routine keeps the session sound. -/
def KeepsSound (p : Program (World σ) Unit) : Prop :=
  Within (fun w w' => (session w).Sound → (session w').Sound) p

theorem KeepsSession.keepsSound {p : Program (World σ) Unit} (h : KeepsSession p) : KeepsSound p :=
  h.mono fun w w' hSame hSound => by rwa [hSame]

theorem keepsSound_setState (newState : ConnectorState) : KeepsSound (setState sc newState) := by
  intro w hSound
  rw [session_setState]
  exact hSound.setState newState

theorem keepsSound_closePeerConnection (inside : Reentry) :
    KeepsSound (closePeerConnection sc env (deliver sc env inside)) := by
  intro w hSound
  cases hConnecting : connecting w with
  | false =>
      rw [closePeerConnection_idle hConnecting]
      exact hSound
  | true =>
      rcases session_closePeerConnection sc env hConnecting inside with h | h | h
      · rw [h]
        exact hSound.setState _
      · rw [h]
        exact hSound.setState _
      · rw [h]
        exact hSound.closed

theorem keepsSound_createPeerConnection (created : Bool) :
    KeepsSound (createPeerConnection created : Program (World σ) Unit) := by
  intro w hSound
  rcases session_createPeerConnection created w with hSame | ⟨-, -, hOpened⟩
  · rw [hSame]
    exact hSound
  · rw [hOpened]
    exact hSound.opened

theorem keepsSound_acceptOffer (sdpOffer : String) (created : Bool) :
    KeepsSound (acceptOffer sc sdpOffer created) := by
  have hRemote : KeepsSound (setRemoteDescription sc sdpOffer) :=
    within_setRemoteDescription (keepsSound_setState _) (fun _ => (keepsSession_rtcCall rfl).keepsSound)
      fun _ => (keepsSession_rtcStart _ _).keepsSound
  exact within_acceptOffer (keepsSound_setState _) (keepsSound_createPeerConnection _) hRemote

theorem keepsSound_handleSdpOffer (sdpOffer : String) (created : Bool) (inside : Reentry) :
    KeepsSound (handleSdpOffer sc env sdpOffer created inside) :=
  within_handleSdpOffer (keepsSound_closePeerConnection _) (keepsSound_acceptOffer _ _)

/-- Dropping the reference. -/
theorem session_assignPeerConnection_none (w : World σ) :
    session (finalState ((assignPeerConnection none).run w)) =
      { session w with
        peerConnection := none
        calls := (session w).calls ++ (session w).peerConnection.toList.map .released } := by
  cases hPeer : w.manager.peerConnection with
  | none => simp [assignPeerConnection, hPeer, session]
  | some peer => simp [assignPeerConnection, hPeer, session, rtcCall, peerCall]

theorem keepsSession_stopThread (thread : RtcThread) (view : PeerConnectionManager → Bool)
    (reset : PeerConnectionManager → PeerConnectionManager)
    (hReset : ∀ m, (reset m).peerConnection = m.peerConnection ∧
      (reset m).peerConnectionFactory = m.peerConnectionFactory) :
    KeepsSession (stopThread thread view reset : Program (World σ) Unit) :=
  within_stopThread (keepsSession_rtcCall rfl) fun w => by simp [session, hReset]

/-- What is destroyed after the peer connection is, for the session, the factory. -/
theorem session_destroyFactoryAndThreads (w : World σ) :
    session (finalState ((destroyFactoryAndThreads : Program (World σ) Unit).run w)) =
      { session w with peerConnectionFactory := false } := by
  have hThreads : KeepsSession (stopThread .network (·.networkThread)
      (fun m => { m with networkThread := false }) >>= fun _ =>
        stopThread .worker (·.workerThread) (fun m => { m with workerThread := false }) >>= fun _ =>
          stopThread .signaling (·.signalingThread) fun m => { m with signalingThread := false } :
            Program (World σ) Unit) := by
    apply within_bind
    · exact keepsSession_stopThread _ _ _ fun _ => ⟨rfl, rfl⟩
    intro _
    apply within_bind
    · exact keepsSession_stopThread _ _ _ fun _ => ⟨rfl, rfl⟩
    intro _
    exact keepsSession_stopThread _ _ _ fun _ => ⟨rfl, rfl⟩
  exact hThreads { w with manager :=
    { w.manager with peerConnectionObserver := false, peerConnectionFactory := false } }

theorem keepsSession_stopSignalingServer : KeepsSession (stopSignalingServer sc) :=
  within_stopSignalingServer (keepsSession_onSignaling _) fun _ => rfl

theorem keepsSound_shuttingDown (inside : Reentry) : KeepsSound (shuttingDown sc env inside) := by
  apply within_shuttingDown
  · exact keepsSound_setState _
  · exact keepsSession_stopSignalingServer.keepsSound
  · exact keepsSound_closePeerConnection _
  · intro w hSound
    rw [session_assignPeerConnection_none]
    exact hSound.drop (fun _ => ended_release) _ _
  · intro w hSound
    rw [session_destroyFactoryAndThreads]
    exact ⟨hSound.held_lt, hSound.held, hSound.past⟩

/-- Every event keeps the session sound. -/
theorem sound_step (w : World σ) (event : ConnectorEvent) (hSound : (session w).Sound) :
    (session (step sc env w event)).Sound := by
  have hKeeps : KeepsSound (handle sc env event) := by
    cases event with
    | initializeWebRTC factory =>
        apply within_bind
        · exact within_modify fun w hSound => ⟨hSound.held_lt, hSound.held, hSound.past⟩
        intro _
        exact keepsSound_setState _
    | addDataChannelHandler label => exact keepsSession_addDataChannelHandler.keepsSound
    | addMediaTrackHandler trackName handler => exact keepsSession_addMediaTrackHandler.keepsSound
    | sdpOffer sdpOffer created inside => exact keepsSound_handleSdpOffer _ _ _
    | closeMessage inside => exact keepsSound_closePeerConnection _
    | iceCandidateMessage candidate => exact keepsSession_handleIceCandidate.keepsSound
    | complete completion => exact (keepsSession_complete _).keepsSound
    | connectionChange newState inside =>
        apply within_fromPeer
        intro _
        exact within_onConnectionChange (keepsSound_setState _) (keepsSound_closePeerConnection _)
    | iceCandidate candidate => exact keepsSession_iceCandidate.keepsSound
    | dataChannel label => exact keepsSession_deliverDataChannel.keepsSound
    | channelState channel state => exact within_modify fun _ => id
    | stateBroadcast => exact keepsSession_sendState.keepsSound
    | shuttingDown inside => exact keepsSound_shuttingDown _
  exact hKeeps w hSound

/-- **A peer connection held was never closed or released**, in any run from the factory on. -/
theorem sound_run (signaling : σ) (states : Nat → DataState) (iceServers : List IceServerConfig)
    (events : List ConnectorEvent) :
    (session (run (step sc env) (wired signaling states iceServers) events)).Sound := by
  refine run_invariant (I := fun w => (session w).Sound) (A := fun _ => True)
    (fun w event _ => sound_step w event) ⟨?_, ?_, ?_⟩ fun _ _ => trivial
  · intro peer hHeld
    cases hHeld
  · intro peer hHeld
    cases hHeld
  · intro peer hEnded
    simp [Ended, wired, session] at hEnded

/-! ## Runs in which nothing throws -/

/-- A lifecycle with what its handlers have open: outside a session everything is tidy. -/
structure Settled (l : Lifecycle) (w : World σ) : Prop where
  represents : Represents l w
  registered : Registered w
  tidy : l.current = none → Tidy w

theorem settled_started (signaling : σ) (states : Nat → DataState) (iceServers : List IceServerConfig) :
    Settled {} (started sc env signaling states iceServers) := by
  have hTidy : Tidy (started sc env signaling states iceServers) := by
    refine Tidy.congr (w := wired signaling states iceServers)
      (keepsHandlers_initializeWebRTC true _) ⟨fun _ => rfl, fun label impl hFind => ?_⟩
    simp [wired] at hFind
  exact ⟨session_started signaling states iceServers, hTidy.registered, fun _ => hTidy⟩

/-- Closing tidies up. -/
theorem settled_close (hSends : sc.NeverFaults) (hHandlers : env.NeverThrows) {l : Lifecycle}
    {w : World σ} (h : Settled l w) (inside : Reentry) :
    Ends (closePeerConnection sc env (deliver sc env inside)) w fun _ w' =>
      Represents l.finish w' ∧ Tidy w' := by
  refine (represents_close hSends hHandlers h.represents inside).and ?_
  cases hLive : l.current with
  | none =>
      have hIdle : connecting w = false := by rw [h.represents.connecting, hLive]; rfl
      exact ⟨(), w, closePeerConnection_idle hIdle _, h.tidy hLive⟩
  | some peer =>
      have hConnecting : connecting w = true := by rw [h.represents.connecting, hLive]; rfl
      exact closePeerConnection_tidy hSends hHandlers h.registered hConnecting inside

/-- An offer tidies up the session before it. -/
theorem tidy_offer (hSends : sc.NeverFaults) (hHandlers : env.NeverThrows) {l : Lifecycle}
    {w : World σ} (h : Settled l w) (sdpOffer : String) (created : Bool) (inside : Reentry) :
    Tidy (finalState ((handleSdpOffer sc env sdpOffer created inside).run w)) := by
  have hHeld : w.manager.peerConnection = l.current :=
    congrArg Session.peerConnection h.represents
  cases hLive : l.current with
  | none =>
      rw [handleSdpOffer_none (hHeld.trans hLive)]
      exact (h.tidy hLive).congr (keepsHandlers_acceptOffer _ _ w)
  | some peer =>
      rw [handleSdpOffer_some (by rw [hHeld, hLive]; rfl), finalState_bind]
      obtain ⟨_, w₁, hRun, _, hTidy⟩ := settled_close hSends hHandlers h inside
      rw [hRun]
      exact hTidy.congr (keepsHandlers_acceptOffer _ _ w₁)

theorem settled_of_keepsHandlers {l : Lifecycle} {w w' : World σ} (h : Settled l w)
    (hRepresents : Represents l w') (hSame : handlerSide w' = handlerSide w) : Settled l w' :=
  ⟨hRepresents, h.registered.congr hSame, fun hNone => (h.tidy hNone).congr hSame⟩

/-- What a released peer connection reports goes nowhere. -/
theorem tidy_fromPeer_none {w : World σ} (h : Tidy w) (hNone : w.manager.peerConnection = none)
    (p : Nat → Program (World σ) Unit) : Tidy (finalState ((fromPeer p).run w)) := by
  rw [fromPeer_none hNone]
  exact h

/-- A data channel handler is registered without a channel. -/
theorem tidy_addDataChannelHandler {w : World σ} (h : Tidy w) (label : String) :
    Tidy (step sc env w (.addDataChannelHandler label)) := by
  cases hFind : w.connector.dataChannelHandlersDict.find? label with
  | some impl =>
      have hRun : step sc env w (.addDataChannelHandler label) = w := by
        simp [step, handle, addDataChannelHandler, hFind]
      rw [hRun]
      exact h
  | none =>
      have hRun : step sc env w (.addDataChannelHandler label) =
          { w with connector :=
              { w.connector with
                dataChannelHandlersDict :=
                  w.connector.dataChannelHandlersDict.insert label { label := label } } } := by
        simp [step, handle, addDataChannelHandler, hFind]
      rw [hRun]
      refine ⟨h.sources, fun other impl hOther => ?_⟩
      rw [OrderedMap.find?_insert, hFind] at hOther
      by_cases hSame : other = label
      · rw [if_pos hSame] at hOther
        cases hOther
        rfl
      · rw [if_neg hSame] at hOther
        exact h.channels other impl hOther

theorem tidy_addMediaTrackHandler {w : World σ} (h : Tidy w) (trackName : String)
    (handler : MediaTrackHandler) : Tidy (step sc env w (.addMediaTrackHandler trackName handler)) := by
  cases hFind : w.connector.mediaTrackHandlersDict.find? trackName with
  | some old =>
      have hRun : step sc env w (.addMediaTrackHandler trackName handler) = w := by
        simp [step, handle, addMediaTrackHandler, hFind]
      rw [hRun]
      exact h
  | none =>
      have hRun : step sc env w (.addMediaTrackHandler trackName handler) =
          { w with connector :=
              { w.connector with
                mediaTrackHandlersDict :=
                  w.connector.mediaTrackHandlersDict.insert trackName handler } } := by
        simp [step, handle, addMediaTrackHandler, hFind]
      rw [hRun]
      exact ⟨h.sources, h.channels⟩

/-- A state change of the peer connection: the three that end the session close, and the others leave
the handlers alone. -/
theorem settled_connectionChange (hSends : sc.NeverFaults) (hHandlers : env.NeverThrows)
    {l : Lifecycle} {w : World σ} (h : Settled l w) (newState : PeerConnectionState)
    (inside : Reentry) :
    Settled (l.next (ConnectorEvent.connectionChange newState inside).lifecycleEvent)
      (step sc env w (.connectionChange newState inside)) := by
  obtain ⟨_, hNext⟩ :=
    (represents_connectionChange hSends hHandlers h.represents newState inside).finalState
  change Represents _ (step sc env w (.connectionChange newState inside)) at hNext
  have hHeld : w.manager.peerConnection = l.current :=
    congrArg Session.peerConnection h.represents
  cases hLive : l.current with
  | none =>
      have hRun : step sc env w (.connectionChange newState inside) = w :=
        congrArg finalState (fromPeer_none (hHeld.trans hLive) _)
      rw [hRun] at hNext ⊢
      exact ⟨hNext, h.registered, fun _ => h.tidy hLive⟩
  | some peer =>
      have hRun : step sc env w (.connectionChange newState inside) =
          finalState ((onConnectionChange sc env newState (deliver sc env inside)).run w) :=
        congrArg finalState (fromPeer_some (hHeld.trans hLive) _)
      cases newState with
      | kNew => exact settled_of_keepsHandlers h hNext (by rw [hRun]; rfl)
      | kConnecting => exact settled_of_keepsHandlers h hNext (by rw [hRun]; rfl)
      | kConnected =>
          have hSame : handlerSide (step sc env w (.connectionChange .kConnected inside)) =
              handlerSide w := by
            rw [hRun]
            exact keepsHandlers_setState _ w
          refine ⟨hNext, h.registered.congr hSame, fun hNone => (h.tidy ?_).congr hSame⟩
          exact l.current_next_connected.symm.trans hNone
      | ended state =>
          obtain ⟨_, _, hTidy⟩ := (settled_close hSends hHandlers h inside).finalState
          have hEnd : Tidy (step sc env w (.connectionChange (.ended state) inside)) := by
            rw [hRun]
            cases state <;> exact hTidy
          exact ⟨hNext, hEnd.registered, fun _ => hEnd⟩

/-- One event. -/
theorem settled_step (hSends : sc.NeverFaults) (hHandlers : env.NeverThrows) {l : Lifecycle}
    {w : World σ} {event : ConnectorEvent} (hEvent : event.InSession) (h : Settled l w) :
    Settled (l.next event.lifecycleEvent) (step sc env w event) := by
  have hNext := represents_step hSends hHandlers hEvent h.represents
  have hRegistered := registered_step sc env h.registered event
  have hHeld : w.manager.peerConnection = l.current :=
    congrArg Session.peerConnection h.represents
  cases event with
  | initializeWebRTC factory => exact absurd hEvent id
  | shuttingDown inside => exact absurd hEvent id
  | addDataChannelHandler label =>
      exact ⟨hNext, hRegistered, fun hNone => tidy_addDataChannelHandler (h.tidy hNone) label⟩
  | addMediaTrackHandler trackName handler =>
      refine ⟨hNext, hRegistered, fun hNone => ?_⟩
      exact tidy_addMediaTrackHandler (h.tidy hNone) trackName handler
  | sdpOffer sdpOffer created inside =>
      have hTidy := tidy_offer hSends hHandlers h sdpOffer created inside
      exact ⟨hNext, hTidy.registered, fun _ => hTidy⟩
  | closeMessage inside =>
      obtain ⟨_, _, hTidy⟩ := (settled_close hSends hHandlers h inside).finalState
      exact ⟨hNext, hTidy.registered, fun _ => hTidy⟩
  | iceCandidateMessage candidate =>
      exact settled_of_keepsHandlers h hNext (keepsHandlers_handleIceCandidate candidate w)
  | complete completion =>
      refine ⟨hNext, hRegistered, fun hNone => ?_⟩
      exact tidy_fromPeer_none (h.tidy hNone) (hHeld.trans hNone) _
  | connectionChange newState inside =>
      exact settled_connectionChange hSends hHandlers h newState inside
  | iceCandidate candidate =>
      exact settled_of_keepsHandlers h hNext (keepsHandlers_iceCandidate candidate w)
  | dataChannel label =>
      refine ⟨hNext, hRegistered, fun hNone => ?_⟩
      exact tidy_fromPeer_none (h.tidy hNone) (hHeld.trans hNone) _
  | channelState channel state =>
      exact ⟨hNext, h.registered, fun hNone => ⟨(h.tidy hNone).sources, (h.tidy hNone).channels⟩⟩
  | stateBroadcast => exact settled_of_keepsHandlers h hNext (keepsHandlers_sendState w)

theorem settled_run (hSends : sc.NeverFaults) (hHandlers : env.NeverThrows) {l : Lifecycle}
    {w : World σ} (h : Settled l w) {events : List ConnectorEvent}
    (hEvents : ∀ event ∈ events, event.InSession) :
    Settled (run Lifecycle.next l (events.map ConnectorEvent.lifecycleEvent))
      (run (step sc env) w events) :=
  run_simulation (R := fun w l => Settled l w) (A := ConnectorEvent.InSession)
    (fun _ _ _ hEvent hw => settled_step hSends hHandlers hEvent hw) h hEvents

/-! ## The shutdown -/

/-- The shutdown that led from `w` to `w'` is complete: every source is closed, every channel that was
bound to a handler was closed, the peer connection that was held was closed before its reference was
given up, and the state is DISCONNECTED. -/
structure ShutdownComplete (w w' : World σ) : Prop where
  sources : ∀ trackName, sourceOpen trackName w'.callbacks = false
  channels : ∀ label impl channel,
    w.connector.dataChannelHandlersDict.find? label = some impl → impl.dcInterface = some channel →
      .close channel ∈ w'.channels.calls
  peer : ∀ peer, w.manager.peerConnection = some peer →
    (session w').calls.idxOf (.closed peer) < (session w').calls.idxOf (.released peer)
  state : w'.stateManager.state = .disconnected

/-- There is nothing to close: no source is open, every bound channel has been closed already, and no
peer connection is held. -/
structure NothingOpen (w : World σ) : Prop where
  sources : ∀ trackName, sourceOpen trackName w.callbacks = false
  channels : ∀ label impl channel,
    w.connector.dataChannelHandlersDict.find? label = some impl → impl.dcInterface = some channel →
      .close channel ∈ w.channels.calls
  peer : w.manager.peerConnection = none

/-- A shutdown that returns has closed nothing: it has only dropped the peer connection. -/
theorem shuttingDown_returns {w w' : World σ} {inside : Reentry}
    (hRun : (shuttingDown sc env inside).run w = .ok () w') :
    handlerSide w' = handlerSide w ∧ session w' =
      { state := .disconnected
        peerConnectionFactory := false
        peerConnection := none
        created := (session w).created
        calls := (session w).calls ++ (session w).peerConnection.toList.map .released } := by
  obtain ⟨_, w₁, hSet, hRest⟩ := run_bind_eq_ok.mp hRun
  obtain ⟨_, w₂, hStop, hRest⟩ := run_bind_eq_ok.mp hRest
  obtain ⟨_, w₃, hClose, hRest⟩ := run_bind_eq_ok.mp hRest
  obtain ⟨_, w₄, hDrop, hDestroy⟩ := run_bind_eq_ok.mp hRest
  have hSession₁ := session_setState sc .disconnected w
  have hSession₂ := (keepsSession_stopSignalingServer : KeepsSession (stopSignalingServer sc)) w₁
  have hSession₄ := session_assignPeerConnection_none w₃
  have hSession := session_destroyFactoryAndThreads w₄
  have hSide₁ := (keepsHandlers_setState .disconnected : KeepsHandlers (setState sc .disconnected)) w
  have hSide₂ := (keepsHandlers_stopSignalingServer : KeepsHandlers (stopSignalingServer sc)) w₁
  have hSide₄ := keepsHandlers_assignPeerConnection none w₃
  have hSide := keepsHandlers_destroyFactoryAndThreads w₄
  rw [hSet, finalState_ok] at hSession₁ hSide₁
  rw [hStop, finalState_ok] at hSession₂ hSide₂
  rw [hDrop, finalState_ok] at hSession₄ hSide₄
  rw [hDestroy, finalState_ok] at hSession hSide
  -- The state was overwritten, so the guard of `ClosePeerConnection` fails.
  have hIdle : connecting w₂ = false :=
    connecting_eq_false .disconnected (congrArg Session.state (hSession₂.trans hSession₁)) (by decide)
  rw [closePeerConnection_idle hIdle] at hClose
  cases hClose
  refine ⟨hSide.trans (hSide₄.trans (hSide₂.trans hSide₁)), ?_⟩
  rw [hSession, hSession₄, hSession₂, hSession₁]

/-- A shutdown that returns is complete exactly when there was nothing to close. -/
theorem shutdownComplete_iff {w w' : World σ} {inside : Reentry} (hSound : (session w).Sound)
    (hRun : (shuttingDown sc env inside).run w = .ok () w') :
    ShutdownComplete w w' ↔ NothingOpen w := by
  obtain ⟨hSide, hSession⟩ := shuttingDown_returns hRun
  have hCallbacks : w'.callbacks = w.callbacks := congrArg HandlerSide.callbacks hSide
  have hChannels : w'.channels = w.channels := congrArg HandlerSide.channels hSide
  constructor
  · intro h
    refine ⟨fun trackName => hCallbacks ▸ h.sources trackName, fun label impl channel hFind hBound =>
      hChannels ▸ h.channels label impl channel hFind hBound, ?_⟩
    cases hHeld : w.manager.peerConnection with
    | none => rfl
    | some peer =>
        have hOrder := h.peer peer hHeld
        have hCalls : (session w').calls = (session w).calls ++ [.released peer] := by
          rw [hSession]
          simp [session, hHeld]
        have hNever : PeerCall.closed peer ∉ (session w').calls := by
          rw [hCalls]
          intro hMem
          rcases List.mem_append.mp hMem with hOld | hNew
          · exact hSound.held peer hHeld (.inl hOld)
          · simp at hNew
        have hLast := List.idxOf_eq_length hNever
        have hBound := List.idxOf_le_length (l := (session w').calls) (a := PeerCall.released peer)
        omega
  · intro h
    refine ⟨fun trackName => hCallbacks ▸ h.sources trackName, fun label impl channel hFind hBound =>
      hChannels ▸ h.channels label impl channel hFind hBound, fun peer hHeld => ?_, ?_⟩
    · rw [h.peer] at hHeld
      exact absurd hHeld (by simp)
    · exact congrArg Session.state hSession

/-- Outside a session there is nothing to close, in a session there is. -/
theorem nothingOpen_iff_not_connecting {l : Lifecycle} {w : World σ} (h : Settled l w) :
    NothingOpen w ↔ connecting w = false := by
  have hHeld : w.manager.peerConnection = l.current :=
    congrArg Session.peerConnection h.represents
  rw [h.represents.connecting]
  constructor
  · intro hNothing
    rw [← hHeld, hNothing.peer]
    rfl
  · intro hNone
    have hCurrent : l.current = none := by simpa using hNone
    refine ⟨(h.tidy hCurrent).sources, fun label impl channel hFind hBound => ?_, hHeld.trans hCurrent⟩
    rw [(h.tidy hCurrent).channels label impl hFind] at hBound
    exact absurd hBound (by simp)

/-- The run is `InitializeWebRTC` with a working factory, then events before `ShuttingDown`. -/
def SessionRun (events : List ConnectorEvent) : Prop :=
  ∃ rest, events = .initializeWebRTC true :: rest ∧ ∀ event ∈ rest, event.InSession

/-- **When a shutdown is complete.**  After any run, whatever has thrown in it, a `ShuttingDown` that returns
is complete exactly when there was nothing to close; and after a run between `InitializeWebRTC` and
`ShuttingDown` in which nothing throws, exactly when the state was neither RTC_CONNECTING nor
RTC_CONNECTED. -/
theorem shutdown_complete_iff (signaling : σ) (states : Nat → DataState)
    (iceServers : List IceServerConfig) (events : List ConnectorEvent) (inside : Reentry) (w' : World σ)
    (hRun : (shuttingDown sc env inside).run
      (run (step sc env) (wired signaling states iceServers) events) = .ok () w') :
    let w := run (step sc env) (wired signaling states iceServers) events
    (ShutdownComplete w w' ↔ NothingOpen w) ∧
      (sc.NeverFaults → env.NeverThrows → SessionRun events →
        (ShutdownComplete w w' ↔ connecting w = false)) := by
  intro w
  have hComplete : ShutdownComplete w w' ↔ NothingOpen w :=
    shutdownComplete_iff (sound_run signaling states iceServers events) hRun
  refine ⟨hComplete, fun hSends hHandlers ⟨rest, hEvents, hRest⟩ => ?_⟩
  have hSettled : Settled (run Lifecycle.next {} (rest.map ConnectorEvent.lifecycleEvent)) w := by
    have hRunRest : w = run (step sc env) (started sc env signaling states iceServers) rest := by
      simp only [w, hEvents]
      rfl
    rw [hRunRest]
    exact settled_run hSends hHandlers (settled_started signaling states iceServers) hRest
  rw [hComplete, nothingOpen_iff_not_connecting hSettled]

/-- A shutdown after a closed session. -/
theorem shutdown_complete_iff_after_close :
    let events : List ConnectorEvent :=
      [.initializeWebRTC true, .addMediaTrackHandler "camera" {}, .sdpOffer "a" true .done,
        .complete (.setRemoteDescription true), .closeMessage .done]
    let w := run (step .offline .calm) (wired () (fun _ => .kConnecting) []) events
    let w' := finalState ((shuttingDown .offline .calm .done).run w)
    (ShutdownComplete w w' ↔ NothingOpen w) ∧
      (ISignalingClient.offline.NeverFaults → Environment.calm.NeverThrows → SessionRun events →
        (ShutdownComplete w w' ↔ connecting w = false)) :=
  @shutdown_complete_iff _ .offline .calm () (fun _ => .kConnecting) []
    [.initializeWebRTC true, .addMediaTrackHandler "camera" {}, .sdpOffer "a" true .done,
      .complete (.setRemoteDescription true), .closeMessage .done] .done _ rfl

/-- A shutdown in RTC_CONNECTING returns and leaves the camera started and the peer connection unclosed. -/
theorem shutdown_leaves_session_open :
    let w := run (step .offline .calm) (wired () (fun _ => .kConnecting) [])
      [.initializeWebRTC true, .addMediaTrackHandler "camera" {}, .sdpOffer "a" true .done,
        .complete (.setRemoteDescription true)]
    let w' := step .offline .calm w (.shuttingDown .done)
    (shuttingDown .offline .calm .done).run w = .ok () w' ∧ ¬ ShutdownComplete w w' ∧
      sourceOpen "camera" w'.callbacks = true ∧ (session w').calls = [.created 0, .released 0] := by
  refine ⟨rfl, fun h => ?_, by decide, by decide⟩
  exact absurd (h.sources "camera") (by decide)

end World

end MosaicCore
