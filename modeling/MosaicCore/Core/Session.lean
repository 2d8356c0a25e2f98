import MosaicCore.Core.RoutineRules

/-!
# What the routines do to the session

`Session` is the part of the object graph a session is made of: the connector state, `peer_connection_`,
the factory, and the peer connections created, closed and released so far.  Each routine gets one lemma:

* handler loops, sends and negotiation steps keep the session, whatever throws (`KeepsSession`);
* `SetState` changes the state and nothing else;
* `deliver` does nothing outside RTC_CONNECTING and RTC_CONNECTED, which is why callbacks from inside
  `Close()` are harmless: `ClosePeerConnection` has left those states by then;
* `ClosePeerConnection` closes and drops the peer connection, or, if something throws, only part of that.
-/

namespace MosaicCore

open EffectProgram

/-- The calls that decide a peer connection's life. -/
inductive PeerCall
  | created (peer : Nat)
  | closed (peer : Nat)
  | released (peer : Nat)
  deriving DecidableEq, Repr

/-- The part a libwebrtc call plays in a peer connection's life. -/
def peerCall : RtcCall → Option PeerCall
  | .createPeerConnectionOrError _ (some peer) => some (.created peer)
  | .close peer => some (.closed peer)
  | .release peer => some (.released peer)
  | _ => none

/-- The connector state and the peer connections. -/
structure Session where
  state : ConnectorState
  peerConnectionFactory : Bool
  peerConnection : Option Nat
  created : Nat
  calls : List PeerCall
  deriving DecidableEq

/-- The session after its peer connection was closed and dropped. -/
def Session.closed (s : Session) : Session :=
  { s with
    state := .readyToConnect
    peerConnection := none
    calls := s.calls ++ s.peerConnection.toList.flatMap fun peer => [.closed peer, .released peer] }

/-- The session after a peer connection was created over whatever was held before. -/
def Session.opened (s : Session) : Session :=
  { s with
    peerConnection := some s.created
    created := s.created + 1
    calls := s.calls ++ [.created s.created] ++ s.peerConnection.toList.map .released }

namespace World

variable {σ α : Type}

/-- The session part of the object graph. -/
def session (w : World σ) : Session where
  state := w.stateManager.state
  peerConnectionFactory := w.manager.peerConnectionFactory
  peerConnection := w.manager.peerConnection
  created := w.webrtc.created
  calls := w.webrtc.calls.filterMap peerCall

/-- The routine leaves the session as it is, whether it returns or throws. -/
def KeepsSession (p : Program (World σ) α) : Prop :=
  Within (fun w w' => session w' = session w) p

variable {sc : ISignalingClient σ} {env : Environment}

/-! ## Routines that keep the session -/

theorem keepsSession_onSignaling (p : Program σ Unit) : KeepsSession (onSignaling p) :=
  within_zoom (S := fun _ _ => True) (fun _ => trivial) fun _ _ _ => rfl

theorem keepsSession_rtcCall {call : RtcCall} (hCall : peerCall call = none) :
    KeepsSession (rtcCall call : Program (World σ) Unit) :=
  within_modify fun w => by simp [session, hCall]

theorem keepsSession_rtcStart (peer : Nat) (operation : Operation) :
    KeepsSession (rtcStart peer operation : Program (World σ) Unit) :=
  within_modify fun _ => rfl

theorem keepsSession_invoke (callback : Callback) :
    KeepsSession (invoke env callback : Program (World σ) Unit) :=
  within_invoke fun _ => rfl

theorem keepsSession_onDataChannelHandler (label : String) (p : Program (Endpoint DataBuffer) Unit) :
    KeepsSession (onDataChannelHandler label p : Program (World σ) Unit) :=
  within_onDataChannelHandler fun _ _ => rfl

theorem keepsSession_sendState : KeepsSession (sendState sc) :=
  within_sendState fun _ => keepsSession_onSignaling _

theorem keepsSession_closeAllMediaTracks :
    KeepsSession (closeAllMediaTracks env : Program (World σ) Unit) :=
  within_closeAllMediaTracks fun _ => keepsSession_invoke _

theorem keepsSession_closeAllDataChannels :
    KeepsSession (closeAllDataChannels : Program (World σ) Unit) :=
  within_closeAllDataChannels fun _ => keepsSession_onDataChannelHandler _ _

theorem keepsSession_createMediaTrack (trackName : String) (handler : MediaTrackHandler) :
    KeepsSession (createMediaTrack env trackName handler : Program (World σ) Unit) :=
  within_createMediaTrack (keepsSession_invoke _) (keepsSession_rtcCall rfl)
    fun _ => keepsSession_rtcCall rfl

theorem keepsSession_afterSetSessionDescription :
    KeepsSession (afterSetSessionDescription env : Program (World σ) Unit) :=
  within_afterSetSessionDescription (fun _ _ => keepsSession_createMediaTrack _ _)
    (fun _ => keepsSession_rtcCall rfl) fun _ => keepsSession_rtcStart _ _

theorem keepsSession_afterCreateSdpAnswer (desc : SessionDescription) :
    KeepsSession (afterCreateSdpAnswer desc : Program (World σ) Unit) :=
  within_afterCreateSdpAnswer (fun _ => keepsSession_rtcCall rfl) fun _ => keepsSession_rtcStart _ _

theorem keepsSession_callSignaling (p : Program σ Unit) : KeepsSession (callSignaling p) :=
  within_callSignaling (keepsSession_onSignaling _)

theorem keepsSession_onCompletion (peer : Nat) (completion : Completion) :
    KeepsSession (onCompletion sc env peer completion) :=
  within_onCompletion (fun _ => keepsSession_afterSetSessionDescription)
    keepsSession_afterCreateSdpAnswer fun _ _ => keepsSession_callSignaling _

/-- A completion that is not owed is not delivered. -/
theorem complete_idle {w : World σ} {completion : Completion} (hIdle : owes w completion = false) :
    (complete sc env completion).run w = .ok () w := by
  rw [owes] at hIdle
  cases hPeer : w.manager.peerConnection with
  | none => simp [complete, fromPeer, hPeer]
  | some peer =>
      have hMem : (peer, completion.operation) ∉ w.webrtc.awaiting := by simpa [hPeer] using hIdle
      simp [complete, fromPeer, hPeer, hMem]

/-- The object graph once a completion of a peer connection has been taken off. -/
def paid (w : World σ) (peer : Nat) (completion : Completion) : World σ :=
  { w with webrtc :=
      { w.webrtc with awaiting := w.webrtc.awaiting.erase (peer, completion.operation) } }

variable (sc env) in
/-- A completion that is owed goes to its observer. -/
theorem complete_owed {w : World σ} {completion : Completion} (hOwed : owes w completion = true) :
    ∃ peer, w.manager.peerConnection = some peer ∧ (complete sc env completion).run w =
      (onCompletion sc env peer completion).run (paid w peer completion) := by
  rw [owes] at hOwed
  cases hPeer : w.manager.peerConnection with
  | none => simp [hPeer] at hOwed
  | some peer =>
      have hMem : (peer, completion.operation) ∈ w.webrtc.awaiting := by simpa [hPeer] using hOwed
      exact ⟨peer, rfl, by simp [complete, fromPeer, hPeer, hMem, paid]⟩

theorem keepsSession_complete (completion : Completion) : KeepsSession (complete sc env completion) :=
  within_complete (fun _ _ => rfl) fun _ => keepsSession_onCompletion _ _

theorem keepsSession_onDataChannel (label : String) (channel : Nat) :
    KeepsSession (onDataChannel env label channel : Program (World σ) Unit) :=
  within_onDataChannel (fun _ => keepsSession_onDataChannelHandler _ _) (keepsSession_invoke _)

theorem keepsSession_addDataChannelHandler {label : String} :
    KeepsSession (addDataChannelHandler label : Program (World σ) Unit) :=
  within_addDataChannelHandler fun _ => rfl

theorem keepsSession_addMediaTrackHandler {trackName : String} {handler : MediaTrackHandler} :
    KeepsSession (addMediaTrackHandler trackName handler : Program (World σ) Unit) :=
  within_addMediaTrackHandler fun _ => rfl

theorem keepsSession_handleIceCandidate {candidate : CandidateInit} :
    KeepsSession (handleIceCandidateFromSignaling candidate : Program (World σ) Unit) :=
  within_handleIceCandidate fun _ => keepsSession_rtcCall rfl

theorem keepsSession_iceCandidate {candidate : Option CandidateInit} :
    KeepsSession (handle sc env (.iceCandidate candidate)) :=
  within_iceCandidate fun _ _ _ => keepsSession_callSignaling _

theorem keepsSession_deliverDataChannel {label : String} :
    KeepsSession (deliverDataChannel env label : Program (World σ) Unit) :=
  within_deliverDataChannel (fun _ => rfl) fun _ => keepsSession_onDataChannel _ _

/-! ## Routines that change it -/

variable (sc) in
/-- `SetState` changes the state, whether `SendState` throws or not. -/
theorem session_setState (newState : ConnectorState) (w : World σ) :
    session (finalState ((setState sc newState).run w)) = { session w with state := newState } := by
  have hSend := (keepsSession_sendState : KeepsSession (sendState sc))
    { w with stateManager := { w.stateManager with state := newState } }
  simpa [setState, finalState_bind, session] using hSend

theorem neverFaults_sendState (hSends : sc.NeverFaults) : NeverFaults (sendState sc) := by
  refine neverFaults_bind neverFaults_get fun w => ?_
  split
  · exact neverFaults_zoom (hSends.sendState _)
  · exact neverFaults_pure _

theorem neverFaults_setState (hSends : sc.NeverFaults) (newState : ConnectorState) :
    NeverFaults (setState sc newState) :=
  neverFaults_bind (neverFaults_modify _) fun _ => neverFaults_sendState hSends

/-- Without failing sends, `SetState` returns. -/
theorem setState_ends (hSends : sc.NeverFaults) (newState : ConnectorState) (w : World σ) :
    Ends (setState sc newState) w fun _ w' => session w' = { session w with state := newState } := by
  obtain ⟨a, w', hRun⟩ := neverFaults_setState hSends newState w
  have hSession := session_setState sc newState w
  rw [hRun] at hSession
  exact ⟨a, w', hRun, hSession⟩

theorem connecting_iff {w : World σ} :
    connecting w = true ↔ (session w).state = .rtcConnected ∨ (session w).state = .rtcConnecting := by
  simp [connecting, isState, session]

/-- In the other states there is no session to close. -/
theorem connecting_eq_false {w : World σ} (state : ConnectorState) (hState : (session w).state = state)
    (hOther : state ≠ .rtcConnected ∧ state ≠ .rtcConnecting) : connecting w = false := by
  rw [← Bool.not_eq_true, connecting_iff, hState]
  exact fun h => h.elim hOther.1 hOther.2

theorem connecting_congr {w w' : World σ} (h : (session w').state = (session w).state) :
    connecting w' = connecting w := by
  rw [Bool.eq_iff_iff, connecting_iff, connecting_iff, h]

/-- Outside RTC_CONNECTING and RTC_CONNECTED, `ClosePeerConnection` does nothing. -/
theorem closePeerConnection_idle {w : World σ} (hIdle : connecting w = false)
    (during : Program (World σ) Unit) : (closePeerConnection sc env during).run w = .ok () w := by
  simp [closePeerConnection, hIdle]

variable (sc env) in
/-- Outside RTC_CONNECTING and RTC_CONNECTED, end states delivered from inside `Close()` do nothing. -/
theorem deliver_idle {w : World σ} (hIdle : connecting w = false) (reentry : Reentry) :
    (deliver sc env reentry).run w = .ok () w := by
  induction reentry with
  | done => rfl
  | event state inside rest _ ihRest =>
      have hFirst : (onConnectionChange sc env (.ended state) (deliver sc env inside)).run w =
          .ok () w := by
        cases state <;> exact closePeerConnection_idle hIdle _
      show ((onConnectionChange sc env (.ended state) (deliver sc env inside)) >>= fun _ =>
        deliver sc env rest).run w = _
      rw [EStateM.run_bind, hFirst]
      exact ihRest

/-- The object graph after `closeAndDrop`. -/
def dropped (w : World σ) : World σ :=
  match w.manager.peerConnection with
  | none => w
  | some peer =>
      { w with
        manager := { w.manager with peerConnection := none }
        webrtc := { w.webrtc with calls := w.webrtc.calls ++ [.close peer] ++ [.release peer] } }

variable (sc env) in
/-- Closing and dropping the peer connection returns, whatever `Close()` delivers. -/
theorem closeAndDrop_run {w : World σ} (hIdle : connecting w = false) (inside : Reentry) :
    (closeAndDrop (deliver sc env inside)).run w = .ok () (dropped w) := by
  cases hPeer : w.manager.peerConnection with
  | none => simp [closeAndDrop, dropped, hPeer]
  | some peer =>
      have hInside := deliver_idle sc env
        (w := { w with webrtc := { w.webrtc with calls := w.webrtc.calls ++ [.close peer] } }) hIdle inside
      simp [closeAndDrop, dropped, hPeer, rtcCall, assignPeerConnection, hInside]

theorem session_dropped (w : World σ) :
    session (dropped w) = { (session w).closed with state := (session w).state } := by
  cases hPeer : w.manager.peerConnection with
  | none => simp [dropped, session, Session.closed, hPeer]
  | some peer => simp [dropped, session, Session.closed, hPeer, peerCall]

variable (sc env) in
/-- Entered in RTC_DISCONNECTING, the body of the `try` block either throws with the peer connection kept, or
returns with it closed and dropped. -/
theorem closeHandlersAndDrop_cases {w : World σ} (hIdle : connecting w = false) (inside : Reentry) :
    (∃ e w', (closeHandlersAndDrop env (deliver sc env inside)).run w = .error e w' ∧
        session w' = session w) ∨
      ∃ w', (closeHandlersAndDrop env (deliver sc env inside)).run w = .ok () w' ∧
        session w' = { (session w).closed with state := (session w).state } := by
  have hMedia := (keepsSession_closeAllMediaTracks : KeepsSession (closeAllMediaTracks env)) w
  simp only [closeHandlersAndDrop, EStateM.run_bind]
  cases hFirst : (closeAllMediaTracks env).run w with
  | error e w₁ =>
      rw [hFirst] at hMedia
      -- A throwing media track handler leaves the peer connection where it is.
      exact .inl ⟨e, w₁, rfl, hMedia⟩
  | ok _ w₁ =>
      rw [hFirst, finalState_ok] at hMedia
      have hData := keepsSession_closeAllDataChannels w₁
      simp only
      cases hSecond : closeAllDataChannels.run w₁ with
      | error e w₂ =>
          rw [hSecond] at hData
          exact .inl ⟨e, w₂, rfl, hData.trans hMedia⟩
      | ok _ w₂ =>
          rw [hSecond, finalState_ok, hMedia] at hData
          have hIdle₂ : connecting w₂ = false := (connecting_congr (by rw [hData])).trans hIdle
          refine .inr ⟨_, closeAndDrop_run _ _ hIdle₂ inside, ?_⟩
          rw [session_dropped, hData]

theorem closePeerConnection_eq {w : World σ} (hConnecting : connecting w = true)
    (during : Program (World σ) Unit) :
    (closePeerConnection sc env during).run w =
      (setState sc .rtcDisconnecting >>= fun _ =>
        catchException (closeHandlersAndDrop env during) >>= fun _ =>
          onConnectionDisconnected sc).run w := by
  simp [closePeerConnection, hConnecting]

variable (sc env) in
/-- **What `ClosePeerConnection` leaves of a session**, whatever throws: the state is past RTC_CONNECTING and
RTC_CONNECTED, and the peer connection is either kept, or closed and then dropped. -/
theorem session_closePeerConnection {w : World σ} (hConnecting : connecting w = true)
    (inside : Reentry) :
    let s' := session (finalState ((closePeerConnection sc env (deliver sc env inside)).run w))
    s' = { session w with state := .rtcDisconnecting } ∨
      s' = { session w with state := .readyToConnect } ∨ s' = (session w).closed := by
  have hFirst := session_setState sc .rtcDisconnecting w
  intro s'
  simp only [s', closePeerConnection_eq hConnecting, finalState_bind]
  cases hSet : (setState sc .rtcDisconnecting).run w with
  | error e w₁ =>
      rw [hSet] at hFirst
      exact .inl hFirst
  | ok _ w₁ =>
      rw [hSet, finalState_ok] at hFirst
      have hIdle : connecting w₁ = false :=
        connecting_eq_false .rtcDisconnecting (congrArg Session.state hFirst) (by decide)
      simp only [catchException, recover_run]
      rcases closeHandlersAndDrop_cases sc env hIdle inside with
        ⟨e, w₂, hRun, hKept⟩ | ⟨w₂, hRun, hClosed⟩
      · rw [hRun]
        -- A caught exception goes on to READY_TO_CONNECT, over a peer connection that is still held.
        by_cases hCaught : e.isException = true
        · simp only [hCaught, if_true, onConnectionDisconnected, session_setState]
          exact .inr (.inl (by rw [hKept, hFirst]))
        · simp only [hCaught, Bool.false_eq_true, if_false]
          exact .inl (hKept.trans hFirst)
      · rw [hRun]
        simp only [onConnectionDisconnected, session_setState]
        exact .inr (.inr (by rw [hClosed, hFirst]; rfl))

theorem neverFaults_invoke (hHandlers : env.NeverThrows) (callback : Callback) :
    NeverFaults (invoke env callback : Program (World σ) Unit) := by
  refine neverFaults_bind neverFaults_get fun w => neverFaults_bind (neverFaults_modify _) fun _ => ?_
  rw [hHandlers]
  exact neverFaults_pure _

theorem neverFaults_closeAllMediaTracks (hHandlers : env.NeverThrows) :
    NeverFaults (closeAllMediaTracks env : Program (World σ) Unit) :=
  neverFaults_bind neverFaults_get fun _ => neverFaults_forM (fun _ => neverFaults_invoke hHandlers _) _

/-- `CloseDataChannel` of a handler returns. -/
theorem neverFaults_closeDataChannel :
    NeverFaults (Endpoint.closeDataChannel : Program (Endpoint DataBuffer) Unit) := by
  refine neverFaults_bind neverFaults_get fun e => ?_
  cases e.impl.dcInterface with
  | none => exact neverFaults_pure _
  | some channel => exact neverFaults_bind (neverFaults_modify _) fun _ => neverFaults_modify _

theorem neverFaults_closeAllDataChannels :
    NeverFaults (closeAllDataChannels : Program (World σ) Unit) := by
  refine neverFaults_bind neverFaults_get fun _ => neverFaults_forM (fun label => ?_) _
  refine neverFaults_bind neverFaults_get fun w => ?_
  cases w.connector.dataChannelHandlersDict.find? label with
  | none => exact neverFaults_pure _
  | some impl => exact neverFaults_zoom neverFaults_closeDataChannel

theorem closeHandlersAndDrop_ends (hHandlers : env.NeverThrows) {w : World σ}
    (hIdle : connecting w = false) (inside : Reentry) :
    Ends (closeHandlersAndDrop env (deliver sc env inside)) w fun _ w' =>
      session w' = { (session w).closed with state := (session w).state } := by
  have hMedia := (neverFaults_closeAllMediaTracks hHandlers).ends keepsSession_closeAllMediaTracks w
  refine ends_bind (hMedia.imp fun _ w₁ hFirst => ?_)
  have hData := neverFaults_closeAllDataChannels.ends keepsSession_closeAllDataChannels w₁
  refine ends_bind (hData.imp fun _ w₂ hSecond => ?_)
  rw [hFirst] at hSecond
  have hIdle₂ : connecting w₂ = false := (connecting_congr (by rw [hSecond])).trans hIdle
  refine ⟨(), dropped w₂, closeAndDrop_run _ _ hIdle₂ inside, ?_⟩
  show session (dropped w₂) = _
  rw [session_dropped, hSecond]

/-- **`ClosePeerConnection` without faults** closes the peer connection, drops it, and is ready again. -/
theorem closePeerConnection_ends (hSends : sc.NeverFaults) (hHandlers : env.NeverThrows) {w : World σ}
    (hConnecting : connecting w = true) (inside : Reentry) :
    Ends (closePeerConnection sc env (deliver sc env inside)) w fun _ w' =>
      session w' = (session w).closed := by
  have hBody : Ends (setState sc .rtcDisconnecting >>= fun _ =>
      catchException (closeHandlersAndDrop env (deliver sc env inside)) >>= fun _ =>
        onConnectionDisconnected sc) w fun _ w' => session w' = (session w).closed := by
    refine ends_bind ((setState_ends hSends .rtcDisconnecting w).imp fun _ w₁ hFirst => ?_)
    have hIdle : connecting w₁ = false :=
      connecting_eq_false .rtcDisconnecting (congrArg Session.state hFirst) (by decide)
    refine ends_bind (ends_recover ?_)
    refine (closeHandlersAndDrop_ends hHandlers hIdle inside).imp fun _ w₂ hClosed => ?_
    refine (setState_ends hSends .readyToConnect w₂).imp fun _ w₃ hLast => ?_
    rw [hLast, hClosed, hFirst]
    rfl
  obtain ⟨a, w', hRun, hEnd⟩ := hBody
  exact ⟨a, w', (closePeerConnection_eq hConnecting _).trans hRun, hEnd⟩

/-! ## A new offer -/

/-- Creating a peer connection with the factory in place returns; a failed creation changes nothing. -/
theorem createPeerConnection_ends {w : World σ} (hFactory : (session w).peerConnectionFactory = true)
    (created : Bool) :
    Ends (createPeerConnection created) w fun _ w' =>
      session w' = if created then (session w).opened else session w := by
  have hPresent : w.manager.peerConnectionFactory = true := hFactory
  cases created with
  | false =>
      refine ⟨(), _, by simp [createPeerConnection, hPresent, rtcCall]; rfl, ?_⟩
      simp [session, peerCall, hPresent]
  | true =>
      cases hPeer : w.manager.peerConnection with
      | none =>
          refine ⟨(), _, by simp [createPeerConnection, hPresent, rtcCall, assignPeerConnection, hPeer]; rfl, ?_⟩
          simp [session, Session.opened, peerCall, hPresent, hPeer]
      | some old =>
          refine ⟨(), _, by simp [createPeerConnection, hPresent, rtcCall, assignPeerConnection, hPeer]; rfl, ?_⟩
          simp [session, Session.opened, peerCall, hPresent, hPeer]

/-- Whatever comes of it, the session is as it was, or has a new peer connection of the factory. -/
theorem session_createPeerConnection (created : Bool) (w : World σ) :
    session (finalState ((createPeerConnection created).run w)) = session w ∨
      created = true ∧ (session w).peerConnectionFactory = true ∧
        session (finalState ((createPeerConnection created).run w)) = (session w).opened := by
  by_cases hFactory : (session w).peerConnectionFactory = true
  · obtain ⟨_, hEnd⟩ := (createPeerConnection_ends hFactory created).finalState
    cases created with
    | false => exact .inl hEnd
    | true => exact .inr ⟨rfl, hFactory, hEnd⟩
  · have hMissing : w.manager.peerConnectionFactory = false := Bool.not_eq_true _ ▸ hFactory
    exact .inl (by simp [createPeerConnection, hMissing, session])

theorem handleSdpOffer_none {w : World σ} (hNone : w.manager.peerConnection = none) (sdpOffer : String)
    (created : Bool) (inside : Reentry) :
    (handleSdpOffer sc env sdpOffer created inside).run w = (acceptOffer sc sdpOffer created).run w := by
  simp [handleSdpOffer, hNone]

theorem handleSdpOffer_some {w : World σ} (hSome : w.manager.peerConnection.isSome = true)
    (sdpOffer : String) (created : Bool) (inside : Reentry) :
    (handleSdpOffer sc env sdpOffer created inside).run w =
      (closePeerConnection sc env (deliver sc env inside) >>= fun _ =>
        acceptOffer sc sdpOffer created).run w := by
  simp [handleSdpOffer, hSome]

/-- Outside READY_TO_CONNECT an offer is refused. -/
theorem acceptOffer_refused {w : World σ} (hState : (session w).state ≠ .readyToConnect)
    (sdpOffer : String) (created : Bool) : (acceptOffer sc sdpOffer created).run w = .ok () w := by
  have hNotReady : isState w .readyToConnect = false := by simpa [isState, session] using hState
  simp [acceptOffer, hNotReady]

theorem acceptOffer_ready {w : World σ} (hState : (session w).state = .readyToConnect)
    (sdpOffer : String) (created : Bool) :
    (acceptOffer sc sdpOffer created).run w =
      (setState sc .rtcConnecting >>= fun _ => createPeerConnection created >>= fun _ =>
        setRemoteDescription sc sdpOffer).run w := by
  have hReady : isState w .readyToConnect = true := by simpa [isState, session] using hState
  simp [acceptOffer, hReady]

theorem setRemoteDescription_none {w : World σ} (hNone : (session w).peerConnection = none)
    (sdpOffer : String) :
    (setRemoteDescription sc sdpOffer).run w = (setState sc .rtcFailed).run w := by
  have hPeer : w.manager.peerConnection = none := hNone
  simp [setRemoteDescription, hPeer]

/-- The object graph after `SetRemoteDescription` was called. -/
def offered (w : World σ) (peer : Nat) (sdpOffer : String) : World σ :=
  { w with webrtc :=
      { w.webrtc with
        calls := w.webrtc.calls ++ [.setRemoteDescription peer sdpOffer]
        awaiting := w.webrtc.awaiting ++ [(peer, .setRemoteDescription)] } }

theorem setRemoteDescription_some {w : World σ} {peer : Nat}
    (hSome : (session w).peerConnection = some peer) (sdpOffer : String) :
    (setRemoteDescription sc sdpOffer).run w = .ok () (offered w peer sdpOffer) := by
  have hPeer : w.manager.peerConnection = some peer := hSome
  simp [setRemoteDescription, hPeer, rtcCall, rtcStart, offered]

@[simp] theorem session_offered (w : World σ) (peer : Nat) (sdpOffer : String) :
    session (offered w peer sdpOffer) = session w := by
  simp [session, offered, peerCall]

/-- **Accepting an offer without faults**: a new peer connection in RTC_CONNECTING, or RTC_FAILED. -/
theorem acceptOffer_ends (hSends : sc.NeverFaults) {w : World σ}
    (hState : (session w).state = .readyToConnect) (hFactory : (session w).peerConnectionFactory = true)
    (hNone : (session w).peerConnection = none) (sdpOffer : String) (created : Bool) :
    Ends (acceptOffer sc sdpOffer created) w fun _ w' =>
      session w' = if created then { (session w).opened with state := .rtcConnecting }
        else { session w with state := .rtcFailed } := by
  refine Ends.congr_run (acceptOffer_ready hState sdpOffer created) ?_
  refine ends_bind ((setState_ends hSends .rtcConnecting w).imp fun _ w₁ hSet => ?_)
  have hFactory₁ : (session w₁).peerConnectionFactory = true := by rw [hSet]; exact hFactory
  refine ends_bind ((createPeerConnection_ends hFactory₁ created).imp fun _ w₂ hCreate => ?_)
  cases created with
  | false =>
      have hPeer : (session w₂).peerConnection = none := by
        rw [hCreate, hSet]
        exact hNone
      refine Ends.congr_run (setRemoteDescription_none hPeer sdpOffer) ?_
      refine (setState_ends hSends .rtcFailed w₂).imp fun _ w₃ hFailed => ?_
      rw [hFailed, hCreate, hSet]
      rfl
  | true =>
      have hPeer : (session w₂).peerConnection = some (session w).created := by
        rw [hCreate, hSet]
        rfl
      refine ⟨(), _, setRemoteDescription_some hPeer sdpOffer, ?_⟩
      show session (offered w₂ _ sdpOffer) = _
      rw [session_offered, hCreate, hSet]
      rfl

end World
end MosaicCore
