import MosaicCore.Core.HandlerSide
import MosaicCore.Signaling.SignalingRun

/-!
# State changes announced to the server

On a live connection every `SetState` sends the new state, and a send that fails throws.  Closing a session
announces RTC_DISCONNECTING and READY_TO_CONNECT; an offer announces RTC_CONNECTING, and RTC_FAILED when there is
no peer connection afterwards.  `closeAnnouncements` and `offerAnnouncements` count them from the state before,
and `Announces` says of a routine that it throws exactly if one of its announcements fails.
-/

namespace MosaicCore

open EffectProgram EventRun

namespace System

open World

variable (lib : Libraries) (env : Environment)

/-- The connection is up, for the signaling client and for the WebSocket client. -/
def Live (w : System) : Prop :=
  w.signaling.isConnected = true ∧ w.signaling.wsClient.mConnected = true

/-- Whether the call after the next `n` ones fails. -/
def callFails (w : System) (n : Nat) : Bool :=
  lib.fails (w.signaling.wsClient.calls.length + n)

/-- Whether the state change after the next `n` ones fails. -/
def announceFails (w : System) (n : Nat) : Bool :=
  w.stateManager.signalingClient && callFails lib w n

/-- `CloseAllMediaTracks` reaches every handler. -/
def closesHandlers (w : System) : Bool :=
  !env.throwsAmong w.callbacks.length (closing w)

/-- The state changes of `ClosePeerConnection`. -/
def closeAnnouncements (w : System) : Nat :=
  if connecting w then 2 else 0

/-- The session that `ClosePeerConnection` leaves if its announcements succeed. -/
def sessionAfterClose (w : System) : Session :=
  if closesHandlers env w then (session w).closed
  else { session w with state := .readyToConnect }

/-- The state changes of `HandleSdpOffer` once an existing connection was closed. -/
def acceptAnnouncements (s : Session) (created : Bool) : Nat :=
  if s.state = .readyToConnect then
    1 + if s.peerConnectionFactory && !created && s.peerConnection.isNone then 1 else 0
  else 0

/-- The state changes of `HandleSdpOffer`. -/
def offerAnnouncements (w : System) (created : Bool) : Nat :=
  if w.manager.peerConnection.isSome && connecting w then
    2 + acceptAnnouncements (sessionAfterClose env w) created
  else acceptAnnouncements (session w) created

/-- The client is still live, and has made the calls of `n` state changes. -/
structure Announced (n : Nat) (w w' : System) : Prop where
  live : Live w'
  signalingClient : w'.stateManager.signalingClient = w.stateManager.signalingClient
  calls : w'.signaling.wsClient.calls.length =
    w.signaling.wsClient.calls.length + if w.stateManager.signalingClient then n else 0

/-- The routine throws exactly if one of its `n` state changes fails, and returns in `Q`. -/
def Announces (n : Nat) (p : Program System Unit) (w : System) (Q : System → Prop) : Prop :=
  (throwsException (p.run w) = true ↔ ∃ i < n, announceFails lib w i = true) ∧
    ∀ w', p.run w = .ok () w' → Announced n w w' ∧ Q w'

variable {lib env}

theorem Announced.fails {n : Nat} {w w' : System} (h : Announced n w w') (i : Nat) :
    announceFails lib w' i = announceFails lib w (n + i) := by
  rw [announceFails, announceFails, h.signalingClient, callFails, callFails]
  cases hSends : w.stateManager.signalingClient with
  | false => rfl
  | true => rw [h.calls, hSends, if_pos rfl, Nat.add_assoc]

theorem Announced.trans {n m : Nat} {w w₁ w' : System} (h : Announced n w w₁) (h' : Announced m w₁ w') :
    Announced (n + m) w w' where
  live := h'.live
  signalingClient := h'.signalingClient.trans h.signalingClient
  calls := by
    rw [h'.calls, h.calls, h.signalingClient, Nat.add_assoc]
    split_ifs <;> rfl

/-! ## Rules -/

theorem Announces.congr_run {n : Nat} {p q : Program System Unit} {w : System} {Q : System → Prop}
    (hSame : p.run w = q.run w) (h : Announces lib n q w Q) : Announces lib n p w Q := by
  rw [Announces, hSame]
  exact h

theorem Announces.imp {n : Nat} {p : Program System Unit} {w : System} {Q Q' : System → Prop}
    (h : Announces lib n p w Q) (hQ : ∀ w', Announced n w w' → Q w' → Q' w') :
    Announces lib n p w Q' :=
  ⟨h.1, fun w' hRun => ⟨(h.2 w' hRun).1, hQ w' (h.2 w' hRun).1 (h.2 w' hRun).2⟩⟩

/-- A routine that returns without a call announces nothing. -/
theorem announces_of_ok {p : Program System Unit} {w w' : System} {Q : System → Prop}
    (hRun : p.run w = .ok () w') (hAnnounced : Announced 0 w w') (hQ : Q w') :
    Announces lib 0 p w Q := by
  refine ⟨by simp [hRun, throwsException], fun w₁ hRun₁ => ?_⟩
  rw [hRun] at hRun₁
  cases hRun₁
  exact ⟨hAnnounced, hQ⟩

/-- A routine that uses a null pointer announces nothing. -/
theorem announces_of_null {p : Program System Unit} {w w' : System} {pointer : String}
    {Q : System → Prop} (hRun : p.run w = .error (.nullDereference pointer) w') :
    Announces lib 0 p w Q := by
  refine ⟨by simp [hRun, throwsException, Fault.isException], fun w₁ hRun₁ => ?_⟩
  rw [hRun] at hRun₁
  cases hRun₁

/-- Sequencing; the first routine must not end the process. -/
theorem announces_bind {n m : Nat} {p q : Program System Unit} {w : System} {Q : System → Prop}
    (hExceptions : ∀ e w', p.run w = .error e w' → e.isException = true)
    (h : Announces lib n p w fun w' => Announces lib m q w' Q) :
    Announces lib (n + m) (p >>= fun _ => q) w Q := by
  cases hRun : p.run w with
  | error e w₁ =>
      -- The first routine has thrown, so one of its own announcements has failed.
      have hException := hExceptions e w₁ hRun
      have hThrows : throwsException (p.run w) = true := by simp [hRun, throwsException, hException]
      obtain ⟨i, hi, hFails⟩ := h.1.mp hThrows
      have hBind : (p >>= fun _ => q).run w = .error e w₁ := by rw [EStateM.run_bind, hRun]
      refine ⟨⟨fun _ => ⟨i, by omega, hFails⟩, fun _ => ?_⟩, fun w' hOk => ?_⟩
      · simp [hBind, throwsException, hException]
      · rw [hBind] at hOk
        cases hOk
  | ok u w₁ =>
      obtain ⟨hFirst, hRest⟩ := h.2 w₁ hRun
      have hQuiet : ∀ i < n, announceFails lib w i = false := by
        intro i hi
        by_contra hFails
        have hThrows := h.1.mpr ⟨i, hi, by simpa using hFails⟩
        simp [hRun, throwsException] at hThrows
      have hBind : (p >>= fun _ => q).run w = q.run w₁ := by rw [EStateM.run_bind, hRun]
      rw [Announces, hBind, hRest.1]
      refine ⟨⟨?_, ?_⟩, fun w' hOk => ?_⟩
      · rintro ⟨i, hi, hFails⟩
        exact ⟨n + i, by omega, (hFirst.fails i) ▸ hFails⟩
      · rintro ⟨i, hi, hFails⟩
        -- A failure among the first `n` would have thrown already.
        by_cases hEarly : i < n
        · rw [hQuiet i hEarly] at hFails
          cases hFails
        · refine ⟨i - n, by omega, ?_⟩
          rw [hFirst.fails, Nat.add_sub_cancel' (by omega)]
          exact hFails
      · exact ⟨hFirst.trans (hRest.2 w' hOk).1, (hRest.2 w' hOk).2⟩

/-! ## The routines -/

section Routines

variable (lib env)

/-- `SetState` leaves at most through exceptions. -/
theorem setState_faults (newState : ConnectorState) :
    FaultsOnly (·.isException) (setState (SignalingClient.iface lib) newState) := by
  have hSend (state : Int) : FaultsOnly (·.isException) (SignalingClient.sendState lib state) := by
    apply faultsOnly_bind
    · exact (neverFaults_modify _).faultsOnly
    intro _
    apply faultsOnly_bind
    · exact neverFaults_get.faultsOnly
    intro _
    exact faultsOnly_ite (SignalingClient.faultsOnly_sendWsMessage _) (neverFaults_pure _).faultsOnly
  apply faultsOnly_bind
  · exact (neverFaults_modify _).faultsOnly
  intro _
  apply faultsOnly_bind
  · exact neverFaults_get.faultsOnly
  intro _
  exact faultsOnly_ite (faultsOnly_zoom (hSend _)) (neverFaults_pure _).faultsOnly

/-- On a live connection, `SetState` announces the state. -/
theorem setState_announces {w : System} (hLive : Live w) (newState : ConnectorState) :
    Announces lib 1 (setState (SignalingClient.iface lib) newState) w fun w' =>
      session w' = { session w with state := newState } ∧ handlerSide w' = handlerSide w := by
  have hSession := session_setState (SignalingClient.iface lib) newState w
  have hHandlers : handlerSide (finalState ((setState (SignalingClient.iface lib) newState).run w)) =
      handlerSide w := keepsHandlers_setState newState w
  obtain ⟨hConnected, hUp⟩ := hLive
  cases hSends : w.stateManager.signalingClient with
  | false =>
      -- Without a signaling client the state manager announces nothing.
      have hRun : (setState (SignalingClient.iface lib) newState).run w =
          .ok () { w with stateManager := { w.stateManager with state := newState } } := by
        simp [setState, sendState, hSends]
      refine ⟨by simp [hRun, throwsException, announceFails, hSends], fun w' hOk => ?_⟩
      rw [hOk] at hSession hHandlers
      rw [hRun] at hOk
      cases hOk
      exact ⟨⟨⟨hConnected, hUp⟩, rfl, by simp [hSends]⟩, hSession, hHandlers⟩
  | true =>
      have hRun : (setState (SignalingClient.iface lib) newState).run w =
          (onSignaling (SignalingClient.sendState lib newState.stateToInt)).run
            { w with stateManager := { w.stateManager with state := newState } } := by
        simp [setState, sendState, hSends, SignalingClient.iface]
      rw [onSignaling, zoom_run, SignalingClient.sendState_live hConnected hUp,
        SignalingClient.wsCall_run] at hRun
      by_cases hFails : lib.fails w.signaling.wsClient.calls.length = true
      · simp only [hFails, if_true] at hRun
        refine ⟨?_, fun w' hOk => ?_⟩
        · simp [hRun, throwsException, Fault.isException, announceFails, callFails, hSends, hFails]
        · rw [hRun] at hOk
          cases hOk
      · simp only [hFails, Bool.false_eq_true, if_false] at hRun
        refine ⟨?_, fun w' hOk => ?_⟩
        · simp [hRun, throwsException, announceFails, callFails, hSends, hFails]
        · rw [hOk] at hSession hHandlers
          rw [hRun] at hOk
          cases hOk
          exact ⟨⟨⟨hConnected, hUp⟩, rfl, by simp [hSends, SignalingClient.called]⟩, hSession, hHandlers⟩

/-- Neither the signaling client nor the state manager has changed. -/
def SameWire (w w' : System) : Prop :=
  w'.signaling = w.signaling ∧ w'.stateManager = w.stateManager

instance : IsPreorder System SameWire where
  refl _ := ⟨rfl, rfl⟩
  trans _ _ _ hFirst hSecond := ⟨hSecond.1.trans hFirst.1, hSecond.2.trans hFirst.2⟩

theorem SameWire.announced {w w' : System} (h : SameWire w w') (hLive : Live w) : Announced 0 w w' where
  live := by
    rw [Live, h.1]
    exact hLive
  signalingClient := by rw [h.2]
  calls := by rw [h.1, ite_self, Nat.add_zero]

theorem sameWire_closeAllDataChannels : Within SameWire closeAllDataChannels :=
  within_closeAllDataChannels fun _ => within_onDataChannelHandler fun _ _ => ⟨rfl, rfl⟩

theorem sameWire_dropped (w : System) : SameWire w (dropped w) := by
  cases hPeer : w.manager.peerConnection with
  | none => simp [SameWire, dropped, hPeer]
  | some peer => simp [SameWire, dropped, hPeer]

theorem sameWire_createPeerConnection (created : Bool) :
    Within SameWire (createPeerConnection created : Program System Unit) := by
  have hCall (call : RtcCall) : Within SameWire (rtcCall call : Program System Unit) :=
    within_modify fun _ => ⟨rfl, rfl⟩
  apply within_createPeerConnection
  · exact fun _ => ⟨rfl, rfl⟩
  · exact fun _ _ => hCall _
  · exact fun _ => ⟨rfl, rfl⟩
  · exact fun _ => within_assignPeerConnection (fun _ => hCall _) fun _ => ⟨rfl, rfl⟩

omit lib in
/-- The `try` block of `ClosePeerConnection` does not use the signaling client, and what it throws is caught. -/
theorem closeHandlers_run {w : System} (hIdle : connecting w = false) (inside : Reentry) :
    ∃ w', SameWire w w' ∧ { session w' with state := .readyToConnect } = sessionAfterClose env w ∧
      ∀ lib, (catchException (closeHandlersAndDrop env
        (deliver (SignalingClient.iface lib) env inside))).run w = .ok () w' := by
  have hMedia := run_closeAllMediaTracks env w
  have hSession : session (finalState ((closeAllMediaTracks env).run w)) = session w :=
    keepsSession_closeAllMediaTracks w
  -- A media track handler that throws skips the data channels and the peer connection.
  by_cases hThrows : env.throwsAmong w.callbacks.length (closing w) = true
  · simp only [hThrows, if_true] at hMedia
    rw [hMedia, finalState_error] at hSession
    refine ⟨{ w with callbacks := w.callbacks ++ closes env w }, ⟨rfl, rfl⟩, ?_, fun lib => ?_⟩
    · simp [sessionAfterClose, closesHandlers, hThrows, hSession]
    · simp [catchException, recover_run, closeHandlersAndDrop, hMedia, Fault.isException]
  · simp only [hThrows, Bool.false_eq_true, if_false] at hMedia
    rw [hMedia, finalState_ok] at hSession
    obtain ⟨_, w₂, hData, hSession₂, hWire⟩ :=
      (neverFaults_closeAllDataChannels.ends keepsSession_closeAllDataChannels
        { w with callbacks := w.callbacks ++ closes env w }).and_within sameWire_closeAllDataChannels
    rw [hSession] at hSession₂
    have hIdle₂ : connecting w₂ = false := (connecting_congr (by rw [hSession₂])).trans hIdle
    refine ⟨dropped w₂, IsTrans.trans _ _ _ (r := SameWire) hWire (sameWire_dropped w₂), ?_, fun lib => ?_⟩
    · simp [sessionAfterClose, closesHandlers, hThrows, session_dropped, hSession₂, Session.closed]
    · have hDrop := closeAndDrop_run (SignalingClient.iface lib) env hIdle₂ inside
      simp [catchException, recover_run, closeHandlersAndDrop, hMedia, hData, hDrop]

/-- The `try` block of `ClosePeerConnection` announces nothing. -/
theorem closeHandlers_quiet {w : System} (hLive : Live w) (hIdle : connecting w = false)
    (inside : Reentry) :
    ∃ w', (catchException (closeHandlersAndDrop env (deliver (SignalingClient.iface lib) env inside))).run w
        = .ok () w' ∧ Announced 0 w w' ∧
      { session w' with state := .readyToConnect } = sessionAfterClose env w := by
  obtain ⟨w', hWire, hSession, hRun⟩ := closeHandlers_run env hIdle inside
  exact ⟨w', hRun lib, hWire.announced hLive, hSession⟩

theorem sessionAfterClose_congr {w w' : System} {state : ConnectorState}
    (hSession : session w' = { session w with state := state }) (hHandlers : handlerSide w' = handlerSide w) :
    sessionAfterClose env w' = sessionAfterClose env w := by
  have hCallbacks : w'.callbacks = w.callbacks := congrArg HandlerSide.callbacks hHandlers
  have hConnector : w'.connector = w.connector := congrArg HandlerSide.connector hHandlers
  rw [sessionAfterClose, sessionAfterClose, closesHandlers, closesHandlers, closing, closing, hCallbacks,
    hConnector, hSession]
  rfl

/-- On a live connection, `ClosePeerConnection` announces RTC_DISCONNECTING and READY_TO_CONNECT. -/
theorem closePeerConnection_announces {w : System} (hLive : Live w) (hConnecting : connecting w = true)
    (inside : Reentry) :
    let sc := SignalingClient.iface lib
    (∀ e w', (closePeerConnection sc env (deliver sc env inside)).run w = .error e w' →
        e.isException = true) ∧
      Announces lib 2 (closePeerConnection sc env (deliver sc env inside)) w fun w' =>
        session w' = sessionAfterClose env w := by
  intro sc
  have hEq : (closePeerConnection sc env (deliver sc env inside)).run w = _ :=
    closePeerConnection_eq hConnecting _
  have hFirst := setState_announces lib hLive .rtcDisconnecting
  have hIdle : ∀ {w₁ : System}, session w₁ = { session w with state := .rtcDisconnecting } →
      connecting w₁ = false := by
    intro w₁ hSession
    exact connecting_eq_false .rtcDisconnecting (congrArg Session.state hSession) (by decide)
  refine ⟨fun e w' hError => ?_, Announces.congr_run hEq ?_⟩
  · -- Only the two state changes let anything out.
    rw [hEq, EStateM.run_bind] at hError
    cases hSet : (setState sc .rtcDisconnecting).run w with
    | error e₁ w₁ =>
        rw [hSet] at hError
        cases hError
        exact setState_faults lib _ w _ _ hSet
    | ok u w₁ =>
        obtain ⟨hAnnounced, hSession, _⟩ := hFirst.2 w₁ hSet
        obtain ⟨w₂, hClose, _⟩ := closeHandlers_quiet lib env hAnnounced.live
          (hIdle hSession) inside
        rw [hSet] at hError
        simp only [EStateM.run_bind, sc, hClose] at hError
        exact setState_faults lib _ w₂ _ _ hError
  · refine announces_bind (n := 1) (m := 1) (setState_faults lib _ w) (hFirst.imp ?_)
    rintro w₁ hAnnounced ⟨hSession, hHandlers⟩
    obtain ⟨w₂, hClose, hAnnounced₂, hAfter⟩ := closeHandlers_quiet lib env
      hAnnounced.live (hIdle hSession) inside
    have hQuiet : Announces lib 0 (catchException (closeHandlersAndDrop env (deliver sc env inside))) w₁
        fun w₂ => Announces lib 1 (onConnectionDisconnected sc) w₂ fun w' =>
          session w' = sessionAfterClose env w :=
      announces_of_ok hClose hAnnounced₂ ((setState_announces lib hAnnounced₂.live .readyToConnect).imp ?_)
    · exact announces_bind (n := 0) (m := 1) (fun e w' hError => by simp [sc, hClose] at hError) hQuiet
    · rintro w' - ⟨hReady, -⟩
      rw [hReady, hAfter, sessionAfterClose_congr env hSession hHandlers]

/-- RTC_FAILED is announced if there is no peer connection after `CreatePeerConnection`. -/
theorem setRemoteDescription_announces {w : System} (hLive : Live w) (sdpOffer : String) :
    Announces lib (if (session w).peerConnection.isNone then 1 else 0)
      (setRemoteDescription (SignalingClient.iface lib) sdpOffer) w fun _ => True := by
  cases hHeld : (session w).peerConnection with
  | some peer =>
      exact announces_of_ok (setRemoteDescription_some hHeld sdpOffer)
        (SameWire.announced ⟨rfl, rfl⟩ hLive) trivial
  | none =>
      exact Announces.congr_run (setRemoteDescription_none hHeld sdpOffer)
        ((setState_announces lib hLive .rtcFailed).imp fun _ _ _ => trivial)

theorem createPeerConnection_announces {w : System} (hLive : Live w) (sdpOffer : String)
    (created : Bool) :
    Announces lib
      (if (session w).peerConnectionFactory && !created && (session w).peerConnection.isNone then 1 else 0)
      (createPeerConnection created >>= fun _ => setRemoteDescription (SignalingClient.iface lib) sdpOffer) w
      fun _ => True := by
  cases hFactory : (session w).peerConnectionFactory with
  | false =>
      -- The null factory ends the process before anything is announced.
      have hMissing : w.manager.peerConnectionFactory = false := hFactory
      have hNull : ∃ w', (createPeerConnection created >>= fun _ =>
          setRemoteDescription (SignalingClient.iface lib) sdpOffer).run w =
            .error (.nullDereference "peer_connection_factory_") w' :=
        ⟨_, by simp [createPeerConnection, hMissing]; rfl⟩
      obtain ⟨w', hNull⟩ := hNull
      exact announces_of_null hNull
  | true =>
      obtain ⟨_, w₂, hCreate, hSession, hWire⟩ := (createPeerConnection_ends hFactory created).and_within
        (sameWire_createPeerConnection created)
      have hCount : (true && !created && (session w).peerConnection.isNone) =
          (session w₂).peerConnection.isNone := by
        rw [hSession]
        cases created <;> rfl
      have hRemote := setRemoteDescription_announces lib (hWire.announced hLive).live sdpOffer
      have hBind := announces_bind (fun e w' hError => by simp [hCreate] at hError)
        (announces_of_ok hCreate (hWire.announced hLive) hRemote)
      rwa [Nat.zero_add, ← hCount] at hBind

/-- `HandleSdpOffer` announces RTC_CONNECTING, and RTC_FAILED if there is no peer connection then. -/
theorem acceptOffer_announces {w : System} (hLive : Live w) (sdpOffer : String) (created : Bool) :
    Announces lib (acceptAnnouncements (session w) created)
      (acceptOffer (SignalingClient.iface lib) sdpOffer created) w fun _ => True := by
  by_cases hReady : (session w).state = .readyToConnect
  · refine Announces.congr_run (acceptOffer_ready hReady sdpOffer created) ?_
    rw [acceptAnnouncements, if_pos hReady]
    refine announces_bind (setState_faults lib _ w) ((setState_announces lib hLive .rtcConnecting).imp ?_)
    rintro w₁ hAnnounced ⟨hSession, -⟩
    have hRest := createPeerConnection_announces lib hAnnounced.live sdpOffer created
    rwa [hSession] at hRest
  · rw [acceptAnnouncements, if_neg hReady]
    exact announces_of_ok (acceptOffer_refused hReady sdpOffer created)
      (SameWire.announced ⟨rfl, rfl⟩ hLive) trivial

/-- **The announcements of an SDP offer** on a live connection. -/
theorem handleSdpOffer_announces {w : System} (hLive : Live w) (sdpOffer : String) (created : Bool)
    (inside : Reentry) :
    Announces lib (offerAnnouncements env w created)
      (handleSdpOffer (SignalingClient.iface lib) env sdpOffer created inside) w fun _ => True := by
  cases hHeld : w.manager.peerConnection.isSome with
  | false =>
      have hNone : w.manager.peerConnection = none := by simpa using hHeld
      rw [offerAnnouncements, hHeld]
      exact Announces.congr_run (handleSdpOffer_none hNone sdpOffer created inside)
        (acceptOffer_announces lib hLive sdpOffer created)
  | true =>
      refine Announces.congr_run (handleSdpOffer_some hHeld sdpOffer created inside) ?_
      rw [offerAnnouncements, hHeld, Bool.true_and]
      cases hConnecting : connecting w with
      | false =>
          have hRun : (closePeerConnection (SignalingClient.iface lib) env
              (deliver (SignalingClient.iface lib) env inside)).run w = .ok () w :=
            closePeerConnection_idle hConnecting _
          exact Announces.congr_run (by rw [EStateM.run_bind, hRun])
            (acceptOffer_announces lib hLive sdpOffer created)
      | true =>
          obtain ⟨hFaults, hClose⟩ := closePeerConnection_announces lib env hLive hConnecting
            inside
          refine announces_bind hFaults (hClose.imp fun w₁ hAnnounced hSession => ?_)
          rw [← hSession]
          exact acceptOffer_announces lib hAnnounced.live sdpOffer created

end Routines

end System

end MosaicCore
