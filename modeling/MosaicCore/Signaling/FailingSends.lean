import MosaicCore.Core.Lifecycle
import MosaicCore.Signaling.Announcements

/-!
# What a failing send changes

`SetState` has changed the state when its send throws, and the exception leaves whatever called it.  A routine
that had nothing more to do is not affected: the last state change of `ClosePeerConnection`, RTC_FAILED at the
end of `HandleSdpOffer`, an answer, a candidate.  One that had is cut short, and the broadcast thread has no
`catch` at all.

Two runs over the same events are compared, one with the libraries as they are and one in which every call
succeeds.  `criticalSends` counts the next sends of a routine that must not fail; while none of them does the
two runs are the same, which is `transport_harmless_iff`.
-/

namespace MosaicCore

open EffectProgram EventRun

namespace System

open World

variable (lib : Libraries) (env : Environment)

/-! ## One state change -/

/-- The state change after the next `n` ones is sent, and the send fails. -/
def lostSend (w : System) (n : Nat) : Bool :=
  w.signaling.isConnected && w.signaling.wsClient.mConnected && announceFails lib w n

/-- The connector after `SendState`, whether the send succeeds or not. -/
def sent (w : System) : System :=
  { w with
    signaling :=
      if w.stateManager.signalingClient then w.signaling.told w.stateManager.state.stateToInt
      else w.signaling }

/-- The connector after `SetState`, whether the send succeeds or not. -/
def announced (w : System) (newState : ConnectorState) : System :=
  sent { w with stateManager := { w.stateManager with state := newState } }

theorem sendState_run (w : System) : (sendState (SignalingClient.iface lib)).run w =
    if lostSend lib w 0 then .error (.exception "websocket_exception") (sent w) else .ok () (sent w) := by
  cases hClient : w.stateManager.signalingClient with
  | false => simp [sendState, lostSend, announceFails, sent, hClient]
  | true =>
      have hRun : (sendState (SignalingClient.iface lib)).run w =
          (onSignaling (SignalingClient.sendState lib w.stateManager.state.stateToInt)).run w := by
        simp [sendState, hClient, SignalingClient.iface]
      have hFails : lostSend lib w 0 = (w.signaling.isConnected && w.signaling.wsClient.mConnected &&
          lib.fails w.signaling.wsClient.calls.length) := by
        simp [lostSend, announceFails, callFails, hClient]
      rw [hRun, onSignaling, zoom_run, SignalingClient.sendState_run, ← hFails, sent, hClient, if_pos rfl]
      cases lostSend lib w 0 with
      | false => rfl
      | true => rfl

theorem setState_run (newState : ConnectorState) (w : System) :
    (setState (SignalingClient.iface lib) newState).run w =
      if lostSend lib w 0 then .error (.exception "websocket_exception") (announced w newState)
      else .ok () (announced w newState) :=
  sendState_run lib { w with stateManager := { w.stateManager with state := newState } }

variable {lib} in
theorem lostSend_sending (w : System) (n : Nat) : lostSend lib.sending w n = false := by
  simp [lostSend, announceFails, callFails, Libraries.sending]

theorem setState_sending (newState : ConnectorState) (w : System) :
    (setState (SignalingClient.iface lib.sending) newState).run w = .ok () (announced w newState) := by
  rw [setState_run, lostSend_sending]
  rfl

/-- The send of a state change has been made. -/
theorem lostSend_announced (w : System) (newState : ConnectorState) (n : Nat) :
    lostSend lib (announced w newState) n = lostSend lib w (n + 1) := by
  cases hClient : w.stateManager.signalingClient with
  | false => simp [lostSend, announceFails, announced, sent, hClient]
  | true =>
      cases hConnected : w.signaling.isConnected with
      | false => simp [lostSend, announced, sent, hClient, hConnected]
      | true =>
          cases hUp : w.signaling.wsClient.mConnected with
          | false => simp [lostSend, announced, sent, hClient, hUp]
          | true =>
              simp [lostSend, announceFails, callFails, announced, sent, hClient, hConnected, hUp,
                SignalingClient.told_calls, Nat.add_comm n 1, Nat.add_assoc]

theorem lostSend_congr {w w' : System} (h : SameWire w w') (n : Nat) :
    lostSend lib w' n = lostSend lib w n := by
  simp only [lostSend, announceFails, callFails, h.1, h.2]

theorem session_announced (w : System) (newState : ConnectorState) :
    session (announced w newState) = { session w with state := newState } := rfl

/-! ## Closing -/

/-- What `ClosePeerConnection` leaves in RTC_CONNECTING and RTC_CONNECTED: after a failing first send only the
state has changed, after a failing second one everything has. -/
theorem closePeerConnection_run {w : System} (hConnecting : connecting w = true) (inside : Reentry) :
    ∃ w', session w' = sessionAfterClose env w ∧
      (∀ lib n, lostSend lib w' n = lostSend lib w (n + 2)) ∧
      ∀ lib, (closePeerConnection (SignalingClient.iface lib) env
          (deliver (SignalingClient.iface lib) env inside)).run w =
        if lostSend lib w 0 then
          .error (.exception "websocket_exception") (announced w .rtcDisconnecting)
        else if lostSend lib w 1 then .error (.exception "websocket_exception") w'
        else .ok () w' := by
  have hIdle : connecting (announced w .rtcDisconnecting) = false :=
    connecting_eq_false .rtcDisconnecting (congrArg Session.state (session_announced w _)) (by decide)
  obtain ⟨w₂, hWire, hSession, hRun⟩ := closeHandlers_run env hIdle inside
  have hAfter : sessionAfterClose env (announced w .rtcDisconnecting) = sessionAfterClose env w :=
    sessionAfterClose_congr env (session_announced w _) rfl
  refine ⟨announced w₂ .readyToConnect, ?_, fun lib n => ?_, fun lib => ?_⟩
  · rw [session_announced, hSession, hAfter]
  · rw [lostSend_announced, lostSend_congr lib hWire, lostSend_announced]
  · rw [closePeerConnection_eq hConnecting, EStateM.run_bind, setState_run]
    cases hFirst : lostSend lib w 0 with
    | true => rfl
    | false =>
        have hSecond : lostSend lib w₂ 0 = lostSend lib w 1 := by
          rw [lostSend_congr lib hWire, lostSend_announced]
        simp only [EStateM.run_bind, hRun, onConnectionDisconnected, setState_run, hSecond,
          Bool.false_eq_true, if_false]

/-! ## Accepting -/

variable {lib}

theorem endsAlike_setState (newState : ConnectorState) :
    EndsAlike (setState (SignalingClient.iface lib) newState)
      (setState (SignalingClient.iface lib.sending) newState) := by
  intro w
  rw [setState_sending, setState_run]
  split <;> rfl

theorem endsAlike_setRemoteDescription (sdpOffer : String) :
    EndsAlike (setRemoteDescription (SignalingClient.iface lib) sdpOffer)
      (setRemoteDescription (SignalingClient.iface lib.sending) sdpOffer) := by
  apply endsAlike_bind
  intro w
  cases w.manager.peerConnection with
  | none => exact endsAlike_setState _
  | some peer => exact EndsAlike.refl _

/-- An offer that is accepted: a failing first send leaves only the state changed. -/
theorem acceptOffer_of_fails {w : System} (hReady : (session w).state = .readyToConnect)
    (hFails : lostSend lib w 0 = true) (sdpOffer : String) (created : Bool) :
    (acceptOffer (SignalingClient.iface lib) sdpOffer created).run w =
      .error (.exception "websocket_exception") (announced w .rtcConnecting) := by
  rw [acceptOffer_ready hReady, EStateM.run_bind, setState_run, hFails]
  rfl

/-- Otherwise it is handled as if every call succeeded. -/
theorem acceptOffer_of_sent {w : System}
    (hSent : (session w).state = .readyToConnect → lostSend lib w 0 = false) (sdpOffer : String)
    (created : Bool) :
    finalState ((acceptOffer (SignalingClient.iface lib) sdpOffer created).run w) =
      finalState ((acceptOffer (SignalingClient.iface lib.sending) sdpOffer created).run w) := by
  by_cases hReady : (session w).state = .readyToConnect
  · rw [acceptOffer_ready hReady, acceptOffer_ready hReady, finalState_bind, finalState_bind, setState_run,
      setState_sending, hSent hReady]
    exact endsAlike_bind _ (fun _ => endsAlike_setRemoteDescription sdpOffer) _
  · rw [acceptOffer_refused hReady, acceptOffer_refused hReady]

/-! ## Routines that send at their end -/

theorem endsAlike_sendWsMessage (message : Json) :
    EndsAlike (SignalingClient.sendWsMessage lib message)
      (SignalingClient.sendWsMessage lib.sending message) := by
  have hCall : EndsAlike (SignalingClient.wsCall lib (.send message))
      (SignalingClient.wsCall lib.sending (.send message)) := by
    intro s
    rw [SignalingClient.wsCall_run, SignalingClient.wsCall_run]
    split <;> rfl
  apply endsAlike_bind
  intro _
  refine endsAlike_ite ?_ (EndsAlike.refl _)
  apply endsAlike_bind
  intro _
  exact endsAlike_ite hCall (EndsAlike.refl _)

theorem endsAlike_callSignaling {p q : Program SignalingClient Unit} (hp : EndsAlike p q) :
    EndsAlike (callSignaling p) (callSignaling q) := by
  apply endsAlike_bind
  intro _
  exact endsAlike_ite (endsAlike_zoom hp) (EndsAlike.refl _)

theorem endsAlike_fromPeer {p q : Nat → Program System Unit} (hp : ∀ peer, EndsAlike (p peer) (q peer)) :
    EndsAlike (fromPeer p) (fromPeer q) := by
  apply endsAlike_bind
  intro w
  cases w.manager.peerConnection with
  | none => exact EndsAlike.refl _
  | some peer => exact hp peer

variable {env}

theorem endsAlike_complete (completion : Completion) :
    EndsAlike (complete (SignalingClient.iface lib) env completion)
      (complete (SignalingClient.iface lib.sending) env completion) := by
  apply endsAlike_fromPeer
  intro peer
  apply endsAlike_bind
  intro _
  refine endsAlike_ite ?_ (EndsAlike.refl _)
  apply endsAlike_bind
  intro _
  cases completion with
  | setRemoteDescription ok =>
      cases ok with
      | false => exact EndsAlike.refl _
      | true => exact EndsAlike.refl _
  | createAnswer sdp =>
      cases sdp with
      | none => exact EndsAlike.refl _
      | some sdp => exact EndsAlike.refl _
  | setLocalDescription desc ok =>
      cases ok with
      | false => exact EndsAlike.refl _
      | true =>
          -- The answer is sent last.
          apply endsAlike_callSignaling
          apply endsAlike_bind
          intro _
          exact endsAlike_ite (EndsAlike.refl _) (endsAlike_sendWsMessage _)

theorem endsAlike_iceCandidate (candidate : Option CandidateInit) :
    EndsAlike (World.handle (SignalingClient.iface lib) env (.iceCandidate candidate))
      (World.handle (SignalingClient.iface lib.sending) env (.iceCandidate candidate)) := by
  apply endsAlike_fromPeer
  intro peer
  cases candidate with
  | none => exact EndsAlike.refl _
  | some init =>
      apply endsAlike_callSignaling
      apply endsAlike_bind
      intro _
      exact endsAlike_ite (EndsAlike.refl _) (endsAlike_sendWsMessage _)

/-! ## One event -/

/-- How many of the next state changes an event makes must be sent: the two of a close that an offer begins with
and RTC_CONNECTING, which have something after them; RTC_DISCONNECTING, which READY_TO_CONNECT follows; and a
broadcast, whose thread catches nothing. -/
def criticalSends (w : System) : ConnectorEvent → Nat
  | .stateBroadcast => 1
  | .closeMessage _ => if connecting w then 1 else 0
  | .connectionChange (.ended _) _ => if w.manager.peerConnection.isSome && connecting w then 1 else 0
  | .sdpOffer _ _ _ =>
      if w.manager.peerConnection.isSome && connecting w then 3
      else if isState w .readyToConnect then 1
      else 0
  | _ => 0

variable (lib) in
/-- No critical send of the event fails. -/
def Delivered (w : System) (event : ConnectorEvent) : Prop :=
  ∀ n < criticalSends w event, lostSend lib w n = false

instance (w : System) (event : ConnectorEvent) : Decidable (Delivered lib w event) :=
  inferInstanceAs (Decidable (∀ n < criticalSends w event, lostSend lib w n = false))

theorem closePeerConnection_delivered {w : System} (hSent : connecting w = true → lostSend lib w 0 = false)
    (inside : Reentry) :
    finalState ((closePeerConnection (SignalingClient.iface lib) env
        (deliver (SignalingClient.iface lib) env inside)).run w) =
      finalState ((closePeerConnection (SignalingClient.iface lib.sending) env
        (deliver (SignalingClient.iface lib.sending) env inside)).run w) := by
  cases hConnecting : connecting w with
  | false => rw [closePeerConnection_idle hConnecting, closePeerConnection_idle hConnecting]
  | true =>
      obtain ⟨w', -, -, hRun⟩ := closePeerConnection_run env hConnecting inside
      rw [hRun, hRun, hSent hConnecting, lostSend_sending, lostSend_sending]
      -- READY_TO_CONNECT is the last statement of a close, whether it is sent or not.
      cases lostSend lib w 1 with
      | false => rfl
      | true => rfl

theorem handleSdpOffer_delivered {w : System} {sdpOffer : String} {created : Bool} {inside : Reentry}
    (hSent : Delivered lib w (.sdpOffer sdpOffer created inside)) :
    finalState ((handleSdpOffer (SignalingClient.iface lib) env sdpOffer created inside).run w) =
      finalState ((handleSdpOffer (SignalingClient.iface lib.sending) env sdpOffer created inside).run w) := by
  have hReady (h : (session w).state = .readyToConnect) : isState w .readyToConnect = true := by
    simpa [isState, session] using h
  cases hHeld : w.manager.peerConnection.isSome with
  | false =>
      have hNone : w.manager.peerConnection = none := by simpa using hHeld
      rw [handleSdpOffer_none hNone, handleSdpOffer_none hNone]
      refine acceptOffer_of_sent (fun h => hSent 0 ?_) _ _
      simp [criticalSends, hNone, hReady h]
  | true =>
      rw [handleSdpOffer_some hHeld, handleSdpOffer_some hHeld]
      cases hConnecting : connecting w with
      | false =>
          -- Outside a session the close does nothing, and RTC_CONNECTING is sent first.
          rw [finalState_bind, finalState_bind, closePeerConnection_idle hConnecting,
            closePeerConnection_idle hConnecting]
          refine acceptOffer_of_sent (fun h => hSent 0 ?_) _ _
          simp [criticalSends, hConnecting, hReady h]
      | true =>
          -- The close sends two states, and RTC_CONNECTING is the third.
          have hAll : ∀ n < 3, lostSend lib w n = false := by
            simpa [Delivered, criticalSends, hHeld, hConnecting] using hSent
          obtain ⟨w', -, hShift, hRun⟩ := closePeerConnection_run env hConnecting inside
          rw [finalState_bind, finalState_bind, hRun, hRun, hAll 0 (by omega), hAll 1 (by omega),
            lostSend_sending, lostSend_sending]
          exact acceptOffer_of_sent (fun _ => (hShift lib 0).trans (hAll 2 (by omega))) _ _

/-- **An event whose critical sends succeed** leaves what it leaves when every send does. -/
theorem step_delivered {w : System} {event : ConnectorEvent} (hEvent : event.InSession)
    (hSent : Delivered lib w event) :
    World.step (SignalingClient.iface lib) env w event =
      World.step (SignalingClient.iface lib.sending) env w event := by
  cases event with
  | initializeWebRTC factory => exact absurd hEvent id
  | shuttingDown inside => exact absurd hEvent id
  | addDataChannelHandler label => simp only [World.step, World.handle]
  | addMediaTrackHandler trackName handler => simp only [World.step, World.handle]
  | sdpOffer sdpOffer created inside => exact handleSdpOffer_delivered hSent
  | closeMessage inside =>
      refine closePeerConnection_delivered (fun hConnecting => hSent 0 ?_) inside
      simp [criticalSends, hConnecting]
  | iceCandidateMessage candidate => simp only [World.step, World.handle]
  | complete completion => exact endsAlike_complete completion w
  | connectionChange newState inside =>
      cases hPeer : w.manager.peerConnection with
      | none =>
          simp only [World.step, World.handle, fromPeer_none hPeer]
      | some peer =>
          simp only [World.step, World.handle, fromPeer_some hPeer]
          cases newState with
          | kNew => simp only [onConnectionChange]
          | kConnecting => simp only [onConnectionChange]
          | kConnected => exact endsAlike_setState _ w
          | ended state =>
              have hFirst : connecting w = true → lostSend lib w 0 = false :=
                fun hConnecting => hSent 0 (by simp [criticalSends, hConnecting, hPeer])
              cases state with
              | kFailed => exact closePeerConnection_delivered hFirst inside
              | kDisconnected => exact closePeerConnection_delivered hFirst inside
              | kClosed => exact closePeerConnection_delivered hFirst inside
  | iceCandidate candidate => exact endsAlike_iceCandidate candidate w
  | dataChannel label => simp only [World.step, World.handle]
  | channelState channel state => simp only [World.step, World.handle]
  | stateBroadcast =>
      -- A broadcast leaves the same state, sent or not.
      show finalState _ = finalState _
      simp only [World.handle, sendState_run, lostSend_sending]
      split <;> rfl

/-! ## Runs -/

variable (lib env)

/-- An exception leaves the routine of an event with state changes still to come: if every call succeeded, there
would be more of them. -/
def Interrupted (w : System) (event : ConnectorEvent) : Prop :=
  throwsException ((World.handle (SignalingClient.iface lib) env event).run w) = true ∧
    (World.step (SignalingClient.iface lib) env w event).signaling.wsClient.calls.length <
      (World.step (SignalingClient.iface lib.sending) env w event).signaling.wsClient.calls.length

/-- The exception of an event would end the broadcast thread. -/
def EndsBroadcasts (w : System) (event : ConnectorEvent) : Prop :=
  event = .stateBroadcast ∧ throwsException ((World.handle (SignalingClient.iface lib) env event).run w) = true

/-- Failing sends do not change what the connector does. -/
structure Harmless (w : System) (events : List ConnectorEvent) : Prop where
  same : ∀ before after, events = before ++ after →
    let failing := session (run (World.step (SignalingClient.iface lib) env) w before)
    let sending := session (run (World.step (SignalingClient.iface lib.sending) env) w before)
    failing.state = sending.state ∧ failing.peerConnection = sending.peerConnection
  broadcasts : EachStep (World.step (SignalingClient.iface lib) env)
    (fun w event => ¬ EndsBroadcasts lib env w event) w events
  uninterrupted : EachStep (World.step (SignalingClient.iface lib) env)
    (fun w event => ¬ Interrupted lib env w event) w events

variable {lib env}

theorem not_endsBroadcasts {w : System} {event : ConnectorEvent} (hSent : Delivered lib w event) :
    ¬ EndsBroadcasts lib env w event := by
  rintro ⟨rfl, hThrows⟩
  rw [World.handle, sendState_run, hSent 0 (by simp [criticalSends])] at hThrows
  exact absurd hThrows (by simp)

theorem not_interrupted {w : System} {event : ConnectorEvent} (hEvent : event.InSession)
    (hSent : Delivered lib w event) : ¬ Interrupted lib env w event := by
  rintro ⟨-, hFewer⟩
  rw [step_delivered hEvent hSent] at hFewer
  exact absurd hFewer (Nat.lt_irrefl _)

/-- From any state, failing sends that are not critical change nothing at all. -/
theorem harmless_of_delivered {w : System} {events : List ConnectorEvent}
    (hEvents : ∀ event ∈ events, event.InSession)
    (hSent : EachStep (World.step (SignalingClient.iface lib) env) (Delivered lib) w events) :
    Harmless lib env w events where
  same before after hSplit := by
    subst hSplit
    have hSame := EachStep.run_eq (A := ConnectorEvent.InSession)
      (fun _ _ hEvent hSent => step_delivered hEvent hSent)
      (fun event hMem => hEvents event (List.mem_append_left _ hMem)) (eachStep_append.mp hSent).1
    simp only [hSame, and_self]
  broadcasts := hSent.mono (A := ConnectorEvent.InSession) (fun _ _ _ h => not_endsBroadcasts h) hEvents
  uninterrupted := hSent.mono (A := ConnectorEvent.InSession)
    (fun _ _ hEvent h => not_interrupted hEvent h) hEvents

/-! ## Without throwing handlers no critical send can be spared -/

/-- Only `ShuttingDown` stops the signaling client. -/
theorem deliver_withoutStop {σ : Type} (sc : ISignalingClient σ) (stop : Program σ Unit) (inside : Reentry) :
    deliver { sc with stop := stop } env inside = deliver sc env inside := by
  induction inside with
  | done => rfl
  | event state inside rest ihInside ihRest =>
      show (onConnectionChange { sc with stop := stop } env (.ended state)
        (deliver { sc with stop := stop } env inside) >>= fun _ => deliver { sc with stop := stop } env rest) = _
      rw [ihInside, ihRest]
      cases state with
      | kFailed => rfl
      | kDisconnected => rfl
      | kClosed => rfl

theorem step_withoutStop {σ : Type} (sc : ISignalingClient σ) (stop : Program σ Unit) (w : World σ)
    {event : ConnectorEvent} (hEvent : event.InSession) :
    World.step { sc with stop := stop } env w event = World.step sc env w event := by
  cases event with
  | initializeWebRTC factory => exact absurd hEvent id
  | shuttingDown inside => exact absurd hEvent id
  | sdpOffer sdpOffer created inside =>
      show finalState ((handleSdpOffer { sc with stop := stop } env sdpOffer created inside).run w) = _
      rw [handleSdpOffer, deliver_withoutStop]
      rfl
  | closeMessage inside =>
      show finalState ((closePeerConnection { sc with stop := stop } env
        (deliver { sc with stop := stop } env inside)).run w) = _
      rw [deliver_withoutStop]
      rfl
  | connectionChange newState inside =>
      show finalState ((fromPeer fun _ => onConnectionChange { sc with stop := stop } env newState
        (deliver { sc with stop := stop } env inside)).run w) = _
      rw [deliver_withoutStop]
      cases newState with
      | kNew => rfl
      | kConnecting => rfl
      | kConnected => rfl
      | ended state => cases state <;> rfl
  | _ => rfl

/-- The signaling client with every call succeeding, and none made to stop it. -/
def tireless (lib : Libraries) : ISignalingClient SignalingClient :=
  { SignalingClient.iface lib.sending with stop := pure () }

variable (lib) in
theorem neverFaults_tireless : (tireless lib).NeverFaults := by
  have hMessage (message : Json) : NeverFaults (SignalingClient.sendWsMessage lib.sending message) := by
    have hCall : NeverFaults (SignalingClient.wsCall lib.sending (.send message)) := by
      intro s
      exact ⟨(), SignalingClient.called s (.send message), by
        simp [SignalingClient.wsCall_run, Libraries.sending]⟩
    exact neverFaults_bind neverFaults_get fun _ =>
      neverFaults_ite (neverFaults_bind neverFaults_get fun _ => neverFaults_ite hCall (neverFaults_pure _))
        (neverFaults_pure _)
  constructor
  · exact neverFaults_pure _
  · exact fun _ => neverFaults_bind neverFaults_get fun _ => neverFaults_ite (neverFaults_pure _) (hMessage _)
  · exact fun _ => neverFaults_bind neverFaults_get fun _ => neverFaults_ite (neverFaults_pure _) (hMessage _)
  · exact fun _ => neverFaults_bind (neverFaults_modify _) fun _ =>
      neverFaults_bind neverFaults_get fun _ => neverFaults_ite (hMessage _) (neverFaults_pure _)

variable (lib) in
/-- With RTC_CONNECTING not sent, an offer does not end as it should. -/
theorem acceptOffer_needs {w : System} (hReady : (session w).state = .readyToConnect)
    (hFactory : (session w).peerConnectionFactory = true) (hNone : (session w).peerConnection = none)
    (sdpOffer : String) (created : Bool) :
    let s := session (finalState ((acceptOffer (SignalingClient.iface lib.sending) sdpOffer created).run w))
    (s.state = .rtcConnecting ∨ s.state = .rtcFailed) ∧
      ((session (announced w .rtcConnecting)).state = s.state →
        (session (announced w .rtcConnecting)).peerConnection ≠ s.peerConnection) := by
  intro s
  obtain ⟨_, hEnd⟩ :=
    (acceptOffer_ends (neverFaults_tireless lib) hReady hFactory hNone sdpOffer created).finalState
  have hSession : s = if created then { (session w).opened with state := .rtcConnecting }
      else { session w with state := .rtcFailed } := hEnd
  rw [hSession, session_announced]
  cases created with
  | true => exact ⟨.inl rfl, fun _ => by simp [hNone, Session.opened]⟩
  | false => exact ⟨.inr rfl, fun hState => by simp at hState⟩

theorem sessionAfterClose_calm (hHandlers : env.NeverThrows) (w : System) :
    sessionAfterClose env w = (session w).closed := by
  simp [sessionAfterClose, closesHandlers, hHandlers.throwsAmong]

/-- The state and the peer connection after an event, with failing sends, are those without. -/
def SameAfter (lib : Libraries) (env : Environment) (w : System) (event : ConnectorEvent) : Prop :=
  let failing := session (World.step (SignalingClient.iface lib) env w event)
  let sending := session (World.step (SignalingClient.iface lib.sending) env w event)
  failing.state = sending.state ∧ failing.peerConnection = sending.peerConnection

/-- RTC_DISCONNECTING must be sent. -/
theorem closePeerConnection_needs {w : System} (hConnecting : connecting w = true) (inside : Reentry)
    (hSame : (session (finalState ((closePeerConnection (SignalingClient.iface lib) env
          (deliver (SignalingClient.iface lib) env inside)).run w))).state =
        (session (finalState ((closePeerConnection (SignalingClient.iface lib.sending) env
          (deliver (SignalingClient.iface lib.sending) env inside)).run w))).state) :
    lostSend lib w 0 = false := by
  obtain ⟨w', hSession, -, hRun⟩ := closePeerConnection_run env hConnecting inside
  by_contra hFails
  rw [Bool.not_eq_false] at hFails
  rw [hRun, hRun, hFails, lostSend_sending, lostSend_sending] at hSame
  have hReady : (session w').state = .readyToConnect := by
    rw [hSession, sessionAfterClose]
    split <;> rfl
  simp [session_announced, hReady] at hSame

/-- All the state changes before the last must be sent, and RTC_CONNECTING. -/
theorem handleSdpOffer_needs (hHandlers : env.NeverThrows) {l : Lifecycle} {w : System} (h : Represents l w)
    {sdpOffer : String} {created : Bool} {inside : Reentry}
    (hSame : SameAfter lib env w (.sdpOffer sdpOffer created inside)) :
    Delivered lib w (.sdpOffer sdpOffer created inside) := by
  have hFactory : (session w).peerConnectionFactory = true := by rw [h]; rfl
  have hHeld : w.manager.peerConnection = l.current := congrArg Session.peerConnection h
  unfold SameAfter World.step World.handle at hSame
  intro n hn
  cases hLive : l.current with
  | none =>
      have hNone : w.manager.peerConnection = none := hHeld.trans hLive
      have hReady : (session w).state = .readyToConnect := by
        by_contra hState
        have hNotReady : isState w .readyToConnect = false := by simpa [isState, session] using hState
        simp [criticalSends, hNone, hNotReady] at hn
      have hZero : n = 0 := by
        simp only [criticalSends, hNone, Option.isSome_none, Bool.false_and, Bool.false_eq_true, if_false] at hn
        split at hn <;> omega
      subst hZero
      obtain ⟨-, hNeeds⟩ := acceptOffer_needs lib hReady hFactory hNone sdpOffer created
      rw [handleSdpOffer_none hNone, handleSdpOffer_none hNone] at hSame
      by_contra hFails
      rw [Bool.not_eq_false] at hFails
      rw [acceptOffer_of_fails hReady hFails] at hSame
      exact hNeeds hSame.1 hSame.2
  | some peer =>
      have hSome : w.manager.peerConnection.isSome = true := by rw [hHeld, hLive]; rfl
      have hConnecting : connecting w = true := by rw [h.connecting, hLive]; rfl
      obtain ⟨w', hSession, hShift, hRun⟩ := closePeerConnection_run env hConnecting inside
      rw [sessionAfterClose_calm hHandlers] at hSession
      have hReady' : (session w').state = .readyToConnect := by rw [hSession]; rfl
      have hFactory' : (session w').peerConnectionFactory = true := by rw [hSession]; exact hFactory
      have hNone' : (session w').peerConnection = none := by rw [hSession]; rfl
      obtain ⟨hEnd, hNeeds⟩ := acceptOffer_needs lib hReady' hFactory' hNone' sdpOffer created
      rw [handleSdpOffer_some hSome, handleSdpOffer_some hSome, finalState_bind, finalState_bind, hRun, hRun,
        lostSend_sending, lostSend_sending] at hSame
      -- Each of the three leaves the state it announces, which is not where the offer ends.
      have hFirst : lostSend lib w 0 = false := by
        by_contra hFails
        rw [Bool.not_eq_false] at hFails
        rw [hFails] at hSame
        rcases hEnd with hState | hState
        · simp [session_announced, hState] at hSame
        · simp [session_announced, hState] at hSame
      have hSecond : lostSend lib w 1 = false := by
        by_contra hFails
        rw [Bool.not_eq_false] at hFails
        rw [hFirst, hFails] at hSame
        rcases hEnd with hState | hState
        · simp [hReady', hState] at hSame
        · simp [hReady', hState] at hSame
      have hThird : lostSend lib w 2 = false := by
        by_contra hFails
        rw [Bool.not_eq_false] at hFails
        have hFails' : lostSend lib w' 0 = true := (hShift lib 0).trans hFails
        rw [hFirst, hSecond] at hSame
        simp only [Bool.false_eq_true, if_false, acceptOffer_of_fails hReady' hFails', finalState_error] at hSame
        exact hNeeds hSame.1 hSame.2
      have hThree : n < 3 := by simpa [criticalSends, hSome, hConnecting] using hn
      rcases (by omega : n = 0 ∨ n = 1 ∨ n = 2) with rfl | rfl | rfl
      · exact hFirst
      · exact hSecond
      · exact hThird

/-- **No critical send can be spared**, while the lifecycle describes the session. -/
theorem delivered_of_sameAfter (hHandlers : env.NeverThrows) {l : Lifecycle} {w : System}
    (h : Represents l w) {event : ConnectorEvent} (hSame : SameAfter lib env w event)
    (hBroadcasts : ¬ EndsBroadcasts lib env w event) : Delivered lib w event := by
  cases event with
  | stateBroadcast =>
      intro n hn
      have hZero : n = 0 := Nat.lt_one_iff.mp hn
      subst hZero
      by_contra hFails
      rw [Bool.not_eq_false] at hFails
      -- It would leave the body of its thread.
      refine hBroadcasts ⟨rfl, ?_⟩
      simp [World.handle, sendState_run, hFails, Fault.isException]
  | closeMessage inside =>
      intro n hn
      cases hConnecting : connecting w with
      | false => simp [criticalSends, hConnecting] at hn
      | true =>
          -- RTC_DISCONNECTING is the only one that counts.
          have hZero : n = 0 := by simpa [criticalSends, hConnecting] using hn
          subst hZero
          exact closePeerConnection_needs hConnecting inside hSame.1
  | connectionChange newState inside =>
      intro n hn
      cases newState with
      | kNew => simp [criticalSends] at hn
      | kConnecting => simp [criticalSends] at hn
      | kConnected => simp [criticalSends] at hn
      | ended state =>
          cases hPeer : w.manager.peerConnection with
          | none => simp [criticalSends, hPeer] at hn
          | some peer =>
              cases hConnecting : connecting w with
              | false => simp [criticalSends, hConnecting] at hn
              | true =>
                  have hZero : n = 0 := by simpa [criticalSends, hConnecting, hPeer] using hn
                  subst hZero
                  simp only [SameAfter, World.step, World.handle, fromPeer_some hPeer] at hSame
                  cases state with
                  | kFailed => exact closePeerConnection_needs hConnecting inside hSame.1
                  | kDisconnected => exact closePeerConnection_needs hConnecting inside hSame.1
                  | kClosed => exact closePeerConnection_needs hConnecting inside hSame.1
  | sdpOffer sdpOffer created inside => exact handleSdpOffer_needs hHandlers h hSame
  | _ => exact fun n hn => absurd hn (Nat.not_lt_zero n)

/-- An event whose critical sends succeed is an event of the lifecycle. -/
theorem represents_step_delivered (hHandlers : env.NeverThrows) {l : Lifecycle} {w : System}
    (h : Represents l w) {event : ConnectorEvent} (hEvent : event.InSession)
    (hSent : Delivered lib w event) :
    Represents (l.next event.lifecycleEvent) (World.step (SignalingClient.iface lib) env w event) := by
  rw [step_delivered hEvent hSent, ← step_withoutStop (SignalingClient.iface lib.sending) (pure ()) w hEvent]
  exact represents_step (neverFaults_tireless lib) hHandlers hEvent h

/-- Nothing is harmless but what delivers every critical send. -/
theorem delivered_of_harmless (hHandlers : env.NeverThrows) {l : Lifecycle} {w : System}
    (h : Represents l w) {events : List ConnectorEvent} (hEvents : ∀ event ∈ events, event.InSession)
    (hHarmless : Harmless lib env w events) :
    EachStep (World.step (SignalingClient.iface lib) env) (Delivered lib) w events := by
  induction events generalizing w l with
  | nil => trivial
  | cons event events ih =>
      have hEvent : event.InSession := hEvents event List.mem_cons_self
      have hSent : Delivered lib w event :=
        delivered_of_sameAfter hHandlers h (hHarmless.same [event] events rfl) hHarmless.broadcasts.1
      -- So far the two runs agree: the next event starts them from one state.
      refine ⟨hSent, ih (represents_step_delivered hHandlers h hEvent hSent)
        (fun event' hMem => hEvents event' (List.mem_cons_of_mem _ hMem)) ⟨?_, hHarmless.broadcasts.2,
          hHarmless.uninterrupted.2⟩⟩
      intro before after hSplit
      have hSame := hHarmless.same (event :: before) after (by rw [hSplit]; rfl)
      simpa only [run_cons, ← step_delivered hEvent hSent] using hSame

variable (lib env) in
/-- **When failing sends are harmless.**  Over any events between `InitializeWebRTC` and `ShuttingDown`, from any
state of the signaling client, whichever of its calls fail: the state and the peer connection stay as they would
be if none failed, no broadcast throws and no routine is interrupted, if every critical send succeeds; and unless
a handler throws or there is no factory, only then. -/
theorem transport_harmless_iff (signaling : SignalingClient) (states : Nat → DataState)
    (iceServers : List IceServerConfig) (factory : Bool) (events : List ConnectorEvent)
    (hEvents : ∀ event ∈ events, event.InSession) :
    let w := World.step (SignalingClient.iface lib) env (World.wired signaling states iceServers)
      (.initializeWebRTC factory)
    (EachStep (World.step (SignalingClient.iface lib) env) (Delivered lib) w events →
        Harmless lib env w events) ∧
      (env.NeverThrows → factory = true → Harmless lib env w events →
        EachStep (World.step (SignalingClient.iface lib) env) (Delivered lib) w events) := by
  intro w
  refine ⟨harmless_of_delivered hEvents, fun hHandlers hFactory hHarmless => ?_⟩
  subst hFactory
  exact delivered_of_harmless hHandlers (session_started signaling states iceServers) hEvents hHarmless

/-- One call fails. -/
def failingAt (place : Nat) : Libraries :=
  { Libraries.silent with fails := fun n => n == place }

/-- A connected client. -/
def connectedClient : SignalingClient where
  isConnected := true
  wsClient := { mConnected := true }

/-- A connector whose client is connected; its first call is READY_TO_CONNECT. -/
def connectedStart (lib : Libraries) : System :=
  World.step (SignalingClient.iface lib) .calm (World.wired connectedClient (fun _ => .kConnecting) [])
    (.initializeWebRTC true)

/-- RTC_FAILED, the last state change of an offer, is not sent, and nothing else is different. -/
theorem transport_harmless_iff_last_send :
    Harmless (failingAt 2) .calm (connectedStart (failingAt 2)) [.sdpOffer "a" false .done] :=
  (transport_harmless_iff (failingAt 2) .calm connectedClient (fun _ => .kConnecting) [] true
    [.sdpOffer "a" false .done] (by simp [ConnectorEvent.InSession])).1 (by decide)

/-- A session that is closed by the server. -/
def closedSession : List ConnectorEvent :=
  [.sdpOffer "a" true .done, .connectionChange .kConnected .done, .closeMessage .done]

/-- RTC_DISCONNECTING is not sent: the close ends there, with the peer connection still up, where it should end in
READY_TO_CONNECT without one.  And a broadcast that fails leaves the body of its thread. -/
theorem failing_send_stops_close :
    let failing := run (World.step (SignalingClient.iface (failingAt 3)) .calm) (connectedStart (failingAt 3))
      closedSession
    let sending := run (World.step (SignalingClient.iface (failingAt 3).sending) .calm)
      (connectedStart (failingAt 3)) closedSession
    ¬ Harmless (failingAt 3) .calm (connectedStart (failingAt 3)) closedSession ∧
      (session failing).state = .rtcDisconnecting ∧ (session failing).peerConnection = some 0 ∧
      (session sending).state = .readyToConnect ∧ (session sending).peerConnection = none ∧
      EndsBroadcasts (failingAt 1) .calm (connectedStart (failingAt 1)) .stateBroadcast := by
  intro failing sending
  have hFailing : (session failing).state = .rtcDisconnecting := by decide
  have hSending : (session sending).state = .readyToConnect := by decide
  refine ⟨fun hHarmless => ?_, hFailing, by decide, hSending, by decide, rfl, by decide⟩
  have hSame : (session failing).state = (session sending).state :=
    (hHarmless.same closedSession [] rfl).1
  rw [hFailing, hSending] at hSame
  exact absurd hSame (by decide)

end System

end MosaicCore
