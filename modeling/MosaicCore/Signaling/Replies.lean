import MosaicCore.Signaling.Requests
import MosaicCore.Signaling.SessionIds

/-!
# What the connector replies

Apart from reports of its state, the connector sends nothing of its own accord: a pong answers a ping,
`authorize` a request for it, an SDP answer the completion of `SetLocalDescription`, a candidate the one that
libwebrtc has gathered.  `reply` says what one event is answered with; `replies_in_order` says that these replies,
one event after another, are all that is ever sent besides the states, whatever reconnects, closes or throws in
between.
-/

namespace MosaicCore

open EffectProgram EventRun

/-- A report of the state. -/
def isStatusUpdate (lib : Libraries) (message : Json) : Bool :=
  (message.field "type").text lib.realText = "status.update"

/-- The call puts something on the connection other than a report of the state. -/
def WsCall.isReply (lib : Libraries) : WsCall → Bool
  | .send message => !isStatusUpdate lib message
  | .sendPong => true
  | .connect _ _ => false
  | .close => false

/-- The message with which an authenticator asks for the authorization. -/
def authorizeMessage (authenticator : Authenticator) : Json :=
  .object
    [("type", .string "authorize"),
      ("data", .object <|
        ("robotId", .string authenticator.robotId) ::
          authenticator.token.toList.map fun token => ("data", .string token))]

/-- What a request is answered with at once. -/
def Request.answers (s : SignalingClient) : Request → List WsCall
  | .authorization type _ =>
      if type = "authorize.req" ∧ s.wsClient.mConnected then [.send (authorizeMessage s.authenticator)] else []
  | .ping message =>
      if s.wsClient.mConnected then [.send (message.set "type" (.string "ping.pong"))] else []
  | _ => []

namespace System

variable (lib : Libraries)

/-- What an event is answered with. -/
def reply (w : System) (event : SystemEvent) : List WsCall :=
  match event with
  | .message .ping _ _ => [.sendPong]
  | .message (.text body) _ _ =>
      match interpret lib body with
      | .ok request => request.answers w.signaling
      | .error _ => []
  | .connector (.complete (.setLocalDescription desc true)) =>
      (speaker w event).toList.map fun _ =>
        .send (SignalingClient.sdpAnswerMessage w.signaling.currentRtcConnectionId desc)
  | .connector (.iceCandidate (some init)) =>
      (speaker w event).toList.map fun peer =>
        .send (SignalingClient.iceCandidateMessage w.signaling.currentRtcConnectionId ⟨peer, init⟩)
  | _ => []

end System

namespace SignalingClient

variable {lib : Libraries}

variable (lib) in
/-- The replies among the calls made. -/
def replies (s : SignalingClient) : List WsCall :=
  s.wsClient.calls.filter (WsCall.isReply lib)

/-- A call is made, even if waiting for it throws. -/
theorem finalState_wsCall (call : WsCall) (s : SignalingClient) :
    finalState ((wsCall lib call).run s) = called s call := by
  rw [wsCall_run]
  split_ifs <;> rfl

/-! ## What sends no reply -/

variable (lib) in
/-- No reply is sent. -/
abbrev Unasked (s s' : SignalingClient) : Prop :=
  replies lib s' = replies lib s

theorem replies_called (s : SignalingClient) (call : WsCall) :
    replies lib (called s call) = replies lib s ++ if call.isReply lib then [call] else [] := by
  rw [replies, called, List.filter_append, List.filter_singleton, Bool.cond_eq_ite]
  rfl

theorem unasked_wsCall {call : WsCall} (hCall : call.isReply lib = false) :
    Within (Unasked lib) (wsCall lib call) :=
  within_wsCall fun s => by
    show replies lib (called s call) = replies lib s
    rw [replies_called, hCall]
    exact List.append_nil _

theorem unasked_sendState (state : Int) : Within (Unasked lib) (sendState lib state) := by
  refine within_sendState (fun _ => rfl) (within_sendWsMessage (unasked_wsCall ?_))
  simp [WsCall.isReply, isStatusUpdate, stateMessage, Json.field, Json.find, Json.text, Json.asString]

theorem unasked_handleClose : Within (Unasked lib) handleClose :=
  within_handleClose (within_modify fun _ => rfl) (within_modify fun _ => rfl) (within_modify fun _ => rfl)

theorem unasked_closeClient : Within (Unasked lib) (closeClient lib) :=
  within_closeClient (unasked_wsCall rfl) (fun _ => within_modify fun _ => rfl) unasked_handleClose

theorem unasked_halt (halt : Halt) : Within (Unasked lib) (halt.program lib) :=
  within_halt (R := Unasked lib) (within_modify fun _ => rfl) unasked_closeClient (within_modify fun _ => rfl) halt

theorem unasked_connectInternal : Within (Unasked lib) connectInternal :=
  within_modify fun s => by
    show (s.wsClient.calls ++ [_]).filter _ = _
    rw [List.filter_append]
    exact List.append_nil _

theorem unasked_onConnected : Within (Unasked lib) (onConnected lib) :=
  within_onConnected (fun _ => rfl) unasked_sendState

theorem unasked_handlePrepareConnection (message : Json) :
    Within (Unasked lib) (handlePrepareConnection lib message) := by
  apply within_orThrow_bind
  intro _
  apply within_orThrow_bind
  intro _
  exact within_modify fun _ => rfl

/-! ## Replies -/

/-- A reply goes out while there is a connection, even if waiting for it throws. -/
theorem replies_sendWsMessage {message : Json} (hReply : (WsCall.send message).isReply lib = true)
    (s : SignalingClient) : replies lib (finalState ((sendWsMessage lib message).run s)) =
      replies lib s ++ if s.wsClient.mConnected then [.send message] else [] := by
  cases hUp : s.wsClient.mConnected with
  | false =>
      rw [sendWsMessage_down hUp]
      exact (List.append_nil _).symm
  | true =>
      rw [sendWsMessage_up lib hUp, finalState_wsCall, replies_called, hReply]

/-- An answer or a candidate goes out under the id in the field. -/
theorem replies_speak {messageOf : String → Json} (hReply : ∀ id, (WsCall.send (messageOf id)).isReply lib = true)
    (s : SignalingClient) :
    replies lib (finalState ((do
        let s ← get
        if ¬ s.isConnected ∨ s.currentRtcConnectionId = "" then pure ()
        else sendWsMessage lib (messageOf s.currentRtcConnectionId) : Program SignalingClient Unit).run s)) =
      replies lib s ++ if System.speaks s then [.send (messageOf s.currentRtcConnectionId)] else [] := by
  rw [EStateM.run_bind, EStateM.run_get]
  by_cases hSilent : ¬ s.isConnected = true ∨ s.currentRtcConnectionId = ""
  · have hMute : System.speaks s = false := by
      rcases hSilent with hDown | hEmpty
      · simp [System.speaks, hDown]
      · simp [System.speaks, hEmpty]
    simp only [hMute, if_pos hSilent]
    exact (List.append_nil _).symm
  · obtain ⟨hConnected, hId⟩ := not_or.mp hSilent
    have hSpeaks : System.speaks s = s.wsClient.mConnected := by simp [System.speaks, not_not.mp hConnected, hId]
    simp only [if_neg hSilent]
    rw [hSpeaks]
    exact replies_sendWsMessage (hReply _) s

variable (lib) in
theorem isReply_sdpAnswerMessage (sdp : SessionDescription) (id : String) :
    (WsCall.send (sdpAnswerMessage id sdp)).isReply lib = true := by
  simp [WsCall.isReply, isStatusUpdate, sdpAnswerMessage, Json.field, Json.find, Json.text, Json.asString]

variable (lib) in
theorem isReply_iceCandidateMessage (candidate : IceCandidate) (id : String) :
    (WsCall.send (iceCandidateMessage id candidate)).isReply lib = true := by
  simp [WsCall.isReply, isStatusUpdate, iceCandidateMessage, Json.field, Json.find, Json.text, Json.asString]

theorem replies_handlePingPong (message : Json) (s : SignalingClient) :
    replies lib (finalState ((handlePingPong lib message).run s)) =
      replies lib s ++ (Request.ping message).answers s := by
  have hReply : (WsCall.send (message.set "type" (.string "ping.pong"))).isReply lib = true := by
    simp [WsCall.isReply, isStatusUpdate, Json.text, Json.asString]
  exact replies_sendWsMessage hReply s

theorem replies_handleAuthorizationMessage (type : String) (data : Json) (s : SignalingClient) :
    replies lib (finalState ((handleAuthorizationMessage lib type data).run s)) =
      replies lib s ++ (Request.authorization type data).answers s := by
  by_cases hReq : type = "authorize.req"
  · have hReply : (WsCall.send (authorizeMessage s.authenticator)).isReply lib = true := by
      simp [WsCall.isReply, isStatusUpdate, authorizeMessage, Json.field, Json.find, Json.text, Json.asString]
    have hRun : (handleAuthorizationMessage lib type data).run s =
        (sendWsMessage lib (authorizeMessage s.authenticator)).run s := by
      rw [handleAuthorizationMessage, if_pos hReq]
      rfl
    rw [hRun, replies_sendWsMessage hReply]
    simp [Request.answers, hReq]
  · -- Nothing but the request is answered.
    have hUnasked : Within (Unasked lib) (handleAuthorizationMessage lib type data) := by
      rw [handleAuthorizationMessage, if_neg hReq]
      refine within_ite (within_ite (within_pure _) ?_) (within_pure _)
      apply within_orThrow_bind
      intro _
      exact within_ite (within_modify fun _ => rfl) (within_pure _)
    simpa [Request.answers, hReq] using hUnasked s

end SignalingClient

namespace System

open World SignalingClient

variable {lib : Libraries} {env : Environment}

/-- A request is answered at once, or not at all. -/
theorem replies_perform (w : System) (created : Bool) (inside : Reentry) (request : Request) :
    replies lib (finalState ((perform lib env created inside request).run w)).signaling =
      replies lib w.signaling ++ request.answers w.signaling := by
  have hUnasked {p : Program System Unit} (hp : SignalingMoves (Unasked lib) p) :
      replies lib (finalState (p.run w)).signaling = replies lib w.signaling ++ [] :=
    (hp w).trans (List.append_nil _).symm
  cases request with
  | nothing => exact hUnasked (within_pure _)
  | sdpOffer text =>
      refine hUnasked (within_bind signalingMoves_useConnector fun _ => ?_)
      exact signalingMoves_handleSdpOffer (SignalingClient.iface lib) unasked_sendState _ _ _
  | prepareConnection data => exact hUnasked (signalingMoves_onSignaling (unasked_handlePrepareConnection data))
  | iceCandidate candidate =>
      exact hUnasked (within_bind signalingMoves_useConnector fun _ => signalingMoves_handleIceCandidate candidate)
  | closeConnection =>
      refine hUnasked (within_bind signalingMoves_useConnector fun _ => ?_)
      exact signalingMoves_closePeerConnection (SignalingClient.iface lib) unasked_sendState
        (signalingMoves_deliver (SignalingClient.iface lib) unasked_sendState inside)
  | authorization type data =>
      show replies lib (finalState ((onSignaling _).run w)).signaling = _
      rw [signaling_onSignaling, replies_handleAuthorizationMessage]
  | ping message =>
      show replies lib (finalState ((onSignaling _).run w)).signaling = _
      rw [signaling_onSignaling, replies_handlePingPong]

/-- An incoming message. -/
theorem replies_message (w : System) (message : WsMessage) (created : Bool) (inside : Reentry) :
    replies lib (step lib env w (.message message created inside)).signaling =
      replies lib w.signaling ++ reply lib w (.message message created inside) := by
  have hTry : replies lib (finalState ((receive lib env message created inside).run w)).signaling =
      replies lib w.signaling ++ reply lib w (.message message created inside) := by
    cases message with
    | ping =>
        show replies lib (finalState ((onSignaling _).run w)).signaling = _
        rw [signaling_onSignaling, finalState_wsCall]
        exact replies_called w.signaling .sendPong
    | pong => exact (List.append_nil _).symm
    | close =>
        have hUnasked : SignalingMoves (Unasked lib) (onSignaling (closeClient lib)) :=
          signalingMoves_onSignaling unasked_closeClient
        exact (hUnasked w).trans (List.append_nil _).symm
    | text body =>
        show replies lib (finalState ((onWsMessage lib env body created inside).run w)).signaling = _
        rw [onWsMessage_eq, reply]
        cases interpret lib body with
        | error what => exact (List.append_nil _).symm
        | ok request => exact replies_perform w created inside request
  -- The `catch` block only puts the flag down.
  rcases signaling_step_message w message created inside with hStep | hStep
  · rw [hStep]
    exact hTry
  · rw [hStep]
    exact hTry

theorem replies_callSignaling {w : System} {p : Program SignalingClient Unit} {new : List WsCall}
    (hReplies : replies lib (finalState (p.run w.signaling)) = replies lib w.signaling ++ new) :
    replies lib (finalState ((callSignaling p).run w)).signaling =
      replies lib w.signaling ++ if w.manager.signalingClient then new else [] := by
  cases hHeld : w.manager.signalingClient with
  | false => simp [callSignaling, hHeld]
  | true =>
      have hRun : (callSignaling p).run w = (onSignaling p).run w := by simp [callSignaling, hHeld]
      rw [hRun, signaling_onSignaling]
      exact hReplies

/-- A SetLocalDescription success is answered with the answer. -/
theorem replies_answer (w : System) (desc : SessionDescription) :
    replies lib (step lib env w (.connector (.complete (.setLocalDescription desc true)))).signaling =
      replies lib w.signaling ++ reply lib w (.connector (.complete (.setLocalDescription desc true))) := by
  cases hOwed : World.owes w (.setLocalDescription desc true) with
  | false =>
      have hIdle : step lib env w (.connector (.complete (.setLocalDescription desc true))) = w :=
        congrArg finalState (complete_idle hOwed)
      rw [hIdle]
      simp [reply, speaker, hOwed]
  | true =>
      obtain ⟨peer, -, hRun⟩ := complete_owed (SignalingClient.iface lib) env hOwed
      have hStep : step lib env w (.connector (.complete (.setLocalDescription desc true))) = _ :=
        congrArg finalState hRun
      have hSend := replies_callSignaling (w := paid w peer (.setLocalDescription desc true))
        (replies_speak (isReply_sdpAnswerMessage lib desc) w.signaling)
      rw [hStep]
      refine hSend.trans ?_
      show replies lib w.signaling ++ (if w.manager.signalingClient = true then _ else []) = _
      cases hHeld : w.manager.signalingClient <;> cases hSpeaks : speaks w.signaling <;>
        simp [reply, speaker, hOwed, hHeld, hSpeaks]

/-- A gathered candidate is sent on. -/
theorem replies_candidate (w : System) (init : CandidateInit) :
    replies lib (step lib env w (.connector (.iceCandidate (some init)))).signaling =
      replies lib w.signaling ++ reply lib w (.connector (.iceCandidate (some init))) := by
  cases hPeer : w.manager.peerConnection with
  | none => simp [step, handle, World.handle, fromPeer, reply, speaker, hPeer]
  | some peer =>
      have hRun : (handle lib env (.connector (.iceCandidate (some init)))).run w =
          (callSignaling (SignalingClient.sendIceCandidate lib ⟨peer, init⟩)).run w := by
        simp [handle, World.handle, fromPeer, hPeer, onIceCandidate, World.sendIceCandidate,
          SignalingClient.iface]
      have hSend := replies_callSignaling (w := w)
        (replies_speak (isReply_iceCandidateMessage lib ⟨peer, init⟩) w.signaling)
      rw [step, hRun]
      refine hSend.trans ?_
      cases hHeld : w.manager.signalingClient <;> cases hSpeaks : speaks w.signaling <;>
        simp [reply, speaker, hPeer, hHeld, hSpeaks]

/-- Nothing else is answered. -/
theorem replies_other (w : System) {event : SystemEvent}
    (hAnswer : ∀ desc, event ≠ .connector (.complete (.setLocalDescription desc true)))
    (hCandidate : ∀ init, event ≠ .connector (.iceCandidate (some init)))
    (hMessage : ∀ message created inside, event ≠ .message message created inside) :
    replies lib (step lib env w event).signaling = replies lib w.signaling := by
  have hMoves : SignalingMoves (Unasked lib) (handle lib env event) := by
    cases event with
    | message message created inside => exact absurd rfl (hMessage message created inside)
    | connect uri =>
        exact signalingMoves_onSignaling (within_connect (within_modify fun _ => rfl) unasked_connectInternal)
    | connectSucceeded client =>
        exact signalingMoves_onSignaling (within_connectSucceeded (within_modify fun _ => rfl)
          (within_modify fun _ => rfl) unasked_onConnected)
    | connectFailed client =>
        exact signalingMoves_onSignaling (within_connectFailed (within_modify fun _ => rfl) unasked_handleClose)
    | serverClosed client =>
        exact signalingMoves_onSignaling (within_serverClosed (within_modify fun _ => rfl) unasked_handleClose)
    | reconnectThreadWakes =>
        exact signalingMoves_onSignaling
          (within_reconnectThreadWakes (within_modify fun _ => rfl) unasked_connectInternal)
    | stop => exact signalingMoves_onSignaling (unasked_halt .stop)
    | disconnect => exact signalingMoves_onSignaling (unasked_halt .disconnect)
    | destroy => exact signalingMoves_onSignaling (unasked_halt .destroy)
    | setMosaicConnector => exact signalingMoves_onSignaling (within_modify fun _ => rfl)
    | connector event =>
        refine signalingMoves_handle (SignalingClient.iface lib) unasked_sendState
          (fun _ _ => unasked_halt .stop) ?_ ?_
        · rintro desc rfl
          exact absurd rfl (hAnswer desc)
        · rintro peer init rfl
          exact absurd rfl (hCandidate init)
  exact hMoves w

/-- **What an event is answered with.** -/
theorem replies_step (w : System) (event : SystemEvent) :
    replies lib (step lib env w event).signaling = replies lib w.signaling ++ reply lib w event := by
  have hOther (hReply : reply lib w event = [])
      (hSame : replies lib (step lib env w event).signaling = replies lib w.signaling) :
      replies lib (step lib env w event).signaling = replies lib w.signaling ++ reply lib w event := by
    rw [hReply, hSame, List.append_nil]
  cases event with
  | message message created inside => exact replies_message w message created inside
  | connector event =>
      cases event with
      | complete completion =>
          cases completion with
          | setLocalDescription desc success =>
              cases success with
              | true => exact replies_answer w desc
              | false => exact hOther rfl (replies_other w (by simp) (by simp) (by simp))
          | setRemoteDescription _ => exact hOther rfl (replies_other w (by simp) (by simp) (by simp))
          | createAnswer _ => exact hOther rfl (replies_other w (by simp) (by simp) (by simp))
      | iceCandidate candidate =>
          cases candidate with
          | some init => exact replies_candidate w init
          | none => exact hOther rfl (replies_other w (by simp) (by simp) (by simp))
      | _ => exact hOther rfl (replies_other w (by simp) (by simp) (by simp))
  | _ => exact hOther rfl (replies_other w (by simp) (by simp) (by simp))

variable (lib env) in
/-- **Every message is a reply.**  In every run of a connector with its signaling client, whatever reconnects,
closes or throws, what is sent besides reports of the state is what the events are answered with, one after
another: no reply is left out, sent twice, sent out of order or sent unasked. -/
theorem replies_in_order (wsUri : String) (authenticator : Authenticator) (states : Nat → DataState)
    (iceServers : List IceServerConfig) (events : List SystemEvent) :
    replies lib (run (step lib env) (initial wsUri authenticator states iceServers) events).signaling =
      outputs (step lib env) (reply lib) (initial wsUri authenticator states iceServers) events :=
  log_eq_outputs (fun w : System => replies lib w.signaling) replies_step _ events

end System

end MosaicCore
