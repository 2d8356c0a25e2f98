import MosaicCore.Core.RequestedCalls
import MosaicCore.Signaling.Replies

/-!
# Answers and offers

An offer from the server starts three operations of libwebrtc, one after the other, and the answer goes out when
the last of them completes.  So there is never more than one answer for an offer: the answers that have gone out
and the operations that are under way are together no more than the offers that peer connections were given
(`balanced_move`), and those are no more than the offers received.

`connectorEvent` is what an event of the whole system is for the connector; everything the connector knows of itself
and of the peer connections holds along the runs of the system by `connectorSide_step`.
-/

namespace MosaicCore

open EffectProgram EventRun

/-- The call gives an offer to a peer connection. -/
def RtcCall.isOffer : RtcCall → Bool
  | .setRemoteDescription _ _ => true
  | _ => false

/-- The event is an offer. -/
def ConnectorEvent.isOffer : ConnectorEvent → Bool
  | .sdpOffer _ _ _ => true
  | _ => false

/-- The call sends an SDP answer. -/
def WsCall.isAnswer (lib : Libraries) : WsCall → Bool
  | .send message => (message.field "type").text lib.realText = "signaling.send_sdp_answer"
  | _ => false

/-- What a request is for the connector. -/
def Request.connectorEvent (created : Bool) (inside : Reentry) : Request → Option ConnectorEvent
  | .sdpOffer text => some (.sdpOffer text created inside)
  | .iceCandidate candidate => some (.iceCandidateMessage candidate)
  | .closeConnection => some (.closeMessage inside)
  | _ => none

namespace Peers

/-- How many offers the peer connections have been given. -/
def offersMade (p : Peers) : Nat := p.webrtc.calls.countP RtcCall.isOffer

/-- How many operations are under way. -/
def underWay (p : Peers) : Nat := p.webrtc.awaiting.length

@[simp] theorem offersMade_asked (p : Peers) (more : List RtcCall) :
    (p.asked more).offersMade = p.offersMade + more.countP RtcCall.isOffer :=
  List.countP_append

@[simp] theorem underWay_asked (p : Peers) (more : List RtcCall) : (p.asked more).underWay = p.underWay := rfl

@[simp] theorem offersMade_started (p : Peers) (peer : Nat) (operation : Operation) :
    (p.started peer operation).offersMade = p.offersMade := rfl

@[simp] theorem underWay_started (p : Peers) (peer : Nat) (operation : Operation) :
    (p.started peer operation).underWay = p.underWay + 1 :=
  List.length_append

@[simp] theorem offersMade_settled (p : Peers) (peer : Nat) (operation : Operation) :
    (p.settled peer operation).offersMade = p.offersMade := rfl

theorem underWay_settled {p : Peers} {peer : Nat} {operation : Operation}
    (hOwed : (peer, operation) ∈ p.webrtc.awaiting) : (p.settled peer operation).underWay + 1 = p.underWay :=
  List.length_erase_add_one hOwed

-- Creating, closing and releasing make no offer.

@[simp] theorem offersMade_opened (p : Peers) (servers : List IceServer) :
    (p.opened servers).offersMade = p.offersMade := by
  cases hHeld : p.held <;> simp [offersMade, opened, hHeld, RtcCall.isOffer]

@[simp] theorem underWay_opened (p : Peers) (servers : List IceServer) :
    (p.opened servers).underWay = p.underWay := rfl

@[simp] theorem offersMade_closed (p : Peers) : p.closed.offersMade = p.offersMade := by
  cases hHeld : p.held <;> simp [offersMade, closed, hHeld, RtcCall.isOffer]

@[simp] theorem underWay_closed (p : Peers) : p.closed.underWay = p.underWay := rfl

@[simp] theorem offersMade_dropped (p : Peers) : p.dropped.offersMade = p.offersMade := by
  cases hHeld : p.held <;> simp [offersMade, dropped, hHeld, RtcCall.isOffer]

@[simp] theorem underWay_dropped (p : Peers) : p.dropped.underWay = p.underWay := rfl

/-- A move starts an operation without an offer only where one has completed. -/
theorem balanced_move {kept : Prop} {entries : List (String × MediaTrackHandler)} {p p' : Peers}
    (h : Move kept entries p p') : p'.underWay + p.offersMade ≤ p.underWay + p'.offersMade := by
  cases h with
  | accept servers sdpOffer =>
      simp [RtcCall.isOffer]
      omega
  | createFailed servers => simp [RtcCall.isOffer]
  | reoffer hKept peer hHeld servers sdpOffer =>
      simp [RtcCall.isOffer]
      omega
  | candidate peer hHeld candidate => simp [RtcCall.isOffer]
  | settle peer hHeld operation hOwed =>
      have hFewer := underWay_settled hOwed
      simp
      omega
  | tracks peer hHeld hOwed more hMore =>
      have hFewer := underWay_settled hOwed
      simp
      omega
  | answer peer hHeld hOwed =>
      have hFewer := underWay_settled hOwed
      simp
      omega
  | setLocal peer hHeld hOwed sdp =>
      have hFewer := underWay_settled hOwed
      simp
      omega
  | close => simp
  | drop => simp
  | stopThread thread => simp [RtcCall.isOffer]

end Peers

namespace World

variable {σ α : Type} {sc : ISignalingClient σ} {env : Environment}

/-- How many offers the peer connections of an object graph have been given. -/
def offersMade (w : World σ) : Nat := (peerSide w).offersMade

theorem balanced_moves {w w' : World σ} {entries : List (String × MediaTrackHandler)}
    (h : Moves True entries w w') :
    (peerSide w').underWay + offersMade w ≤ (peerSide w).underWay + offersMade w' := by
  have hAll {p : Peers} (hMoves : Relation.ReflTransGen (Peers.Move True entries) (peerSide w) p) :
      p.underWay + (peerSide w).offersMade ≤ (peerSide w).underWay + p.offersMade := by
    induction hMoves with
    | refl => exact Nat.le_refl _
    | tail _ hMove ih =>
        have hLast := Peers.balanced_move hMove
        omega
  exact hAll h

/-! ## Routines that make no offer -/

theorem onlyRequested_isOffer : OnlyRequested RtcCall.isOffer := by
  intro call hOffer
  cases call with
  | setRemoteDescription peer sdpOffer => rfl
  | _ => cases hOffer

/-- The routine makes no offer. -/
def MakesNoOffer (p : Program (World σ) α) : Prop :=
  Within (fun w w' => offersMade w' = offersMade w) p

theorem MakesNone.makesNoOffer {p : Program (World σ) α} (h : MakesNone RtcCall.isOffer p) : MakesNoOffer p := by
  have hLength (w : World σ) : offersMade w = (callsOf RtcCall.isOffer w).length := List.countP_eq_length_filter
  refine h.mono fun w w' hSame => ?_
  rw [hLength, hLength, hSame]

theorem LeavesPeers.makesNoOffer {p : Program (World σ) α} (h : LeavesPeers p) : MakesNoOffer p :=
  h.makesNone.makesNoOffer

theorem makesNoOffer_pure {a : α} : MakesNoOffer (pure a : Program (World σ) α) := within_pure a

theorem makesNoOffer_get : MakesNoOffer (get : Program (World σ) (World σ)) := within_get

/-- The routine makes at most one offer. -/
def MakesAnOffer (p : Program (World σ) α) : Prop :=
  Within (fun w w' => offersMade w' ≤ offersMade w + 1) p

theorem MakesNoOffer.makesAnOffer {p : Program (World σ) α} (h : MakesNoOffer p) : MakesAnOffer p :=
  h.mono fun _ _ hSame => hSame ▸ Nat.le_succ _

theorem MakesNoOffer.before {β : Type} {p : Program (World σ) α} {k : α → Program (World σ) β}
    (hp : MakesNoOffer p) (hk : ∀ a, MakesAnOffer (k a)) : MakesAnOffer (p >>= k) :=
  within_bind_of hp hk (fun _ _ hSame => hSame ▸ Nat.le_succ _) fun _ _ _ hSame hMore => hSame ▸ hMore

theorem makesAnOffer_setRemoteDescription (sdpOffer : String) : MakesAnOffer (setRemoteDescription sc sdpOffer) := by
  apply makesNoOffer_get.before
  intro w
  cases w.manager.peerConnection with
  | none => exact (leavesPeers_setState _).makesNoOffer.makesAnOffer
  | some peer =>
      refine within_bind_of (S := fun w w' => offersMade w' = offersMade w) (within_modify fun w => ?_)
        (fun _ => within_modify fun _ => rfl) (fun _ _ h => h) fun _ _ _ hMore hSame => hSame ▸ hMore
      exact Nat.le_of_eq (Peers.offersMade_asked (peerSide w) [.setRemoteDescription peer sdpOffer])

/-- `SetRemoteDescription` is called at most once for an offer. -/
theorem makesAnOffer_handleSdpOffer (sdpOffer : String) (created : Bool) (inside : Reentry) :
    MakesAnOffer (handleSdpOffer sc env sdpOffer created inside) := by
  have hAccept : MakesAnOffer (acceptOffer sc sdpOffer created) := by
    apply makesNoOffer_get.before
    intro w
    refine within_ite makesNoOffer_pure.makesAnOffer ?_
    apply (leavesPeers_setState _).makesNoOffer.before
    intro _
    exact (makesNone_createPeerConnection onlyRequested_isOffer created).makesNoOffer.before
      fun _ => makesAnOffer_setRemoteDescription sdpOffer
  apply makesNoOffer_get.before
  intro w
  exact within_ite
    ((makesNone_closePeerConnection onlyRequested_isOffer inside).makesNoOffer.before fun _ => hAccept) hAccept

/-- Only an offer makes one. -/
theorem offersMade_step (w : World σ) (event : ConnectorEvent) :
    offersMade (step sc env w event) ≤ offersMade w + if event.isOffer then 1 else 0 := by
  cases event with
  | sdpOffer sdpOffer created inside => exact makesAnOffer_handleSdpOffer sdpOffer created inside w
  | iceCandidateMessage candidate =>
      have hOther : ¬ (ConnectorEvent.iceCandidateMessage candidate).asksFor RtcCall.isOffer := by
        rintro ⟨peer, hOffer⟩
        cases hOffer
      exact Nat.le_of_eq ((makesNone_step onlyRequested_isOffer hOther).makesNoOffer w)
  | _ => exact Nat.le_of_eq ((makesNone_step onlyRequested_isOffer id).makesNoOffer w)

end World

/-- The object graph without the state of the signaling client. -/
def World.connectorSide {σ : Type} (w : World σ) : World Unit where
  signaling := ()
  channels := w.channels
  stateManager := w.stateManager
  connector := w.connector
  manager := w.manager
  webrtc := w.webrtc
  callbacks := w.callbacks

namespace System

open World SignalingClient

variable (lib : Libraries)

/-- What an event is for the connector. -/
def connectorEvent : SystemEvent → Option ConnectorEvent
  | .message (.text body) created inside =>
      match interpret lib body with
      | .ok request => request.connectorEvent created inside
      | .error _ => none
  | .connector event => some event
  | _ => none

/-- What the connector hears of: a message needs `mosaic_connector_`. -/
def heard (w : System) (event : SystemEvent) : Option ConnectorEvent :=
  match event with
  | .message _ _ _ => if w.signaling.mosaicConnector then connectorEvent lib event else none
  | _ => connectorEvent lib event

/-- An offer is received. -/
def receivesOffer (event : SystemEvent) : Bool :=
  (connectorEvent lib event).any ConnectorEvent.isOffer

/-- The SDP answers among the calls made. -/
def answersSent (s : SignalingClient) : Nat :=
  s.wsClient.calls.countP (WsCall.isAnswer lib)

variable {lib} {env : Environment}

theorem connectorEvent_of_heard {w : System} {event : SystemEvent} {connected : ConnectorEvent}
    (hHeard : heard lib w event = some connected) : connectorEvent lib event = some connected := by
  cases event with
  | message message created inside =>
      cases hWired : w.signaling.mosaicConnector with
      | false => simp [heard, hWired] at hHeard
      | true => simpa [heard, hWired] using hHeard
  | _ => exact hHeard

/-- Whatever the signaling client does, the connector is as it was. -/
theorem connectorSide_onSignaling (p : Program SignalingClient Unit) (w : System) :
    connectorSide (finalState ((onSignaling p).run w)) = connectorSide w := by
  have hZoom : finalState ((onSignaling p).run w) = { w with signaling := finalState (p.run w.signaling) } :=
    finalState_zoom _ _ _ _
  rw [hZoom]
  rfl

/-- To the connector, a request is an event of its own, or nothing. -/
theorem connectorSide_perform (w : System) (created : Bool) (inside : Reentry) (request : Request) :
    connectorSide (finalState ((perform lib env created inside request).run w)) =
      (if w.signaling.mosaicConnector then request.connectorEvent created inside else none).elim (connectorSide w)
        fun connected => connectorSide (World.step (SignalingClient.iface lib) env w connected) := by
  have hSignaling (p : Program SignalingClient Unit) :
      connectorSide (finalState ((onSignaling p).run w)) =
        (if w.signaling.mosaicConnector then none else none : Option ConnectorEvent).elim (connectorSide w)
          fun connected => connectorSide (World.step (SignalingClient.iface lib) env w connected) := by
    rw [ite_self]
    exact connectorSide_onSignaling p w
  -- What needs the connector fails without it.
  have hConnector (connected : ConnectorEvent) :
      connectorSide (finalState
        ((useConnector >>= fun _ => World.handle (SignalingClient.iface lib) env connected).run w)) =
        (if w.signaling.mosaicConnector then some connected else none).elim (connectorSide w)
          fun connected => connectorSide (World.step (SignalingClient.iface lib) env w connected) := by
    cases hWired : w.signaling.mosaicConnector with
    | false => simp [useConnector, hWired]
    | true => simp [useConnector, hWired, World.step]
  cases request with
  | nothing => cases w.signaling.mosaicConnector <;> rfl
  | sdpOffer text => exact hConnector (.sdpOffer text created inside)
  | prepareConnection data => exact hSignaling _
  | iceCandidate candidate => exact hConnector (.iceCandidateMessage candidate)
  | closeConnection => exact hConnector (.closeMessage inside)
  | authorization type data => exact hSignaling _
  | ping message => exact hSignaling _

variable (lib env) in
/-- **To the connector, an event of the system is the event that it hears of, or nothing.** -/
theorem connectorSide_step (w : System) (event : SystemEvent) :
    connectorSide (step lib env w event) = (heard lib w event).elim (connectorSide w)
      fun connected => connectorSide (World.step (SignalingClient.iface lib) env w connected) := by
  have hSignaling (p : Program SignalingClient Unit) :
      connectorSide (finalState ((onSignaling p).run w)) = connectorSide w := connectorSide_onSignaling p w
  cases event with
  | connector event => rfl
  | message message created inside =>
      -- The `catch` block is the signaling client's.
      have hCatch : connectorSide (step lib env w (.message message created inside)) =
          connectorSide (finalState ((receive lib env message created inside).run w)) := by
        rcases finalState_catchWith (receive lib env message created inside)
          (onSignaling SignalingClient.onError) w with hFinal | hFinal
        · exact congrArg connectorSide hFinal
        · exact (congrArg connectorSide hFinal).trans (connectorSide_onSignaling _ _)
      rw [hCatch]
      cases message with
      | text body =>
          have hReceive : receive lib env (.text body) created inside =
              orThrow (interpret lib body) >>= perform lib env created inside :=
            onWsMessage_eq lib env body created inside
          rw [hReceive, heard, connectorEvent]
          cases interpret lib body with
          | error what => simp
          | ok request => exact connectorSide_perform w created inside request
      | pong => simp [heard, connectorEvent, receive]
      | _ =>
          show _ = (if w.signaling.mosaicConnector then none else none : Option ConnectorEvent).elim _ _
          rw [ite_self]
          exact hSignaling _
  | _ => exact hSignaling _

variable (lib env) in
/-- So it is to the peer connections. -/
theorem peerSide_step (w : System) (event : SystemEvent) :
    peerSide (step lib env w event) = (heard lib w event).elim (peerSide w)
      fun connected => peerSide (World.step (SignalingClient.iface lib) env w connected) := by
  have hSide := congrArg peerSide (connectorSide_step lib env w event)
  cases hHeard : heard lib w event with
  | none =>
      rw [hHeard] at hSide
      exact hSide
  | some connected =>
      rw [hHeard] at hSide
      exact hSide

/-! ## Counting -/

variable (lib env) in
/-- Offers are received before they are made. -/
theorem offersMade_step (w : System) (event : SystemEvent) :
    offersMade (step lib env w event) ≤ offersMade w + if receivesOffer lib event then 1 else 0 := by
  rw [offersMade, peerSide_step]
  cases hHeard : heard lib w event with
  | none => exact Nat.le_add_right _ _
  | some connected =>
      rw [receivesOffer, connectorEvent_of_heard hHeard]
      exact World.offersMade_step w connected

/-- Answers are replies. -/
theorem answersSent_eq (s : SignalingClient) :
    answersSent lib s = (replies lib s).countP (WsCall.isAnswer lib) := by
  rw [answersSent, replies, List.countP_filter]
  refine List.countP_congr fun call _ => ?_
  cases call with
  | send message =>
      have hOther : (message.field "type").text lib.realText = "signaling.send_sdp_answer" →
          (message.field "type").text lib.realText ≠ "status.update" := fun hType => by simp [hType]
      simpa [WsCall.isAnswer, WsCall.isReply, isStatusUpdate] using hOther
  | connect client uri => simp [WsCall.isAnswer]
  | sendPong => simp [WsCall.isAnswer]
  | close => simp [WsCall.isAnswer]

variable (lib env) in
theorem answersSent_step (w : System) (event : SystemEvent) :
    answersSent lib (step lib env w event).signaling =
      answersSent lib w.signaling + (reply lib w event).countP (WsCall.isAnswer lib) := by
  rw [answersSent_eq, answersSent_eq, replies_step, List.countP_append]

/-- No request is answered with an SDP answer at once. -/
theorem isAnswer_answers (s : SignalingClient) (request : Request) :
    (request.answers s).countP (WsCall.isAnswer lib) = 0 := by
  refine List.countP_eq_zero.mpr fun call hCall => ?_
  cases request with
  | authorization type data =>
      obtain ⟨-, hSame⟩ := List.mem_ite_nil_right.mp hCall
      rw [List.mem_singleton.mp hSame]
      simp [WsCall.isAnswer, authorizeMessage, Json.field, Json.find, Json.text, Json.asString]
  | ping message =>
      obtain ⟨-, hSame⟩ := List.mem_ite_nil_right.mp hCall
      rw [List.mem_singleton.mp hSame]
      simp [WsCall.isAnswer, Json.text, Json.asString]
  | _ => cases hCall

/-- Only the completion of `SetLocalDescription` is answered with an answer, and with one. -/
theorem isAnswer_reply (w : System) (event : SystemEvent) :
    (reply lib w event).countP (WsCall.isAnswer lib) = 0 ∨
      ∃ desc, event = .connector (.complete (.setLocalDescription desc true)) ∧
        World.owes w (.setLocalDescription desc true) = true ∧
        (reply lib w event).countP (WsCall.isAnswer lib) = 1 := by
  cases event with
  | message message created inside =>
      left
      cases message with
      | text body =>
          rw [reply]
          cases interpret lib body with
          | ok request => exact isAnswer_answers w.signaling request
          | error what => rfl
      | _ => rfl
  | connector event =>
      cases event with
      | complete completion =>
          cases completion with
          | setLocalDescription desc success =>
              cases success with
              | false => exact .inl rfl
              | true =>
                  cases hOwed : World.owes w (.setLocalDescription desc true) with
                  | false => exact .inl (by simp [reply, speaker, hOwed])
                  | true =>
                      rw [reply]
                      cases speaker w (.connector (.complete (.setLocalDescription desc true))) with
                      | none => exact .inl rfl
                      | some peer =>
                          refine .inr ⟨desc, rfl, hOwed, ?_⟩
                          simp [WsCall.isAnswer, SignalingClient.sdpAnswerMessage, Json.field, Json.find, Json.text,
                            Json.asString]
          | _ => exact .inl rfl
      | iceCandidate candidate =>
          left
          cases candidate with
          | none => rfl
          | some init =>
              rw [reply]
              cases speaker w (.connector (.iceCandidate (some init))) with
              | none => rfl
              | some peer =>
                  simp [WsCall.isAnswer, SignalingClient.iceCandidateMessage, Json.field, Json.find, Json.text,
                    Json.asString]
      | _ => exact .inl rfl
  | _ => exact .inl rfl

/-- The answers that have gone out and the operations under way are no more than the offers made. -/
def Balanced (lib : Libraries) (w : System) : Prop :=
  answersSent lib w.signaling + (peerSide w).underWay ≤ offersMade w

theorem balanced_step {w : System} (h : Balanced lib w) (event : SystemEvent) :
    Balanced lib (step lib env w event) := by
  have hAnswers := answersSent_step lib env w event
  unfold Balanced at h ⊢
  rw [hAnswers]
  rcases isAnswer_reply w event with hNone | ⟨desc, rfl, hOwed, hOne⟩
  · rw [hNone]
    rw [offersMade, peerSide_step]
    cases heard lib w event with
    | none => exact h
    | some connected =>
        have hSteps : Moves True _ w (World.step (SignalingClient.iface lib) env w connected) :=
          moves_step w connected (fun _ => trivial) fun _ _ => trivial
        have hMoves := balanced_moves hSteps
        rw [Option.elim_some]
        unfold offersMade at h hMoves
        omega
  · obtain ⟨peer, hHeld, hRun⟩ := complete_owed (SignalingClient.iface lib) env hOwed
    have hStep : step lib env w (.connector (.complete (.setLocalDescription desc true))) = _ :=
      congrArg finalState hRun
    have hAwaited : (peer, Operation.setLocalDescription desc) ∈ (peerSide w).webrtc.awaiting := by
      rw [World.owes, hHeld] at hOwed
      exact of_decide_eq_true hOwed
    have hSettled : peerSide (step lib env w (.connector (.complete (.setLocalDescription desc true)))) =
        (peerSide w).settled peer (.setLocalDescription desc) := by
      rw [hStep]
      exact leavesPeers_callSignaling ((SignalingClient.iface lib).sendSdpAnswer desc)
        (paid w peer (.setLocalDescription desc true))
    have hFewer := Peers.underWay_settled hAwaited
    rw [hOne, offersMade, hSettled, Peers.offersMade_settled]
    unfold offersMade at h
    omega

variable (lib env) in
/-- **Never more answers than offers.**  In every run of a connector with its signaling client, the SDP answers
sent are no more than the offers that peer connections were given, and those no more than the offers received,
whatever is closed, reconnected or throws in between. -/
theorem answers_le_offers (wsUri : String) (authenticator : Authenticator) (states : Nat → DataState)
    (iceServers : List IceServerConfig) (events : List SystemEvent) :
    let w : System := run (step lib env) (initial wsUri authenticator states iceServers) events
    answersSent lib w.signaling ≤ offersMade w ∧ offersMade w ≤ events.countP (receivesOffer lib) := by
  constructor
  · have hFresh : Balanced lib (initial wsUri authenticator states iceServers) := Nat.le_refl 0
    have hBalanced : Balanced lib (run (step lib env) (initial wsUri authenticator states iceServers) events) :=
      run_invariant (I := Balanced lib) (A := fun _ => True) (fun _ event _ hStep => balanced_step hStep event)
        hFresh fun _ _ => trivial
    exact Nat.le_trans (Nat.le_add_right _ _) hBalanced
  · have hCount := le_countP (I := fun _ => True) offersMade
      (fun w event _ => ⟨trivial, offersMade_step lib env w event⟩)
      (s := initial wsUri authenticator states iceServers) trivial events
    exact Nat.le_trans hCount (Nat.le_of_eq (Nat.zero_add _))

end System

end MosaicCore
