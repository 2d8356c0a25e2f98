import MosaicCore.Core.Handshake
import MosaicCore.Library.EndlessRun
import MosaicCore.Signaling.Answers
import MosaicCore.Signaling.FailingSends

/-!
# Offers that are answered

An offer that a connector can accept is answered, unless something disturbs the negotiation: a new offer, a further
`InitializeWebRTC`, a close, the end of the connection, a shutdown or a failure of libwebrtc.  That is about endless runs: libwebrtc completes in the end
what it has been asked for, in its own time, and anything else may come in between (`offer_is_answered`).
-/

namespace MosaicCore

open EffectProgram EventRun

namespace World

variable {σ α : Type} {sc : ISignalingClient σ} {env : Environment}

/-- The routine leaves the manager's pointer to the signaling client. -/
def KeepsClient (p : Program (World σ) α) : Prop :=
  Within (fun w w' => w'.manager.signalingClient = w.manager.signalingClient) p

theorem keepsClient_rtcCall (call : RtcCall) : KeepsClient (rtcCall call : Program (World σ) Unit) :=
  within_modify fun _ => rfl

theorem keepsClient_assignPeerConnection (peer : Option Nat) :
    KeepsClient (assignPeerConnection peer : Program (World σ) Unit) :=
  within_assignPeerConnection (fun _ => keepsClient_rtcCall _) fun _ => rfl

theorem keepsClient_createPeerConnection (created : Bool) :
    KeepsClient (createPeerConnection created : Program (World σ) Unit) :=
  within_createPeerConnection (fun _ => rfl) (fun _ _ => keepsClient_rtcCall _) (fun _ => rfl)
    fun _ => keepsClient_assignPeerConnection _

theorem keepsClient_setState (newState : ConnectorState) : KeepsClient (setState sc newState) :=
  within_setState (fun _ => rfl) (within_sendState fun _ =>
    within_zoom (S := fun _ _ => True) (fun _ => trivial) fun _ _ _ => rfl)

theorem keepsClient_closePeerConnection (inside : Reentry) :
    KeepsClient (closePeerConnection sc env (deliver sc env inside)) := by
  have hClose {during : Program (World σ) Unit} (hDuring : KeepsClient during) :
      KeepsClient (closePeerConnection sc env during) :=
    within_closePeerConnection (fun _ => keepsClient_setState _)
      (within_closeAllMediaTracks fun _ => within_invoke fun _ => rfl)
      (within_closeAllDataChannels fun _ => within_onDataChannelHandler fun _ _ => rfl)
      (within_closeAndDrop (fun _ => keepsClient_rtcCall _) hDuring (keepsClient_assignPeerConnection _))
  exact hClose (within_deliver (fun _ hDuring => hClose hDuring) inside)

theorem underway_connectorSide {w : World σ} {peer : Nat} {operation : Operation} :
    Underway (connectorSide w) peer operation ↔ Underway w peer operation :=
  ⟨fun h => ⟨h.held, h.factory, h.client, h.owed⟩, fun h => ⟨h.held, h.factory, h.client, h.owed⟩⟩

end World

namespace System

open World SignalingClient

variable (lib : Libraries) (env : Environment)

/-- The connector can accept an offer: it has all it needs, it is ready or has a session to close first, and the
states on the way are sent. -/
structure ReadyForOffer (w : System) : Prop where
  wired : w.signaling.mosaicConnector = true
  client : w.manager.signalingClient = true
  factory : w.manager.peerConnectionFactory = true
  free : (session w).state = .readyToConnect ∨ connecting w = true ∧ w.manager.peerConnection.isSome = true
  sent : ∀ n < 3, lostSend lib w n = false

/-- The event does not disturb a negotiation: it is no new offer, no further `InitializeWebRTC`, no close, no end of the
connection, no shutdown and no failure of libwebrtc. -/
def letsFinish (event : SystemEvent) : Bool :=
  (connectorEvent lib event).all ConnectorEvent.letsFinish

/-- The event is the completion of an operation. -/
def Completes (operation : Operation) (event : SystemEvent) : Prop :=
  ∃ completion, event = .connector (.complete completion) ∧ completion.operation = operation

/-- Nothing disturbs a negotiation, and libwebrtc completes what it owes. -/
structure Undisturbed (w : System) (events : Nat → SystemEvent) : Prop where
  quiet : ∀ t, letsFinish lib (events t) = true
  completes : ∀ t completion, World.owes (stateAt (step lib env) w events t) completion = true →
    ∃ later, t ≤ later ∧ Completes completion.operation (events later)

variable {lib env}

/-! ## Accepting -/

theorem acceptOffer_underway {w : System} (hReady : (session w).state = .readyToConnect)
    (hFactory : w.manager.peerConnectionFactory = true) (hClient : w.manager.signalingClient = true)
    (hSent : lostSend lib w 0 = false) (sdpOffer : String) :
    Underway (finalState ((acceptOffer (SignalingClient.iface lib) sdpOffer true).run w)) w.webrtc.created
      .setRemoteDescription := by
  have hFactory₁ : (session (announced w .rtcConnecting)).peerConnectionFactory = true := hFactory
  obtain ⟨_, w₂, hCreate, hSession⟩ := createPeerConnection_ends hFactory₁ true
  rw [if_pos rfl] at hSession
  have hKept := keepsClient_createPeerConnection true (announced w .rtcConnecting)
  rw [hCreate] at hKept
  have hHeld : w₂.manager.peerConnection = some w.webrtc.created := congrArg Session.peerConnection hSession
  rw [acceptOffer_ready hReady, finalState_bind, setState_run, hSent]
  simp only [Bool.false_eq_true, if_false, finalState_bind, hCreate, setRemoteDescription_some hHeld, finalState_ok]
  exact ⟨hHeld, (congrArg Session.peerConnectionFactory hSession).trans hFactory, hKept.trans hClient,
    List.mem_append_right _ (List.mem_singleton_self _)⟩

/-- **An offer is accepted**, after the session there was before has been closed. -/
theorem ReadyForOffer.accepts (hHandlers : env.NeverThrows) {w : System} (h : ReadyForOffer lib w)
    (sdpOffer : String) (inside : Reentry) :
    Underway (World.step (SignalingClient.iface lib) env w (.sdpOffer sdpOffer true inside)) w.webrtc.created
      .setRemoteDescription := by
  show Underway (finalState ((handleSdpOffer (SignalingClient.iface lib) env sdpOffer true inside).run w)) _ _
  cases hConnecting : connecting w with
  | false =>
      have hReady : (session w).state = .readyToConnect :=
        h.free.resolve_right fun hSession => by rw [hConnecting] at hSession; cases hSession.1
      have hAccepts := acceptOffer_underway hReady h.factory h.client (h.sent 0 (by omega)) sdpOffer
      -- With a peer connection or without, nothing is closed.
      cases hSome : w.manager.peerConnection.isSome with
      | false =>
          rw [handleSdpOffer_none (Option.not_isSome_iff_eq_none.mp (by simp [hSome]))]
          exact hAccepts
      | true =>
          rw [handleSdpOffer_some hSome, finalState_bind, closePeerConnection_idle hConnecting]
          exact hAccepts
  | true =>
      have hSome : w.manager.peerConnection.isSome = true := by
        refine (h.free.resolve_left fun hReady => ?_).2
        rw [connecting_eq_false _ hReady (by decide)] at hConnecting
        cases hConnecting
      obtain ⟨w', hSession, hShift, hRun⟩ := closePeerConnection_run env hConnecting inside
      rw [sessionAfterClose_calm hHandlers] at hSession
      have hClosed : (closePeerConnection (SignalingClient.iface lib) env
          (deliver (SignalingClient.iface lib) env inside)).run w = .ok () w' := by
        rw [hRun lib, h.sent 0 (by omega), h.sent 1 (by omega)]
        rfl
      have hKept : KeepsClient (closePeerConnection (SignalingClient.iface lib) env
          (deliver (SignalingClient.iface lib) env inside)) := keepsClient_closePeerConnection inside
      have hClient := hKept w
      rw [hClosed] at hClient
      rw [handleSdpOffer_some hSome, finalState_bind, hClosed]
      have hCreated : w'.webrtc.created = w.webrtc.created := congrArg Session.created hSession
      rw [← hCreated]
      exact acceptOffer_underway (by rw [hSession]; rfl)
        ((congrArg Session.peerConnectionFactory hSession).trans h.factory) (hClient.trans h.client)
        ((hShift lib 0).trans (h.sent 2 (by omega))) sdpOffer

/-! ## The stages in the system -/

theorem eq_connector_of_complete {event : SystemEvent} {completion : Completion}
    (hEvent : connectorEvent lib event = some (.complete completion)) : event = .connector (.complete completion) := by
  cases event with
  | message message created inside =>
      cases message with
      | text body =>
          rw [connectorEvent] at hEvent
          cases hRequest : interpret lib body with
          | error what => simp [hRequest] at hEvent
          | ok request => cases request <;> simp [hRequest, Request.connectorEvent] at hEvent
      | _ => cases hEvent
  | connector event => exact congrArg SystemEvent.connector (Option.some.inj hEvent)
  | _ => cases hEvent

/-- A stage lasts until its completion, whatever else the system does. -/
theorem underway_step {w : System} {peer : Nat} {operation : Operation} {event : SystemEvent}
    (hQuiet : letsFinish lib event = true) (hOther : ¬ Completes operation event)
    (h : Underway w peer operation) : Underway (step lib env w event) peer operation := by
  rw [← underway_connectorSide, connectorSide_step]
  cases hHeard : heard lib w event with
  | none => exact underway_connectorSide.mpr h
  | some connected =>
      have hEvent := connectorEvent_of_heard hHeard
      rw [letsFinish, hEvent] at hQuiet
      refine underway_connectorSide.mpr (h.step hQuiet fun completion hComplete hSame => hOther ?_)
      exact ⟨completion, eq_connector_of_complete (hComplete ▸ hEvent), hSame⟩

/-- The completion of a stage, in a negotiation that nothing disturbs, is a success. -/
theorem Completes.succeeded {operation : Operation} {event : SystemEvent} (hCompletes : Completes operation event)
    (hQuiet : letsFinish lib event = true) : ∃ completion, event = .connector (.complete completion) ∧
      completion.operation = operation ∧ completion.succeeded = true := by
  obtain ⟨completion, rfl, hSame⟩ := hCompletes
  exact ⟨completion, rfl, hSame, hQuiet⟩

theorem underway_describe (hHandlers : env.NeverThrows) {w : System} {peer : Nat} {event : SystemEvent}
    (hQuiet : letsFinish lib event = true) (hCompletes : Completes .setRemoteDescription event)
    (h : Underway w peer .setRemoteDescription) : Underway (step lib env w event) peer .createAnswer := by
  obtain ⟨completion, rfl, hSame, hSuccess⟩ := hCompletes.succeeded hQuiet
  cases completion with
  | setRemoteDescription ok =>
      obtain rfl : ok = true := hSuccess
      exact h.describe hHandlers
  | _ => cases hSame

theorem underway_setLocal {w : System} {peer : Nat} {event : SystemEvent} (hQuiet : letsFinish lib event = true)
    (hCompletes : Completes .createAnswer event) (h : Underway w peer .createAnswer) :
    ∃ sdp, Underway (step lib env w event) peer (.setLocalDescription ⟨peer, sdp⟩) := by
  obtain ⟨completion, rfl, hSame, hSuccess⟩ := hCompletes.succeeded hQuiet
  cases completion with
  | createAnswer answer =>
      obtain ⟨sdp, rfl⟩ := Option.isSome_iff_exists.mp hSuccess
      exact ⟨sdp, h.setLocal sdp⟩
  | _ => cases hSame

/-- What is sent when the last stage ends. -/
theorem reply_underway {w : System} {desc : SessionDescription}
    (h : Underway w desc.peer (.setLocalDescription desc)) :
    reply lib w (.connector (.complete (.setLocalDescription desc true))) =
      if speaks w.signaling then [.send (sdpAnswerMessage w.signaling.currentRtcConnectionId desc)] else [] := by
  have hOwed : World.owes w (.setLocalDescription desc true) = true := h.owes
  cases hSpeaks : speaks w.signaling <;> simp [reply, speaker, hOwed, h.client, hSpeaks]

variable (lib env) in
/-- **An offer is answered.**  In every endless run from a connector that can accept it, in which no handler throws,
nothing disturbs the negotiation (a further `InitializeWebRTC` would, as a new offer or a close would) and libwebrtc
completes what it owes, there comes a time at which the answer of the new peer connection is sent, under the id that is
in the field by then; or it is lost, if there is no connection or no id at that time. -/
theorem offer_is_answered (hHandlers : env.NeverThrows) {w : System} (hReady : ReadyForOffer lib w)
    {body : List UInt8} {text : String} (hOffer : interpret lib body = .ok (.sdpOffer text)) (inside : Reentry)
    {events : Nat → SystemEvent}
    (hRun : Undisturbed lib env (step lib env w (.message (.text body) true inside)) events) :
    ∃ t sdp, let desc : SessionDescription := ⟨w.webrtc.created, sdp⟩
      let s := stateAt (step lib env) (step lib env w (.message (.text body) true inside)) events t
      events t = .connector (.complete (.setLocalDescription desc true)) ∧
        replies lib (step lib env s (events t)).signaling = replies lib s.signaling ++
          if speaks s.signaling then [.send (sdpAnswerMessage s.signaling.currentRtcConnectionId desc)] else [] := by
  have hKept (operation : Operation) (s : System) (event : SystemEvent) (hQuiet : letsFinish lib event = true)
      (hOther : ¬ Completes operation event) (hStage : Underway s w.webrtc.created operation) :
      Underway (step lib env s event) w.webrtc.created operation := underway_step hQuiet hOther hStage
  -- The offer is accepted.
  have hStart : Underway (stateAt (step lib env) (step lib env w (.message (.text body) true inside)) events 0)
      w.webrtc.created .setRemoteDescription := by
    have hHeard : heard lib w (.message (.text body) true inside) = some (.sdpOffer text true inside) := by
      simp [heard, hReady.wired, connectorEvent, hOffer, Request.connectorEvent]
    rw [stateAt_zero, ← underway_connectorSide, connectorSide_step, hHeard]
    exact underway_connectorSide.mpr (hReady.accepts hHandlers text inside)
  -- Each of the three operations is completed in its turn.
  obtain ⟨t₁, -, hDescribed⟩ := stage_ends (hKept .setRemoteDescription)
    (J := fun s => Underway s w.webrtc.created .createAnswer)
    (fun _ _ hQuiet hCompletes hStage => underway_describe hHandlers hQuiet hCompletes hStage) hRun.quiet hStart
    (hRun.completes 0 (.setRemoteDescription true) hStart.owes)
  obtain ⟨t₂, -, sdp, hSet⟩ := stage_ends (hKept .createAnswer)
    (J := fun s => ∃ sdp, Underway s w.webrtc.created (.setLocalDescription ⟨w.webrtc.created, sdp⟩))
    (fun _ _ hQuiet hCompletes hStage => underway_setLocal hQuiet hCompletes hStage) hRun.quiet hDescribed
    (hRun.completes t₁ (.createAnswer none) hDescribed.owes)
  obtain ⟨t, -, hCompletes, hLast⟩ := stage_lasts (hKept (.setLocalDescription ⟨w.webrtc.created, sdp⟩)) hRun.quiet
    hSet (hRun.completes t₂ (.setLocalDescription ⟨w.webrtc.created, sdp⟩ true) hSet.owes)
  obtain ⟨completion, hEvent, hSame, hSuccess⟩ := hCompletes.succeeded (hRun.quiet t)
  cases completion with
  | setLocalDescription desc ok =>
      obtain rfl : ok = true := hSuccess
      obtain rfl : desc = ⟨w.webrtc.created, sdp⟩ := by simpa [Completion.operation] using hSame
      refine ⟨t, sdp, hEvent, ?_⟩
      rw [replies_step, hEvent, reply_underway hLast]
  | _ => cases hSame

/-- A connected system with an id, and the offer that it receives. -/
def awaitingOffer : System :=
  run (step Audited.twoSessions .calm) fresh
    [.connect "ws://server", .connectSucceeded 0, .setMosaicConnector, .connector (.initializeWebRTC true),
      .message (.text (Audited.bytes (Audited.prepareText "a"))) true .done]

/-- The three operations complete; a broadcast comes in between, and only pongs afterwards. -/
def negotiationEvents : Nat → SystemEvent
  | 0 => .connector (.complete (.setRemoteDescription true))
  | 1 => .connector .stateBroadcast
  | 2 => .connector (.complete (.createAnswer (some "v=1")))
  | 3 => .connector (.complete (.setLocalDescription ⟨0, "v=1"⟩ true))
  | _ => .message .pong true .done

/-- The system once it has received the offer. -/
def offerReceived : System :=
  step Audited.twoSessions .calm awaitingOffer (.message (.text (Audited.bytes Audited.offerText)) true .done)

theorem undisturbed_negotiationEvents : Undisturbed Audited.twoSessions .calm offerReceived negotiationEvents := by
  -- From the fourth event on nothing changes any more.
  have hTail (t : Nat) : stateAt (step Audited.twoSessions .calm) offerReceived negotiationEvents (t + 4) =
      stateAt (step Audited.twoSessions .calm) offerReceived negotiationEvents 4 := by
    induction t with
    | zero => rfl
    | succ t ih => exact ih
  refine ⟨fun t => ?_, fun t completion hOwed => ?_⟩
  · rcases t with _ | _ | _ | _ | t <;> rfl
  · obtain ⟨peer, -, hMem⟩ := mem_awaiting_of_owes hOwed
    rcases t with _ | _ | _ | _ | t
    · have hAwaiting : (stateAt (step Audited.twoSessions .calm) offerReceived negotiationEvents 0).webrtc.awaiting =
          [(0, .setRemoteDescription)] := by decide +kernel
      rw [hAwaiting, List.mem_singleton, Prod.mk.injEq] at hMem
      exact ⟨0, Nat.le_refl _, _, rfl, hMem.2.symm⟩
    · have hAwaiting : (stateAt (step Audited.twoSessions .calm) offerReceived negotiationEvents 1).webrtc.awaiting =
          [(0, .createAnswer)] := by decide +kernel
      rw [hAwaiting, List.mem_singleton, Prod.mk.injEq] at hMem
      exact ⟨2, by omega, _, rfl, hMem.2.symm⟩
    · have hAwaiting : (stateAt (step Audited.twoSessions .calm) offerReceived negotiationEvents 2).webrtc.awaiting =
          [(0, .createAnswer)] := by decide +kernel
      rw [hAwaiting, List.mem_singleton, Prod.mk.injEq] at hMem
      exact ⟨2, by omega, _, rfl, hMem.2.symm⟩
    · have hAwaiting : (stateAt (step Audited.twoSessions .calm) offerReceived negotiationEvents 3).webrtc.awaiting =
          [(0, .setLocalDescription ⟨0, "v=1"⟩)] := by decide +kernel
      rw [hAwaiting, List.mem_singleton, Prod.mk.injEq] at hMem
      exact ⟨3, by omega, _, rfl, hMem.2.symm⟩
    · have hAwaiting : (stateAt (step Audited.twoSessions .calm) offerReceived negotiationEvents 4).webrtc.awaiting =
          [] := by decide +kernel
      rw [hTail t, hAwaiting] at hMem
      cases hMem

/-- An offer that is answered, with a broadcast in the middle of it. -/
theorem offer_is_answered_broadcast :
    ∃ t sdp, let desc : SessionDescription := ⟨awaitingOffer.webrtc.created, sdp⟩
      let s := stateAt (step Audited.twoSessions .calm) offerReceived negotiationEvents t
      negotiationEvents t = .connector (.complete (.setLocalDescription desc true)) ∧
        replies Audited.twoSessions (step Audited.twoSessions .calm s (negotiationEvents t)).signaling =
          replies Audited.twoSessions s.signaling ++
            if speaks s.signaling then [.send (sdpAnswerMessage s.signaling.currentRtcConnectionId desc)] else [] :=
  have hOffer : interpret Audited.twoSessions (Audited.bytes Audited.offerText) = .ok (.sdpOffer "v=0") := rfl
  offer_is_answered Audited.twoSessions .calm Environment.neverThrows_calm
    ⟨by decide +kernel, by decide +kernel, by decide +kernel, .inl (by decide +kernel), by decide +kernel⟩
    hOffer .done undisturbed_negotiationEvents

end System

end MosaicCore
