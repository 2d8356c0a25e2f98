import Mathlib.Logic.Relation
import MosaicCore.Core.Session

/-!
# What happens to the peer connections

`Peers` is libwebrtc's side of the object graph with the peer connection held.  Between two events only a few
things ever happen to it, and `Peers.Move` lists them, each with the calls it makes and the completions it waits
for: an offer is accepted, a description is answered, a peer connection is closed.  Every event of the connector,
whatever throws in it, is a sequence of such moves (`moves_step`), so that what all runs do to the peer
connections is a case analysis over the moves.

One of the moves is there for a slip of the source only: after a `Close` of a handler has thrown, the peer
connection is still held in READY_TO_CONNECT, and an offer whose creation fails is made to the old one.  It is
marked by the parameter `kept`.
-/

namespace MosaicCore

open EffectProgram EventRun

/-- The peer connection a call is about. -/
def RtcCall.peer : RtcCall → Option Nat
  | .createPeerConnectionOrError _ result => result
  | .setRemoteDescription peer _ => some peer
  | .createAnswer peer => some peer
  | .setLocalDescription peer _ => some peer
  | .createVideoTrack _ => none
  | .addTrack peer _ => some peer
  | .addIceCandidate peer _ => some peer
  | .close peer => some peer
  | .release peer => some peer
  | .stopThread _ => none

/-- The peer connection held, and libwebrtc's side. -/
structure Peers where
  held : Option Nat
  webrtc : WebRtc

namespace Peers

/-- Some calls are made. -/
def asked (p : Peers) (more : List RtcCall) : Peers :=
  { p with webrtc := { p.webrtc with calls := p.webrtc.calls ++ more } }

/-- A completion is waited for. -/
def started (p : Peers) (peer : Nat) (operation : Operation) : Peers :=
  { p with webrtc := { p.webrtc with awaiting := p.webrtc.awaiting ++ [(peer, operation)] } }

/-- A completion has come. -/
def settled (p : Peers) (peer : Nat) (operation : Operation) : Peers :=
  { p with webrtc := { p.webrtc with awaiting := p.webrtc.awaiting.erase (peer, operation) } }

/-- A peer connection is created and held; whatever was held before is released. -/
def opened (p : Peers) (servers : List IceServer) : Peers where
  held := some p.webrtc.created
  webrtc :=
    { p.webrtc with
      calls := p.webrtc.calls ++ .createPeerConnectionOrError servers (some p.webrtc.created) ::
        p.held.toList.map .release
      created := p.webrtc.created + 1 }

/-- The peer connection held is closed and released. -/
def closed (p : Peers) : Peers where
  held := none
  webrtc :=
    { p.webrtc with
      calls := p.webrtc.calls ++ p.held.toList.flatMap fun peer => [.close peer, .release peer] }

/-- The peer connection held is released. -/
def dropped (p : Peers) : Peers where
  held := none
  webrtc := { p.webrtc with calls := p.webrtc.calls ++ p.held.toList.map .release }

/-- The calls of `CreateAllMediaTracks`, when no handler throws. -/
def trackCalls (peer : Nat) (entries : List (String × MediaTrackHandler)) : List RtcCall :=
  entries.flatMap fun e =>
    if e.2.videoSource then
      .createVideoTrack e.1 :: if e.2.videoTrack then [.addTrack peer e.1] else []
    else []

/-- What can happen, with the media track handlers registered. -/
inductive Move (kept : Prop) (entries : List (String × MediaTrackHandler)) (p : Peers) : Peers → Prop
  /-- An offer is accepted. -/
  | accept (servers : List IceServer) (sdpOffer : String) :
      Move kept entries p
        (((p.opened servers).asked [.setRemoteDescription p.webrtc.created sdpOffer]).started
          p.webrtc.created .setRemoteDescription)
  /-- A peer connection cannot be created. -/
  | createFailed (servers : List IceServer) :
      Move kept entries p (p.asked [.createPeerConnectionOrError servers none])
  /-- It cannot be created, and the offer is made to the one still held. -/
  | reoffer (hKept : kept) (peer : Nat) (hHeld : p.held = some peer) (servers : List IceServer)
      (sdpOffer : String) :
      Move kept entries p
        ((p.asked [.createPeerConnectionOrError servers none, .setRemoteDescription peer sdpOffer]).started
          peer .setRemoteDescription)
  /-- The server sends a candidate. -/
  | candidate (peer : Nat) (hHeld : p.held = some peer) (candidate : CandidateInit) :
      Move kept entries p (p.asked [.addIceCandidate peer candidate])
  /-- An operation has failed, or what should follow it throws at once. -/
  | settle (peer : Nat) (hHeld : p.held = some peer) (operation : Operation)
      (hOwed : (peer, operation) ∈ p.webrtc.awaiting) : Move kept entries p (p.settled peer operation)
  /-- A handler throws while tracks are added. -/
  | tracks (peer : Nat) (hHeld : p.held = some peer)
      (hOwed : (peer, .setRemoteDescription) ∈ p.webrtc.awaiting) (more : List RtcCall)
      (hMore : more <+: trackCalls peer entries) :
      Move kept entries p ((p.settled peer .setRemoteDescription).asked more)
  /-- Tracks are added, and an answer is asked for. -/
  | answer (peer : Nat) (hHeld : p.held = some peer)
      (hOwed : (peer, .setRemoteDescription) ∈ p.webrtc.awaiting) :
      Move kept entries p
        (((p.settled peer .setRemoteDescription).asked
          (trackCalls peer entries ++ [.createAnswer peer])).started peer .createAnswer)
  /-- The answer is there, and is set. -/
  | setLocal (peer : Nat) (hHeld : p.held = some peer)
      (hOwed : (peer, .createAnswer) ∈ p.webrtc.awaiting) (sdp : String) :
      Move kept entries p
        (((p.settled peer .createAnswer).asked [.setLocalDescription peer ⟨peer, sdp⟩]).started peer
          (.setLocalDescription ⟨peer, sdp⟩))
  | close : Move kept entries p p.closed
  | drop : Move kept entries p p.dropped
  | stopThread (thread : RtcThread) : Move kept entries p (p.asked [.stopThread thread])

end Peers

namespace World

variable {σ α : Type} {sc : ISignalingClient σ} {env : Environment} {kept : Prop}
variable {entries : List (String × MediaTrackHandler)}

/-- The peer connections of an object graph. -/
def peerSide (w : World σ) : Peers where
  held := w.manager.peerConnection
  webrtc := w.webrtc

/-- From one object graph to another, by moves. -/
def Moves (kept : Prop) (entries : List (String × MediaTrackHandler)) (w w' : World σ) : Prop :=
  Relation.ReflTransGen (Peers.Move kept entries) (peerSide w) (peerSide w')

instance isPreorder_moves : IsPreorder (World σ) (Moves kept entries) where
  refl _ := .refl
  trans _ _ _ := .trans

theorem moves_of_eq {w w' : World σ} (h : peerSide w' = peerSide w) : Moves kept entries w w' := by
  rw [Moves, h]

theorem moves_of_move {w w' : World σ} (h : Peers.Move kept entries (peerSide w) (peerSide w')) :
    Moves kept entries w w' :=
  .single h

/-! ## Routines that leave the peer connections alone -/

/-- The routine does not touch the peer connections. -/
def LeavesPeers (p : Program (World σ) α) : Prop :=
  Within (fun w w' => peerSide w' = peerSide w) p

theorem LeavesPeers.moves {p : Program (World σ) α} (h : LeavesPeers p) : Within (Moves kept entries) p :=
  h.mono fun _ _ => moves_of_eq

theorem leavesPeers_onSignaling (p : Program σ Unit) : LeavesPeers (onSignaling p) :=
  within_zoom (S := fun _ _ => True) (fun _ => trivial) fun _ _ _ => rfl

theorem leavesPeers_invoke (callback : Callback) :
    LeavesPeers (invoke env callback : Program (World σ) Unit) :=
  within_invoke fun _ => rfl

theorem leavesPeers_onDataChannelHandler (label : String) (p : Program (Endpoint DataBuffer) Unit) :
    LeavesPeers (onDataChannelHandler label p : Program (World σ) Unit) :=
  within_onDataChannelHandler fun _ _ => rfl

theorem leavesPeers_sendState : LeavesPeers (sendState sc) :=
  within_sendState fun _ => leavesPeers_onSignaling _

theorem leavesPeers_setState (newState : ConnectorState) : LeavesPeers (setState sc newState) :=
  within_setState (fun _ => rfl) leavesPeers_sendState

theorem leavesPeers_closeAllMediaTracks : LeavesPeers (closeAllMediaTracks env : Program (World σ) Unit) :=
  within_closeAllMediaTracks fun _ => leavesPeers_invoke _

theorem leavesPeers_closeAllDataChannels : LeavesPeers (closeAllDataChannels : Program (World σ) Unit) :=
  within_closeAllDataChannels fun _ => leavesPeers_onDataChannelHandler _ _

theorem leavesPeers_callSignaling (p : Program σ Unit) : LeavesPeers (callSignaling p) :=
  within_callSignaling (leavesPeers_onSignaling p)

theorem leavesPeers_deliverDataChannel (label : String) :
    LeavesPeers (deliverDataChannel env label : Program (World σ) Unit) :=
  within_deliverDataChannel (fun _ => rfl) fun _ =>
    within_onDataChannel (fun _ => leavesPeers_onDataChannelHandler _ _) (leavesPeers_invoke _)

theorem leavesPeers_initializeWebRTC (factory : Bool) : LeavesPeers (initializeWebRTC sc factory) := by
  apply within_bind
  · exact within_modify fun _ => rfl
  intro _
  exact leavesPeers_setState _

theorem leavesPeers_stopSignalingServer : LeavesPeers (stopSignalingServer sc) :=
  within_stopSignalingServer (leavesPeers_onSignaling _) fun _ => rfl

/-! ## Closing -/

variable (sc env) in
/-- Entered in RTC_DISCONNECTING, the body of the `try` block either leaves the peer connection alone or closes
and drops it. -/
theorem peers_closeHandlersAndDrop {w : World σ} (hIdle : connecting w = false) (inside : Reentry) :
    let p' := peerSide (finalState ((closeHandlersAndDrop env (deliver sc env inside)).run w))
    p' = peerSide w ∨ p' = (peerSide w).closed := by
  have hMedia := (leavesPeers_closeAllMediaTracks : LeavesPeers (closeAllMediaTracks env)) w
  have hMediaSession := (keepsSession_closeAllMediaTracks : KeepsSession (closeAllMediaTracks env)) w
  intro p'
  simp only [p', closeHandlersAndDrop, finalState_bind]
  cases hFirst : (closeAllMediaTracks env).run w with
  | error e w₁ =>
      rw [hFirst] at hMedia
      exact .inl hMedia
  | ok _ w₁ =>
      rw [hFirst, finalState_ok] at hMedia hMediaSession
      have hData := leavesPeers_closeAllDataChannels w₁
      have hDataSession := keepsSession_closeAllDataChannels w₁
      dsimp only
      cases hSecond : closeAllDataChannels.run w₁ with
      | error e w₂ =>
          rw [hSecond] at hData
          exact .inl (hData.trans hMedia)
      | ok _ w₂ =>
          rw [hSecond, finalState_ok] at hData hDataSession
          have hIdle₂ : connecting w₂ = false :=
            (connecting_congr (by rw [hDataSession, hMediaSession])).trans hIdle
          simp only [closeAndDrop_run sc env hIdle₂, finalState_ok]
          right
          rw [← hMedia, ← hData]
          cases hPeer : w₂.manager.peerConnection <;> simp [World.dropped, peerSide, Peers.closed, hPeer]

variable (sc env) in
/-- `ClosePeerConnection` leaves the peer connection alone or closes and drops it, whatever throws. -/
theorem peers_closePeerConnection (w : World σ) (inside : Reentry) :
    let p' := peerSide (finalState ((closePeerConnection sc env (deliver sc env inside)).run w))
    p' = peerSide w ∨ p' = (peerSide w).closed := by
  intro p'
  cases hConnecting : connecting w with
  | false =>
      simp only [p', closePeerConnection_idle hConnecting]
      exact .inl rfl
  | true =>
      have hFirst : peerSide (finalState ((setState sc .rtcDisconnecting).run w)) = peerSide w :=
        leavesPeers_setState .rtcDisconnecting w
      have hState := session_setState sc .rtcDisconnecting w
      simp only [p']
      rw [closePeerConnection_eq hConnecting, finalState_bind]
      cases hSet : (setState sc .rtcDisconnecting).run w with
      | error e w₁ =>
          rw [hSet] at hFirst
          exact .inl hFirst
      | ok _ w₁ =>
          rw [hSet, finalState_ok] at hFirst hState
          have hIdle : connecting w₁ = false :=
            connecting_eq_false .rtcDisconnecting (congrArg Session.state hState) (by decide)
          have hBody := peers_closeHandlersAndDrop sc env hIdle inside
          -- What follows the `try` block only sets the state.
          have hRest : LeavesPeers (onConnectionDisconnected sc) := leavesPeers_setState .readyToConnect
          dsimp only
          rw [unchanged_bind fun _ => hRest, catchException, finalState_recover, ← hFirst]
          exact hBody

theorem moves_closePeerConnection (inside : Reentry) :
    Within (Moves kept entries) (closePeerConnection sc env (deliver sc env inside)) := by
  intro w
  rcases peers_closePeerConnection sc env w inside with hSame | hClosed
  · exact moves_of_eq hSame
  · refine moves_of_move ?_
    rw [hClosed]
    exact .close

/-! ## Offers -/

/-- What `CreatePeerConnection` does to the peer connections, when the factory is there. -/
theorem createPeerConnection_peers {w : World σ} (hFactory : w.manager.peerConnectionFactory = true)
    (created : Bool) :
    Ends (createPeerConnection created) w fun _ w' =>
      peerSide w' =
        if created then (peerSide w).opened (w.manager.iceServers.map getIceServer)
        else (peerSide w).asked [.createPeerConnectionOrError (w.manager.iceServers.map getIceServer) none] := by
  cases created with
  | false => exact ⟨(), _, by simp [createPeerConnection, hFactory, rtcCall]; rfl, rfl⟩
  | true =>
      cases hHeld : w.manager.peerConnection with
      | none =>
          refine ⟨(), _, by simp [createPeerConnection, assignPeerConnection, rtcCall, hFactory, hHeld]; rfl, ?_⟩
          simp [peerSide, Peers.opened, hHeld]
      | some old =>
          refine ⟨(), _, by simp [createPeerConnection, assignPeerConnection, rtcCall, hFactory, hHeld]; rfl, ?_⟩
          simp [peerSide, Peers.opened, hHeld]

theorem setRemoteDescription_peers {w : World σ} {peer : Nat} (hHeld : w.manager.peerConnection = some peer)
    (sdpOffer : String) :
    peerSide (finalState ((setRemoteDescription sc sdpOffer).run w)) =
      ((peerSide w).asked [.setRemoteDescription peer sdpOffer]).started peer .setRemoteDescription := by
  rw [setRemoteDescription_some hHeld]
  rfl

/-- `HandleSdpOffer` from the creation on. -/
theorem moves_createAndOffer (sdpOffer : String) (created : Bool) {w : World σ}
    (hKept : w.manager.peerConnection.isSome = true → kept) :
    Moves kept entries w
      (finalState ((createPeerConnection created >>= fun _ => setRemoteDescription sc sdpOffer).run w)) := by
  rw [finalState_bind]
  cases hFactory : w.manager.peerConnectionFactory with
  | false =>
      -- Without a factory the null pointer is used before anything is asked for.
      simp only [createPeerConnection, EStateM.run_bind, EStateM.run_modify, EStateM.run_get, hFactory]
      exact moves_of_eq rfl
  | true =>
      obtain ⟨_, w₁, hRun, hPeers⟩ := createPeerConnection_peers hFactory created
      rw [hRun]
      dsimp only
      refine moves_of_move ?_
      cases created with
      | true =>
          rw [if_pos rfl] at hPeers
          rw [setRemoteDescription_peers (congrArg Peers.held hPeers), hPeers]
          exact .accept _ _
      | false =>
          rw [if_neg (by simp)] at hPeers
          have hHeld : w₁.manager.peerConnection = w.manager.peerConnection := congrArg Peers.held hPeers
          cases hOld : w.manager.peerConnection with
          | none =>
              -- Nothing is held, so there is nothing to make the offer to.
              have hFailed : peerSide (finalState ((setState sc .rtcFailed).run w₁)) = peerSide w₁ :=
                leavesPeers_setState .rtcFailed w₁
              rw [setRemoteDescription_none (hHeld.trans hOld), hFailed, hPeers]
              exact .createFailed _
          | some old =>
              rw [setRemoteDescription_peers (hHeld.trans hOld), hPeers]
              have hMove : Peers.Move kept entries (peerSide w) _ :=
                .reoffer (hKept (by rw [hOld]; rfl)) old hOld (w.manager.iceServers.map getIceServer) sdpOffer
              simpa [Peers.asked] using hMove

/-- Taking up an offer, or refusing it. -/
theorem moves_acceptOffer (sdpOffer : String) (created : Bool) {w : World σ}
    (hKept : (session w).state = .readyToConnect → w.manager.peerConnection.isSome = true → kept) :
    Moves kept entries w (finalState ((acceptOffer sc sdpOffer created).run w)) := by
  by_cases hState : (session w).state = .readyToConnect
  · have hSet : peerSide (finalState ((setState sc .rtcConnecting).run w)) = peerSide w :=
      leavesPeers_setState .rtcConnecting w
    rw [acceptOffer_ready hState, finalState_bind]
    cases hRun : (setState sc .rtcConnecting).run w with
    | error e w₁ =>
        rw [hRun] at hSet
        exact moves_of_eq hSet
    | ok _ w₁ =>
        rw [hRun, finalState_ok] at hSet
        have hHeld : w₁.manager.peerConnection = w.manager.peerConnection := congrArg Peers.held hSet
        exact IsTrans.trans _ _ _ (moves_of_eq hSet)
          (moves_createAndOffer sdpOffer created (by rw [hHeld]; exact hKept hState))
  · rw [acceptOffer_refused hState]
    exact .refl

/-! ## Completions -/

theorem asked_nil (p : Peers) : p.asked [] = p := by
  simp [Peers.asked]

theorem asked_asked (p : Peers) (more rest : List RtcCall) : (p.asked more).asked rest = p.asked (more ++ rest) := by
  simp [Peers.asked]

variable (env) in
/-- One handler: its track is added, or it throws before anything is asked for. -/
theorem peers_createMediaTrack {w : World σ} {peer : Nat} (hHeld : w.manager.peerConnection = some peer)
    (trackName : String) (handler : MediaTrackHandler) :
    (∃ e w', (createMediaTrack env trackName handler).run w = .error e w' ∧ peerSide w' = peerSide w) ∨
      ∃ w', (createMediaTrack env trackName handler).run w = .ok () w' ∧
        peerSide w' = (peerSide w).asked (Peers.trackCalls peer [(trackName, handler)]) := by
  have hSource : peerSide (finalState
      ((invoke env (.createVideoTrackSource trackName handler.videoSource)).run w)) = peerSide w :=
    leavesPeers_invoke _ w
  rw [createMediaTrack, EStateM.run_bind]
  cases hRun : (invoke env (.createVideoTrackSource trackName handler.videoSource)).run w with
  | error e w₁ =>
      rw [hRun] at hSource
      exact .inl ⟨e, w₁, rfl, hSource⟩
  | ok _ w₁ =>
      rw [hRun, finalState_ok] at hSource
      have hHeld₁ : w₁.manager.peerConnection = some peer := (congrArg Peers.held hSource).trans hHeld
      rw [← hSource]
      cases hVideo : handler.videoSource with
      | false => exact .inr ⟨w₁, by simp, by simp [Peers.trackCalls, hVideo, asked_nil]⟩
      | true =>
          cases hFactory : w₁.manager.peerConnectionFactory with
          | false =>
              refine .inl ⟨.nullDereference "peer_connection_factory_", w₁, ?_, rfl⟩
              simp [createVideoTrack, hFactory]
          | true =>
              right
              cases hTrack : handler.videoTrack with
              | false =>
                  refine ⟨_, by simp [createVideoTrack, rtcCall, hFactory, hTrack]; rfl, ?_⟩
                  simp [peerSide, Peers.trackCalls, Peers.asked, hVideo, hTrack]
              | true =>
                  refine ⟨_, by simp [createVideoTrack, addTrack, rtcCall, hFactory, hTrack, hHeld₁]; rfl, ?_⟩
                  simp [peerSide, Peers.trackCalls, Peers.asked, hVideo, hTrack, hHeld₁]

variable (env) in
/-- All handlers: the tracks are added in their order, up to the handler that throws. -/
theorem peers_createMediaTracks {peer : Nat} (tracks : List (String × MediaTrackHandler)) {w : World σ}
    (hHeld : w.manager.peerConnection = some peer) :
    (∃ e w' more, (tracks.forM fun e => createMediaTrack env e.1 e.2).run w = .error e w' ∧
        more <+: Peers.trackCalls peer tracks ∧ peerSide w' = (peerSide w).asked more) ∨
      ∃ w', (tracks.forM fun e => createMediaTrack env e.1 e.2).run w = .ok () w' ∧
        peerSide w' = (peerSide w).asked (Peers.trackCalls peer tracks) := by
  induction tracks generalizing w with
  | nil => exact .inr ⟨w, rfl, (asked_nil _).symm⟩
  | cons track tracks ih =>
      have hCalls : Peers.trackCalls peer (track :: tracks) =
          Peers.trackCalls peer [track] ++ Peers.trackCalls peer tracks := by
        simp [Peers.trackCalls]
      have hLoop : ((track :: tracks).forM fun e => createMediaTrack env e.1 e.2).run w =
          (createMediaTrack env track.1 track.2 >>= fun _ =>
            tracks.forM fun e => createMediaTrack env e.1 e.2).run w := rfl
      rw [hLoop, EStateM.run_bind, hCalls]
      rcases peers_createMediaTrack env hHeld track.1 track.2 with
        ⟨e, w₁, hRun, hSame⟩ | ⟨w₁, hRun, hFirst⟩
      · rw [hRun]
        refine .inl ⟨e, w₁, [], rfl, List.nil_prefix, ?_⟩
        rw [hSame, asked_nil]
      · have hHeld₁ : w₁.manager.peerConnection = some peer := (congrArg Peers.held hFirst).trans hHeld
        rw [hRun]
        rcases ih hHeld₁ with ⟨e, w₂, more, hRest, hMore, hPeers⟩ | ⟨w₂, hRest, hPeers⟩
        · refine .inl ⟨e, w₂, Peers.trackCalls peer [track] ++ more, hRest, ?_, ?_⟩
          · exact (List.prefix_append_right_inj _).mpr hMore
          · rw [hPeers, hFirst, asked_asked]
        · exact .inr ⟨w₂, hRest, by rw [hPeers, hFirst, asked_asked]⟩

/-- What follows a completion that the peer connection held owes. -/
theorem moves_complete (completion : Completion) (w : World σ) :
    Moves kept w.connector.mediaTrackHandlersDict.entries w
      (finalState ((complete sc env completion).run w)) := by
  cases hOwed : owes w completion with
  | false =>
      rw [complete_idle hOwed]
      exact .refl
  | true =>
      obtain ⟨peer, hHeld, hRun⟩ := complete_owed sc env hOwed
      have hAwaited : (peer, completion.operation) ∈ (peerSide w).webrtc.awaiting := by
        simpa [owes, hHeld, peerSide] using hOwed
      have hPaid : peerSide (paid w peer completion) = (peerSide w).settled peer completion.operation := rfl
      have hHeldPaid : (paid w peer completion).manager.peerConnection = some peer := hHeld
      have hSettle : Peers.Move kept w.connector.mediaTrackHandlersDict.entries (peerSide w) _ :=
        .settle peer hHeld completion.operation hAwaited
      rw [hRun]
      -- One case for each branch of `onCompletion`.
      cases completion with
      | setRemoteDescription ok =>
          cases ok with
          | false => exact moves_of_move hSettle
          | true =>
              refine moves_of_move ?_
              show Peers.Move _ _ _ (peerSide (finalState
                ((createAllMediaTracks env >>= fun _ => do
                  let peer ← dereference "peer_connection_" (← get).manager.peerConnection
                  rtcCall (.createAnswer peer)
                  rtcStart peer .createAnswer).run (paid w peer (.setRemoteDescription true)))))
              rw [finalState_bind]
              have hLoop : (createAllMediaTracks env).run (paid w peer (.setRemoteDescription true)) =
                  (w.connector.mediaTrackHandlersDict.entries.forM fun e => createMediaTrack env e.1 e.2).run
                    (paid w peer (.setRemoteDescription true)) := rfl
              rw [hLoop]
              rcases peers_createMediaTracks env w.connector.mediaTrackHandlersDict.entries hHeldPaid with
                ⟨e, w₁, more, hTracks, hMore, hPeers⟩ | ⟨w₁, hTracks, hPeers⟩
              · rw [hTracks]
                show Peers.Move _ _ _ (peerSide w₁)
                rw [hPeers]
                exact .tracks peer hHeld hAwaited more hMore
              · have hHeld₁ : w₁.manager.peerConnection = some peer := (congrArg Peers.held hPeers).trans hHeldPaid
                have hAnswer : Peers.Move kept w.connector.mediaTrackHandlersDict.entries (peerSide w) _ :=
                  .answer peer hHeld hAwaited
                have hWebRtc : w₁.webrtc = (((peerSide w).settled peer .setRemoteDescription).asked
                    (Peers.trackCalls peer w.connector.mediaTrackHandlersDict.entries)).webrtc :=
                  congrArg Peers.webrtc hPeers
                rw [hTracks]
                simpa [hHeld, hHeld₁, hWebRtc, rtcCall, rtcStart, peerSide, Peers.asked, Peers.started,
                  Peers.settled] using hAnswer
      | createAnswer sdp =>
          cases sdp with
          | none => exact moves_of_move hSettle
          | some sdp =>
              have hSet : Peers.Move kept w.connector.mediaTrackHandlersDict.entries (peerSide w) _ :=
                .setLocal peer hHeld hAwaited sdp
              refine moves_of_move ?_
              simpa [onCompletion, afterCreateSdpAnswer, paid, hHeld, rtcCall, rtcStart, peerSide, Peers.asked,
                Peers.started, Peers.settled, Completion.operation] using hSet
      | setLocalDescription desc ok =>
          cases ok with
          | false => exact moves_of_move hSettle
          | true =>
              have hSent := leavesPeers_callSignaling (sc.sendSdpAnswer desc)
                (paid w peer (.setLocalDescription desc true))
              refine IsTrans.trans _ _ _ (moves_of_move hSettle : Moves _ _ w (paid w peer _)) ?_
              exact moves_of_eq hSent

/-! ## `ShuttingDown`, and every event -/

theorem moves_destroyPeerConnectionManager :
    Within (Moves kept entries) (destroyPeerConnectionManager : Program (World σ) Unit) := by
  apply within_bind
  · intro w
    refine moves_of_move ?_
    cases hHeld : w.manager.peerConnection with
    | none =>
        have hDrop : Peers.Move kept entries (peerSide w) _ := .drop
        simpa [assignPeerConnection, peerSide, Peers.dropped, hHeld] using hDrop
    | some peer =>
        have hDrop : Peers.Move kept entries (peerSide w) _ := .drop
        simpa [assignPeerConnection, rtcCall, peerSide, Peers.dropped, hHeld] using hDrop
  intro _
  refine within_destroyFactoryAndThreads (fun thread => ?_) fun w manager hHeld _ => ?_
  · exact within_modify fun w => moves_of_move (.stopThread thread)
  · exact moves_of_eq (by simp [peerSide, hHeld])

theorem moves_shuttingDown (inside : Reentry) :
    Within (Moves kept entries) (shuttingDown sc env inside) := by
  apply within_bind
  · exact (leavesPeers_setState _).moves
  intro _
  apply within_bind
  · exact leavesPeers_stopSignalingServer.moves
  intro _
  apply within_bind
  · exact moves_closePeerConnection inside
  intro _
  exact moves_destroyPeerConnectionManager

/-- A peer connection is held in READY_TO_CONNECT. -/
def HeldWhenReady (w : World σ) : Prop :=
  (session w).state = .readyToConnect ∧ w.manager.peerConnection.isSome = true

/-- **Every event is a sequence of moves.**  An offer is made to a peer connection that was kept only if one is held
in READY_TO_CONNECT, or once the offer has closed what there was. -/
theorem moves_step (w : World σ) (event : ConnectorEvent) (hKept : HeldWhenReady w → kept)
    (hClosed : ∀ inside, HeldWhenReady
      (finalState ((closePeerConnection sc env (deliver sc env inside)).run w)) → kept) :
    Moves kept w.connector.mediaTrackHandlersDict.entries w (step sc env w event) := by
  have hKeeps {p : Program (World σ) Unit} (hp : LeavesPeers p) :
      Moves kept w.connector.mediaTrackHandlersDict.entries w (finalState (p.run w)) := moves_of_eq (hp w)
  cases event with
  | initializeWebRTC factory => exact hKeeps (leavesPeers_initializeWebRTC _)
  | addDataChannelHandler label => exact hKeeps (within_addDataChannelHandler fun _ => rfl)
  | addMediaTrackHandler trackName handler => exact hKeeps (within_addMediaTrackHandler fun _ => rfl)
  | sdpOffer sdpOffer created inside =>
      cases hHeld : w.manager.peerConnection with
      | none =>
          have hRun : step sc env w (.sdpOffer sdpOffer created inside) =
              finalState ((acceptOffer sc sdpOffer created).run w) :=
            congrArg finalState (handleSdpOffer_none hHeld sdpOffer created inside)
          rw [hRun]
          exact moves_acceptOffer sdpOffer created fun hState hSome => hKept ⟨hState, hSome⟩
      | some peer =>
          have hRun : step sc env w (.sdpOffer sdpOffer created inside) =
              finalState ((closePeerConnection sc env (deliver sc env inside) >>= fun _ =>
                acceptOffer sc sdpOffer created).run w) :=
            congrArg finalState (handleSdpOffer_some (by rw [hHeld]; rfl) sdpOffer created inside)
          have hClose : Moves kept w.connector.mediaTrackHandlersDict.entries w
              (finalState ((closePeerConnection sc env (deliver sc env inside)).run w)) :=
            moves_closePeerConnection inside w
          have hKeptAfter := hClosed inside
          rw [hRun, finalState_bind]
          cases hAfter : (closePeerConnection sc env (deliver sc env inside)).run w with
          | error e w₁ =>
              rw [hAfter] at hClose
              exact hClose
          | ok _ w₁ =>
              rw [hAfter, finalState_ok] at hClose hKeptAfter
              exact IsTrans.trans _ _ _ hClose
                (moves_acceptOffer sdpOffer created fun hState hSome => hKeptAfter ⟨hState, hSome⟩)
  | closeMessage inside => exact moves_closePeerConnection inside w
  | iceCandidateMessage candidate =>
      cases hHeld : w.manager.peerConnection with
      | none =>
          have hStay : step sc env w (.iceCandidateMessage candidate) = w := by
            simp [step, handle, handleIceCandidateFromSignaling, hHeld]
          rw [hStay]
          exact .refl
      | some peer =>
          have hMove : Peers.Move kept w.connector.mediaTrackHandlersDict.entries (peerSide w) _ :=
            .candidate peer hHeld candidate
          refine moves_of_move ?_
          simpa [step, handle, handleIceCandidateFromSignaling, hHeld, rtcCall, peerSide, Peers.asked] using hMove
  | complete completion => exact moves_complete completion w
  | connectionChange newState inside =>
      exact within_fromPeer (fun _ => within_onConnectionChange (leavesPeers_setState _).moves
        (moves_closePeerConnection inside)) w
  | iceCandidate candidate =>
      exact hKeeps (within_iceCandidate fun _ _ _ => leavesPeers_callSignaling _)
  | dataChannel label => exact hKeeps (leavesPeers_deliverDataChannel _)
  | channelState channel state => exact .refl
  | stateBroadcast => exact hKeeps leavesPeers_sendState
  | shuttingDown inside => exact moves_shuttingDown inside w

end World

end MosaicCore
