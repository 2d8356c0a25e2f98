import MosaicCore.Core.HandlerSide
import MosaicCore.Core.Negotiation

/-!
# The media tracks of a peer connection

When an offer has been set, `CreateAllMediaTracks` goes through the registered handlers in the order of their names,
asks each for a source, and adds its track.  Over whole runs, as long as no `Close` of a handler throws and
`InitializeWebRTC` is not called in the middle of a session, a track is added to a peer connection at most once, in the
order of the names, and only for a handler that is registered and gave a source and a track (`tracks_added_in_order`).
This rests on the completion that starts the tracks being owed at most once for each peer connection, which is what
`Negotiates` says of `awaiting`.
-/

namespace MosaicCore

open EffectProgram EventRun Typestate

/-! ## The tracks added -/

/-- The track a call adds to a peer connection. -/
def RtcCall.trackAdded (peer : Nat) : RtcCall → Option String
  | .addTrack other trackName => if other = peer then some trackName else none
  | _ => none

/-- The tracks added to a peer connection, oldest first. -/
def addedTracks (peer : Nat) (calls : List RtcCall) : List String :=
  calls.filterMap (RtcCall.trackAdded peer)

/-- The handlers that give a source and a track, by name. -/
def trackNames (entries : List (String × MediaTrackHandler)) : List String :=
  (entries.filter fun e => e.2.videoSource && e.2.videoTrack).map Prod.fst

@[simp] theorem addedTracks_append (peer : Nat) (calls more : List RtcCall) :
    addedTracks peer (calls ++ more) = addedTracks peer calls ++ addedTracks peer more :=
  List.filterMap_append ..

theorem addedTracks_eq_nil {peer : Nat} {calls : List RtcCall}
    (hNone : ∀ call ∈ calls, call.trackAdded peer = none) : addedTracks peer calls = [] :=
  List.filterMap_eq_nil_iff.mpr hNone

/-- `CreateAllMediaTracks` adds the tracks of the handlers that give one. -/
theorem addedTracks_trackCalls (peer : Nat) (entries : List (String × MediaTrackHandler)) :
    addedTracks peer (Peers.trackCalls peer entries) = trackNames entries := by
  induction entries with
  | nil => rfl
  | cons e entries ih =>
      have hCalls : Peers.trackCalls peer (e :: entries) =
          Peers.trackCalls peer [e] ++ Peers.trackCalls peer entries := by
        simp [Peers.trackCalls]
      rw [hCalls, addedTracks_append, ih]
      cases hSource : e.2.videoSource with
      | false => simp [Peers.trackCalls, addedTracks, trackNames, hSource]
      | true =>
          cases hTrack : e.2.videoTrack <;>
            simp [Peers.trackCalls, addedTracks, trackNames, List.filterMap_cons, RtcCall.trackAdded, hSource, hTrack]

/-- And to the peer connection it was called for only. -/
theorem trackAdded_other {peer other : Nat} (hOther : peer ≠ other) {entries : List (String × MediaTrackHandler)} :
    ∀ call ∈ Peers.trackCalls peer entries, call.trackAdded other = none := by
  intro call hCall
  cases call with
  | addTrack target trackName =>
      obtain ⟨hSame, -⟩ := Peers.trackCalls_uses _ hCall target rfl
      exact if_neg fun hTarget => hOther (hSame.trans hTarget)
  | _ => rfl

namespace Peers

/-- The tracks added to each peer connection are those of handlers, in their order; none are added before the offer
has been set. -/
structure AddsInOrder (entries : List (String × MediaTrackHandler)) (p : Peers) : Prop where
  fresh : ∀ peer, p.webrtc.created ≤ peer → addedTracks peer p.webrtc.calls = []
  waiting : ∀ peer, (peer, .setRemoteDescription) ∈ p.webrtc.awaiting → addedTracks peer p.webrtc.calls = []
  sublist : ∀ peer, (addedTracks peer p.webrtc.calls).Sublist (trackNames entries)

variable {entries : List (String × MediaTrackHandler)} {p : Peers}

/-- Calls that add no tracks, other peer connections held, and fewer offers waited for. -/
theorem AddsInOrder.quiet (h : p.AddsInOrder entries) {p' : Peers} (more : List RtcCall)
    (hCreated : p.webrtc.created ≤ p'.webrtc.created)
    (hAwaiting : ∀ peer, (peer, .setRemoteDescription) ∈ p'.webrtc.awaiting →
      (peer, .setRemoteDescription) ∈ p.webrtc.awaiting ∨ p.webrtc.created ≤ peer)
    (hCalls : p'.webrtc.calls = p.webrtc.calls ++ more)
    (hMore : ∀ call ∈ more, ∀ peer, call.trackAdded peer = none) : p'.AddsInOrder entries := by
  have hSame : ∀ peer, addedTracks peer p'.webrtc.calls = addedTracks peer p.webrtc.calls := by
    intro peer
    rw [hCalls, addedTracks_append, addedTracks_eq_nil fun call hCall => hMore call hCall peer, List.append_nil]
  refine ⟨fun peer hLater => ?_, fun peer hOwed => ?_, fun peer => ?_⟩
  · rw [hSame]
    exact h.fresh peer (hCreated.trans hLater)
  · rw [hSame]
    rcases hAwaiting peer hOwed with hOld | hLater
    · exact h.waiting peer hOld
    · exact h.fresh peer hLater
  · rw [hSame]
    exact h.sublist peer

/-- Tracks are added once the offer has been set, and it is no longer waited for. -/
theorem AddsInOrder.tracks (h : p.AddsInOrder entries) (hOnce : p.webrtc.awaiting.Nodup) {peer : Nat}
    (hLess : peer < p.webrtc.created) (hOwed : (peer, .setRemoteDescription) ∈ p.webrtc.awaiting)
    {more : List RtcCall} (hMore : more <+: trackCalls peer entries) :
    ((p.settled peer .setRemoteDescription).asked more).AddsInOrder entries := by
  have hAdded : ∀ other, addedTracks other (p.webrtc.calls ++ more) =
      if other = peer then addedTracks peer more else addedTracks other p.webrtc.calls := by
    intro other
    rw [addedTracks_append]
    by_cases hSame : other = peer
    · rw [if_pos hSame, hSame, h.waiting peer hOwed, List.nil_append]
    · rw [if_neg hSame, addedTracks_eq_nil fun call hCall =>
        trackAdded_other (fun hPeer => hSame hPeer.symm) call (hMore.subset hCall), List.append_nil]
  refine ⟨fun other hLater => ?_, fun other hMem => ?_, fun other => ?_⟩
  · show addedTracks other (p.webrtc.calls ++ more) = []
    rw [hAdded, if_neg fun hSame => absurd hLess (Nat.not_lt.mpr (by rwa [← hSame]))]
    exact h.fresh other hLater
  · obtain ⟨hOther, hOld⟩ := hOnce.mem_erase_iff.mp hMem
    show addedTracks other (p.webrtc.calls ++ more) = []
    rw [hAdded, if_neg fun hSame => hOther (by rw [hSame])]
    exact h.waiting other hOld
  · show (addedTracks other (p.webrtc.calls ++ more)).Sublist _
    rw [hAdded]
    by_cases hSame : other = peer
    · rw [if_pos hSame]
      have hPrefix : addedTracks peer more <+: addedTracks peer (trackCalls peer entries) := hMore.filterMap _
      rw [addedTracks_trackCalls] at hPrefix
      exact hPrefix.sublist
    · rw [if_neg hSame]
      exact h.sublist other

/-- **Every move adds tracks in order.** -/
theorem AddsInOrder.move (h : p.AddsInOrder entries) (hNegotiates : p.Negotiates) {p' : Peers}
    (hMove : Move False entries p p') : p'.AddsInOrder entries := by
  cases hMove with
  | accept servers sdpOffer =>
      refine h.quiet (.createPeerConnectionOrError servers (some p.webrtc.created) ::
        p.held.toList.map .release ++ [.setRemoteDescription p.webrtc.created sdpOffer]) (Nat.le_succ _) ?_ ?_ ?_
      · intro peer hOwed
        rcases List.mem_append.mp hOwed with hOld | hLast
        · exact .inl hOld
        · cases List.mem_singleton.mp hLast
          exact .inr (Nat.le_refl _)
      · simp [Peers.started, Peers.asked, Peers.opened]
      · intro call hCall peer
        rcases List.mem_append.mp hCall with hOpened | hLast
        · rcases List.mem_cons.mp hOpened with rfl | hReleased
          · rfl
          · obtain ⟨old, -, rfl⟩ := List.mem_map.mp hReleased
            rfl
        · cases List.mem_singleton.mp hLast
          rfl
  | createFailed servers =>
      refine h.quiet _ (Nat.le_refl _) (fun _ hOwed => .inl hOwed) rfl fun call hCall peer => ?_
      cases List.mem_singleton.mp hCall
      rfl
  | reoffer hKept => exact hKept.elim
  | candidate peer hHeld candidate =>
      refine h.quiet _ (Nat.le_refl _) (fun _ hOwed => .inl hOwed) rfl fun call hCall peer => ?_
      cases List.mem_singleton.mp hCall
      rfl
  | settle peer hHeld operation hOwed =>
      exact h.quiet _ (Nat.le_refl _) (fun _ hMem => .inl (List.mem_of_mem_erase hMem)) (List.append_nil _).symm
        (by simp)
  | tracks peer hHeld hOwed more hMore =>
      exact h.tracks hNegotiates.owed_once (hNegotiates.held_lt peer hHeld) hOwed hMore
  | answer peer hHeld hOwed =>
      have hTracks := h.tracks hNegotiates.owed_once (hNegotiates.held_lt peer hHeld) hOwed (List.prefix_refl _)
      refine hTracks.quiet [.createAnswer peer] (Nat.le_refl _) ?_ ?_ ?_
      · intro other hMem
        rcases List.mem_append.mp hMem with hOld | hLast
        · exact .inl hOld
        · simp at hLast
      · simp [Peers.started, Peers.asked, Peers.settled]
      · intro call hCall other
        cases List.mem_singleton.mp hCall
        rfl
  | setLocal peer hHeld hOwed sdp =>
      refine h.quiet _ (Nat.le_refl _) (fun other hMem => ?_) rfl fun call hCall other => ?_
      · rcases List.mem_append.mp hMem with hOld | hLast
        · exact .inl (List.mem_of_mem_erase hOld)
        · simp at hLast
      · cases List.mem_singleton.mp hCall
        rfl
  | close =>
      refine h.quiet _ (Nat.le_refl _) (fun _ hOwed => .inl hOwed) rfl fun call hCall other => ?_
      obtain ⟨peer, -, hMem⟩ := List.mem_flatMap.mp hCall
      rcases List.mem_pair.mp hMem with rfl | rfl <;> rfl
  | drop =>
      refine h.quiet _ (Nat.le_refl _) (fun _ hOwed => .inl hOwed) rfl fun call hCall other => ?_
      obtain ⟨peer, -, rfl⟩ := List.mem_map.mp hCall
      rfl
  | stopThread thread =>
      refine h.quiet _ (Nat.le_refl _) (fun _ hOwed => .inl hOwed) rfl fun call hCall peer => ?_
      cases List.mem_singleton.mp hCall
      rfl

theorem AddsInOrder.moves (h : p.AddsInOrder entries) (hNegotiates : p.Negotiates) {p' : Peers}
    (hMoves : Relation.ReflTransGen (Move False entries) p p') : p'.AddsInOrder entries := by
  have hBoth : p'.AddsInOrder entries ∧ p'.Negotiates := by
    induction hMoves with
    | refl => exact ⟨h, hNegotiates⟩
    | tail _ hMove ih => exact ⟨ih.1.move ih.2 hMove, ih.2.move hMove⟩
  exact hBoth.1

/-- More handlers. -/
theorem AddsInOrder.mono (h : p.AddsInOrder entries) {entries' : List (String × MediaTrackHandler)}
    (hMore : entries.Sublist entries') : p.AddsInOrder entries' where
  fresh := h.fresh
  waiting := h.waiting
  sublist peer := (h.sublist peer).trans ((hMore.filter _).map _)

end Peers

namespace World

variable {σ : Type} {sc : ISignalingClient σ} {env : Environment}

/-- The registered media track handlers. -/
def mediaTrackHandlers (w : World σ) : List (String × MediaTrackHandler) :=
  w.connector.mediaTrackHandlersDict.entries

/-- Handlers are registered and never removed. -/
def HandlersStay (w w' : World σ) : Prop :=
  (mediaTrackHandlers w).Sublist (mediaTrackHandlers w')

instance isPreorder_handlersStay : IsPreorder (World σ) HandlersStay where
  refl _ := List.Sublist.refl _
  trans _ _ _ := List.Sublist.trans

theorem OpensOnly.handlersStay {trackNames : List String} {w w' : World σ} (h : OpensOnly trackNames w w') :
    HandlersStay w w' := by
  rw [HandlersStay, mediaTrackHandlers, mediaTrackHandlers, h.1]

theorem handlersStay_complete (completion : Completion) : Within HandlersStay (complete sc env completion) := by
  have hKeeps {p : Program (World σ) Unit} (hp : KeepsHandlers p) : Within HandlersStay p :=
    (hp.opensOnly []).mono fun _ _ => OpensOnly.handlersStay
  refine within_complete (fun w peer => ?_) fun peer => within_onCompletion (fun _ => ?_) (fun desc => ?_) fun _ _ => ?_
  · exact List.Sublist.refl _
  · exact fun w => (afterSetSessionDescription_opensOnly w).handlersStay
  · exact hKeeps (within_afterCreateSdpAnswer (fun _ => keepsHandlers_rtcCall _) fun _ => keepsHandlers_rtcStart _ _)
  · exact hKeeps (keepsHandlers_callSignaling _)

theorem handlersStay_step (event : ConnectorEvent) : Within HandlersStay (handle sc env event) := by
  have hKeeps {p : Program (World σ) Unit} (hp : KeepsHandlers p) : Within HandlersStay p :=
    (hp.opensOnly []).mono fun _ _ => OpensOnly.handlersStay
  have hOpens {p : Program (World σ) Unit} (hp : Within (OpensOnly []) p) : Within HandlersStay p :=
    hp.mono fun _ _ => OpensOnly.handlersStay
  have hClose (inside : Reentry) : Within HandlersStay (closePeerConnection sc env (deliver sc env inside)) :=
    hOpens (opensOnly_closePeerConnection (opensOnly_deliver inside))
  cases event with
  | initializeWebRTC factory => exact hKeeps (keepsHandlers_initializeWebRTC factory)
  | addDataChannelHandler label => exact within_addDataChannelHandler fun _ => List.Sublist.refl _
  | addMediaTrackHandler trackName handler =>
      exact within_addMediaTrackHandler fun w => w.connector.mediaTrackHandlersDict.sublist_insert _ _
  | sdpOffer sdpOffer created inside =>
      exact within_handleSdpOffer (hClose inside) (hKeeps (keepsHandlers_acceptOffer _ _))
  | closeMessage inside => exact hClose inside
  | iceCandidateMessage candidate => exact hKeeps (keepsHandlers_handleIceCandidate candidate)
  | complete completion => exact handlersStay_complete completion
  | connectionChange newState inside =>
      exact within_fromPeer fun _ => within_onConnectionChange (hKeeps (keepsHandlers_setState _)) (hClose inside)
  | iceCandidate candidate => exact hKeeps (keepsHandlers_iceCandidate candidate)
  | dataChannel label => exact hOpens (deliverDataChannel_opensOnly label)
  | channelState channel state => exact within_modify fun _ => List.Sublist.refl _
  | stateBroadcast => exact hKeeps keepsHandlers_sendState
  | shuttingDown inside =>
      exact within_shuttingDown (hKeeps (keepsHandlers_setState _)) (hKeeps keepsHandlers_stopSignalingServer)
        (hClose inside) (hKeeps (keepsHandlers_assignPeerConnection _)) (hKeeps keepsHandlers_destroyFactoryAndThreads)

/-- Names in the order of the dictionary. -/
theorem trackNames_sublist_keys (m : OrderedMap String MediaTrackHandler) : (trackNames m.entries).Sublist m.keys :=
  List.filter_sublist.map _

/-- Before anything has been asked of libwebrtc. -/
theorem addsInOrder_wired (signaling : σ) (states : Nat → DataState) (iceServers : List IceServerConfig) :
    (peerSide (wired signaling states iceServers)).AddsInOrder
      (mediaTrackHandlers (wired signaling states iceServers)) where
  fresh _ _ := rfl
  waiting _ hOwed := by cases hOwed
  sublist _ := List.nil_sublist _

theorem addsInOrder_step (hCloses : env.ClosesCalmly) {w : World σ} {event : ConnectorEvent} (hInOrder : InOrder w)
    (h : (peerSide w).AddsInOrder (mediaTrackHandlers w)) :
    (peerSide (step sc env w event)).AddsInOrder (mediaTrackHandlers (step sc env w event)) := by
  have hMoves : Moves False (mediaTrackHandlers w) w (step sc env w event) :=
    moves_step w event hInOrder.ready fun inside => not_heldWhenReady_close sc hCloses hInOrder.ready inside
  exact (h.moves hInOrder.negotiates hMoves).mono (handlersStay_step event w)

/-- **A track is added to a peer connection at most once**, in the order of the names, and only for a registered
handler that gave a source and a track: in any run in which no `Close` of a handler throws and `InitializeWebRTC` is
not called while a peer connection is held. -/
theorem tracks_added_in_order (hCloses : env.ClosesCalmly) (signaling : σ) (states : Nat → DataState)
    (iceServers : List IceServerConfig) {events : List ConnectorEvent}
    (hEvents : EachStep (step sc env) InitializesUnheld (wired signaling states iceServers) events) (peer : Nat) :
    let w := run (step sc env) (wired signaling states iceServers) events
    (addedTracks peer w.webrtc.calls).Sublist (trackNames w.connector.mediaTrackHandlersDict.entries) ∧
      (addedTracks peer w.webrtc.calls).Pairwise (· < ·) := by
  intro w
  have hBoth : InOrder w ∧ (peerSide w).AddsInOrder (mediaTrackHandlers w) := by
    refine hEvents.keeps (I := fun w => InOrder w ∧ (peerSide w).AddsInOrder (mediaTrackHandlers w))
      (fun w event h hEvent => ?_) ?_
    · exact ⟨inOrder_step hCloses hEvent h.1, addsInOrder_step hCloses h.1 h.2⟩
    · exact ⟨inOrder_wired signaling states iceServers, addsInOrder_wired signaling states iceServers⟩
  have hSublist := hBoth.2.sublist peer
  refine ⟨hSublist, ?_⟩
  exact w.connector.mediaTrackHandlersDict.sorted.sublist (hSublist.trans (trackNames_sublist_keys _))

/-- Two handlers, registered in the other order, and one that gives no source, on a connector initialized twice. -/
theorem tracks_added_in_order_two_cameras :
    let w := run (step .offline .calm) (wired () (fun _ => .kOpen) [])
      [.initializeWebRTC true, .addMediaTrackHandler "rear" {}, .addMediaTrackHandler "front" {},
        .addMediaTrackHandler "side" { videoSource := false }, .initializeWebRTC true, .sdpOffer "v=0" true .done,
        .complete (.setRemoteDescription true)]
    (addedTracks 0 w.webrtc.calls).Sublist (trackNames w.connector.mediaTrackHandlersDict.entries) ∧
      (addedTracks 0 w.webrtc.calls).Pairwise (· < ·) :=
  tracks_added_in_order Environment.neverThrows_calm.closesCalmly () (fun _ => .kOpen) []
    (by exact ⟨rfl, trivial, trivial, trivial, rfl, trivial, trivial, trivial⟩) 0

end World

end MosaicCore
