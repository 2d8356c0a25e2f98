import MosaicCore.Core.Session

/-!
# What the routines do to the signaling client

The connector reaches the signaling client only through its interface: whatever relation between states of the
client every call keeps to, every routine of the connector keeps to (`signalingMoves_handle`).  Almost all of
them only ever send the state; an answer or a candidate is sent from the two callbacks that have one.
-/

namespace MosaicCore

open EffectProgram

namespace World

variable {σ α : Type} {sc : ISignalingClient σ} {env : Environment} {R : σ → σ → Prop}

instance [IsPreorder σ R] : IsPreorder (World σ) fun w w' => R w.signaling w'.signaling where
  refl w := Std.Refl.refl w.signaling
  trans _ _ _ hFirst hSecond := IsTrans.trans _ _ _ hFirst hSecond

variable (R) in
/-- The routine moves the signaling client only along the relation. -/
def SignalingMoves (p : Program (World σ) α) : Prop :=
  Within (fun w w' => R w.signaling w'.signaling) p

variable [IsPreorder σ R]

/-! ## Routines that do not use it -/

theorem signalingMoves_modify {f : World σ → World σ} (hf : ∀ w, (f w).signaling = w.signaling) :
    SignalingMoves R (modify f : Program (World σ) Unit) := by
  refine within_modify fun w => ?_
  rw [hf]
  exact Std.Refl.refl w.signaling

omit [IsPreorder σ R] in
theorem signalingMoves_onSignaling {p : Program σ Unit} (hp : Within R p) :
    SignalingMoves R (onSignaling p) :=
  within_zoom hp fun _ _ h => h

theorem signalingMoves_rtcCall (call : RtcCall) :
    SignalingMoves R (rtcCall call : Program (World σ) Unit) :=
  signalingMoves_modify fun _ => rfl

theorem signalingMoves_rtcStart (peer : Nat) (operation : Operation) :
    SignalingMoves R (rtcStart peer operation : Program (World σ) Unit) :=
  signalingMoves_modify fun _ => rfl

theorem signalingMoves_assignPeerConnection (peer : Option Nat) :
    SignalingMoves R (assignPeerConnection peer : Program (World σ) Unit) :=
  within_assignPeerConnection (fun _ => signalingMoves_rtcCall _) fun w => Std.Refl.refl w.signaling

theorem signalingMoves_invoke (callback : Callback) :
    SignalingMoves R (invoke env callback : Program (World σ) Unit) :=
  within_invoke fun w => Std.Refl.refl w.signaling

theorem signalingMoves_onDataChannelHandler (label : String) (p : Program (Endpoint DataBuffer) Unit) :
    SignalingMoves R (onDataChannelHandler label p : Program (World σ) Unit) :=
  within_onDataChannelHandler fun w _ => Std.Refl.refl w.signaling

theorem signalingMoves_createPeerConnection (created : Bool) :
    SignalingMoves R (createPeerConnection created : Program (World σ) Unit) :=
  within_createPeerConnection (fun w => Std.Refl.refl w.signaling) (fun _ _ => signalingMoves_rtcCall _)
    (fun w => Std.Refl.refl w.signaling) fun _ => signalingMoves_assignPeerConnection _

theorem signalingMoves_createMediaTrack (trackName : String) (handler : MediaTrackHandler) :
    SignalingMoves R (createMediaTrack env trackName handler : Program (World σ) Unit) :=
  within_createMediaTrack (signalingMoves_invoke _) (signalingMoves_rtcCall _)
    fun _ => signalingMoves_rtcCall _

theorem signalingMoves_afterSetSessionDescription :
    SignalingMoves R (afterSetSessionDescription env : Program (World σ) Unit) :=
  within_afterSetSessionDescription (fun _ _ => signalingMoves_createMediaTrack _ _)
    (fun _ => signalingMoves_rtcCall _) fun _ => signalingMoves_rtcStart _ _

theorem signalingMoves_handleIceCandidate (candidate : CandidateInit) :
    SignalingMoves R (handleIceCandidateFromSignaling candidate : Program (World σ) Unit) :=
  within_handleIceCandidate fun _ => signalingMoves_rtcCall _

theorem signalingMoves_destroyFactoryAndThreads :
    SignalingMoves R (destroyFactoryAndThreads : Program (World σ) Unit) :=
  within_destroyFactoryAndThreads (fun _ => signalingMoves_rtcCall _)
    fun w _ _ _ => Std.Refl.refl w.signaling

theorem signalingMoves_destroyPeerConnectionManager :
    SignalingMoves R (destroyPeerConnectionManager : Program (World σ) Unit) := by
  apply within_bind
  · exact signalingMoves_assignPeerConnection _
  intro _
  exact signalingMoves_destroyFactoryAndThreads

theorem signalingMoves_deliverDataChannel (label : String) :
    SignalingMoves R (deliverDataChannel env label : Program (World σ) Unit) := by
  have hChannel (channel : Nat) : SignalingMoves R (onDataChannel env label channel) :=
    within_onDataChannel (fun _ => signalingMoves_onDataChannelHandler _ _) (signalingMoves_invoke _)
  exact within_deliverDataChannel (fun w => Std.Refl.refl w.signaling) hChannel

/-! ## Routines that send -/

theorem signalingMoves_callSignaling {p : Program σ Unit} (hp : Within R p) :
    SignalingMoves R (callSignaling p) :=
  within_callSignaling (signalingMoves_onSignaling hp)

theorem signalingMoves_complete {completion : Completion}
    (hAnswer : ∀ desc, completion = .setLocalDescription desc true → Within R (sc.sendSdpAnswer desc)) :
    SignalingMoves R (complete sc env completion) := by
  apply within_complete
  · exact fun w _ => Std.Refl.refl w.signaling
  intro peer
  apply within_onCompletion
  · exact fun _ => signalingMoves_afterSetSessionDescription
  · intro desc
    exact within_afterCreateSdpAnswer (fun _ => signalingMoves_rtcCall _)
      fun _ => signalingMoves_rtcStart _ _
  · intro desc hSame
    exact signalingMoves_callSignaling (hAnswer desc hSame)

section SendsState

variable (sc) (hState : ∀ state, Within R (sc.sendState state))

include hState

theorem signalingMoves_sendState : SignalingMoves R (sendState sc) :=
  within_sendState fun state => signalingMoves_onSignaling (hState state)

theorem signalingMoves_setState (newState : ConnectorState) : SignalingMoves R (setState sc newState) :=
  within_setState (fun w => Std.Refl.refl w.signaling) (signalingMoves_sendState sc hState)

theorem signalingMoves_closePeerConnection {during : Program (World σ) Unit}
    (hDuring : SignalingMoves R during) : SignalingMoves R (closePeerConnection sc env during) := by
  have hDrop : SignalingMoves R (closeAndDrop during) :=
    within_closeAndDrop (fun _ => signalingMoves_rtcCall _) hDuring (signalingMoves_assignPeerConnection _)
  apply within_closePeerConnection
  · exact signalingMoves_setState sc hState
  · exact within_closeAllMediaTracks fun _ => signalingMoves_invoke _
  · exact within_closeAllDataChannels fun _ => signalingMoves_onDataChannelHandler _ _
  · exact hDrop

theorem signalingMoves_deliver (reentry : Reentry) : SignalingMoves R (deliver sc env reentry) :=
  within_deliver (fun _ hDuring => signalingMoves_closePeerConnection sc hState hDuring) reentry

theorem signalingMoves_handleSdpOffer (sdpOffer : String) (created : Bool) (inside : Reentry) :
    SignalingMoves R (handleSdpOffer sc env sdpOffer created inside) := by
  have hRemote : SignalingMoves R (setRemoteDescription sc sdpOffer) :=
    within_setRemoteDescription (signalingMoves_setState sc hState _) (fun _ => signalingMoves_rtcCall _)
      fun _ => signalingMoves_rtcStart _ _
  apply within_handleSdpOffer
  · exact signalingMoves_closePeerConnection sc hState (signalingMoves_deliver sc hState inside)
  · exact within_acceptOffer (signalingMoves_setState sc hState _) (signalingMoves_createPeerConnection _)
      hRemote

theorem signalingMoves_onConnectionChange (newState : PeerConnectionState) (inside : Reentry) :
    SignalingMoves R (onConnectionChange sc env newState (deliver sc env inside)) :=
  within_onConnectionChange (signalingMoves_setState sc hState _)
    (signalingMoves_closePeerConnection sc hState (signalingMoves_deliver sc hState inside))

/-- **The connector reaches the signaling client only through its interface.** -/
theorem signalingMoves_handle {event : ConnectorEvent}
    (hStop : ∀ inside, event = .shuttingDown inside → Within R sc.stop)
    (hAnswer : ∀ desc, event = .complete (.setLocalDescription desc true) →
      Within R (sc.sendSdpAnswer desc))
    (hCandidate : ∀ peer init, event = .iceCandidate (some init) →
      Within R (sc.sendIceCandidate ⟨peer, init⟩)) :
    SignalingMoves R (handle sc env event) := by
  cases event with
  | initializeWebRTC factory =>
      apply within_bind
      · exact signalingMoves_modify fun _ => rfl
      intro _
      exact signalingMoves_setState sc hState _
  | addDataChannelHandler label => exact within_addDataChannelHandler fun w => Std.Refl.refl w.signaling
  | addMediaTrackHandler trackName handler =>
      exact within_addMediaTrackHandler fun w => Std.Refl.refl w.signaling
  | sdpOffer sdpOffer created inside => exact signalingMoves_handleSdpOffer sc hState _ _ _
  | closeMessage inside =>
      exact signalingMoves_closePeerConnection sc hState (signalingMoves_deliver sc hState inside)
  | iceCandidateMessage candidate => exact signalingMoves_handleIceCandidate candidate
  | complete completion =>
      exact signalingMoves_complete fun desc hSame => hAnswer desc (hSame ▸ rfl)
  | connectionChange newState inside =>
      exact within_fromPeer fun _ => signalingMoves_onConnectionChange sc hState _ _
  | iceCandidate candidate =>
      apply within_iceCandidate
      rintro peer init rfl
      exact signalingMoves_callSignaling (hCandidate peer init rfl)
  | dataChannel label => exact signalingMoves_deliverDataChannel label
  | channelState channel state => exact signalingMoves_modify fun _ => rfl
  | stateBroadcast => exact signalingMoves_sendState sc hState
  | shuttingDown inside =>
      apply within_shuttingDown
      · exact signalingMoves_setState sc hState _
      · exact within_stopSignalingServer (signalingMoves_onSignaling (hStop inside rfl))
          fun w => Std.Refl.refl w.signaling
      · exact signalingMoves_closePeerConnection sc hState (signalingMoves_deliver sc hState inside)
      · exact signalingMoves_assignPeerConnection _
      · exact signalingMoves_destroyFactoryAndThreads

end SendsState

end World

end MosaicCore
