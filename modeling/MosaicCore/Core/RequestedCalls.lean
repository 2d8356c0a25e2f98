import MosaicCore.Core.PeerMoves

/-!
# Calls that a message asks for

Two things libwebrtc is asked for only because a message asks for them: an offer is set, and a candidate is added.  For
any kind of call among these, `callsOf` is the calls of the kind, oldest first, and an event leaves them alone unless
it is such a message (`makesNone_step`).
-/

namespace MosaicCore

open EffectProgram

/-- A message asks for the call. -/
def RtcCall.isRequested : RtcCall → Bool
  | .setRemoteDescription _ _ => true
  | .addIceCandidate _ _ => true
  | _ => false

/-- A kind of call among those that messages ask for. -/
def OnlyRequested (kind : RtcCall → Bool) : Prop := ∀ call, kind call = true → call.isRequested = true

theorem OnlyRequested.eq_false {kind : RtcCall → Bool} (hKind : OnlyRequested kind) {call : RtcCall}
    (hCall : call.isRequested = false) : kind call = false := by
  cases hSame : kind call with
  | false => rfl
  | true =>
      rw [hKind call hSame] at hCall
      cases hCall

/-- The event is a message that asks for a call of the kind. -/
def ConnectorEvent.asksFor (kind : RtcCall → Bool) : ConnectorEvent → Prop
  | .sdpOffer text _ _ => ∃ peer, kind (.setRemoteDescription peer text) = true
  | .iceCandidateMessage candidate => ∃ peer, kind (.addIceCandidate peer candidate) = true
  | _ => False

namespace World

variable {σ α : Type} {sc : ISignalingClient σ} {env : Environment} {kind : RtcCall → Bool}

/-- The calls of a kind, oldest first. -/
def callsOf (kind : RtcCall → Bool) (w : World σ) : List RtcCall := (peerSide w).webrtc.calls.filter kind

/-- The routine makes no call of the kind. -/
def MakesNone (kind : RtcCall → Bool) (p : Program (World σ) α) : Prop :=
  Within (fun w w' => callsOf kind w' = callsOf kind w) p

theorem LeavesPeers.makesNone {p : Program (World σ) α} (h : LeavesPeers p) : MakesNone kind p :=
  h.mono fun _ _ => congrArg fun p : Peers => p.webrtc.calls.filter kind

theorem callsOf_rtcCall (call : RtcCall) (w : World σ) :
    callsOf kind (finalState ((rtcCall call).run w)) = callsOf kind w ++ [call].filter kind :=
  List.filter_append ..

theorem makesNone_rtcCall {call : RtcCall} (hCall : kind call = false) :
    MakesNone kind (rtcCall call : Program (World σ) Unit) := by
  intro w
  rw [callsOf_rtcCall]
  simp [hCall]

theorem makesNone_rtcStart (peer : Nat) (operation : Operation) :
    MakesNone kind (rtcStart peer operation : Program (World σ) Unit) :=
  within_modify fun _ => rfl

section Kind

variable (hKind : OnlyRequested kind)

include hKind

theorem makesNone_assignPeerConnection (peer : Option Nat) :
    MakesNone kind (assignPeerConnection peer : Program (World σ) Unit) :=
  within_assignPeerConnection (fun _ => makesNone_rtcCall (hKind.eq_false rfl)) fun _ => rfl

theorem makesNone_createPeerConnection (created : Bool) :
    MakesNone kind (createPeerConnection created : Program (World σ) Unit) :=
  within_createPeerConnection (fun _ => rfl) (fun _ _ => makesNone_rtcCall (hKind.eq_false rfl)) (fun _ => rfl)
    fun _ => makesNone_assignPeerConnection hKind _

theorem makesNone_closePeerConnection (inside : Reentry) :
    MakesNone kind (closePeerConnection sc env (deliver sc env inside)) := by
  intro w
  rcases peers_closePeerConnection sc env w inside with hSame | hClosed
  · exact congrArg (fun p : Peers => p.webrtc.calls.filter kind) hSame
  · refine (congrArg (fun p : Peers => p.webrtc.calls.filter kind) hClosed).trans ?_
    cases hHeld : (peerSide w).held with
    | none => simp [Peers.closed, callsOf, hHeld]
    | some peer =>
        have hClose : kind (.close peer) = false := hKind.eq_false rfl
        have hRelease : kind (.release peer) = false := hKind.eq_false rfl
        simp [Peers.closed, callsOf, hHeld, hClose, hRelease]

theorem makesNone_complete (completion : Completion) : MakesNone kind (complete sc env completion) := by
  have hNone {call : RtcCall} (hCall : call.isRequested = false) :
      MakesNone kind (rtcCall call : Program (World σ) Unit) := makesNone_rtcCall (hKind.eq_false hCall)
  refine within_complete (fun _ _ => rfl) fun peer =>
    within_onCompletion (fun _ => ?_) (fun desc => ?_) fun desc _ => ?_
  · refine within_afterSetSessionDescription (fun _ _ => ?_) (fun _ => hNone rfl) fun _ => makesNone_rtcStart _ _
    exact within_createMediaTrack (leavesPeers_invoke _).makesNone (hNone rfl) fun _ => hNone rfl
  · exact within_afterCreateSdpAnswer (fun _ => hNone rfl) fun _ => makesNone_rtcStart _ _
  · exact (leavesPeers_callSignaling _).makesNone

theorem makesNone_shuttingDown (inside : Reentry) : MakesNone kind (shuttingDown sc env inside) :=
  within_shuttingDown (leavesPeers_setState _).makesNone leavesPeers_stopSignalingServer.makesNone
    (makesNone_closePeerConnection hKind inside) (makesNone_assignPeerConnection hKind _)
    (within_destroyFactoryAndThreads (fun _ => makesNone_rtcCall (hKind.eq_false rfl)) fun _ _ _ _ => rfl)

theorem makesNone_handleSdpOffer {sdpOffer : String}
    (hOther : ∀ peer, kind (.setRemoteDescription peer sdpOffer) = false) (created : Bool)
    (inside : Reentry) : MakesNone kind (handleSdpOffer sc env sdpOffer created inside) :=
  within_handleSdpOffer (makesNone_closePeerConnection hKind inside)
    (within_acceptOffer (leavesPeers_setState _).makesNone (makesNone_createPeerConnection hKind created)
      (within_setRemoteDescription (leavesPeers_setState _).makesNone (fun peer => makesNone_rtcCall (hOther peer))
        fun _ => makesNone_rtcStart _ _))

/-- **Only a message that asks for it leads to a call.** -/
theorem makesNone_step {event : ConnectorEvent} (hOther : ¬ event.asksFor kind) :
    MakesNone kind (handle sc env event) := by
  cases event with
  | initializeWebRTC factory => exact (leavesPeers_initializeWebRTC _).makesNone
  | addDataChannelHandler label => exact within_addDataChannelHandler fun _ => rfl
  | addMediaTrackHandler trackName handler => exact within_addMediaTrackHandler fun _ => rfl
  | sdpOffer sdpOffer created inside =>
      refine makesNone_handleSdpOffer hKind (fun peer => ?_) created inside
      exact Bool.eq_false_iff.mpr fun hSame => hOther ⟨peer, hSame⟩
  | closeMessage inside => exact makesNone_closePeerConnection hKind inside
  | iceCandidateMessage candidate =>
      refine within_handleIceCandidate fun peer => makesNone_rtcCall ?_
      exact Bool.eq_false_iff.mpr fun hSame => hOther ⟨peer, hSame⟩
  | complete completion => exact makesNone_complete hKind completion
  | connectionChange newState inside =>
      exact within_fromPeer fun _ => within_onConnectionChange (leavesPeers_setState _).makesNone
        (makesNone_closePeerConnection hKind inside)
  | iceCandidate candidate => exact within_iceCandidate fun _ _ _ => (leavesPeers_callSignaling _).makesNone
  | dataChannel label => exact (leavesPeers_deliverDataChannel _).makesNone
  | channelState channel state => exact within_modify fun _ => rfl
  | stateBroadcast => exact leavesPeers_sendState.makesNone
  | shuttingDown inside => exact makesNone_shuttingDown hKind inside

end Kind

end World

end MosaicCore
