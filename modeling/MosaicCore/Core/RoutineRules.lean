import MosaicCore.Core.ConnectorRun

/-!
# Rules for the routines

A routine of the connector is a sequence of primitive steps: calls on libwebrtc, on a handler and on the
signaling client, and assignments.  A preorder that holds along each of these steps holds along the routine.

There is one rule for each routine of the source.  Its hypotheses are the routine's own steps, so that the
facts of the other modules (what keeps the session, what keeps the handlers, what moves the signaling client)
are instances, and a change of a routine changes one rule.
-/

namespace MosaicCore

open EffectProgram

namespace World

variable {σ α : Type} {sc : ISignalingClient σ} {env : Environment} {R : World σ → World σ → Prop}
variable [IsPreorder (World σ) R]

/-! ## Primitive steps -/

theorem within_invoke {callback : Callback}
    (hCallback : ∀ w : World σ, R w { w with callbacks := w.callbacks ++ [callback] }) :
    Within R (invoke env callback) := by
  apply within_get_bind
  intro w
  apply within_bind
  · exact within_modify hCallback
  intro _
  exact within_ite (within_throw _) (within_pure _)

theorem within_onDataChannelHandler {label : String} {p : Program (Endpoint DataBuffer) Unit}
    (hPut : ∀ (w : World σ) (e : Endpoint DataBuffer), R w
      { w with
        channels := e.channels
        connector :=
          { w.connector with
            dataChannelHandlersDict :=
              w.connector.dataChannelHandlersDict.modify label fun _ => e.impl } }) :
    Within R (onDataChannelHandler label p) := by
  apply within_get_bind
  intro w
  cases w.connector.dataChannelHandlersDict.find? label with
  | none => exact within_pure _
  | some impl => exact within_zoom (S := fun _ _ => True) (fun _ => trivial) fun w e _ => hPut w e

theorem within_assignPeerConnection {peer : Option Nat}
    (hRelease : ∀ old, Within R (rtcCall (.release old)))
    (hAssign : ∀ w : World σ, R w { w with manager := { w.manager with peerConnection := peer } }) :
    Within R (assignPeerConnection peer) := by
  apply within_get_bind
  intro w
  cases w.manager.peerConnection with
  | none => exact within_modify hAssign
  | some old =>
      apply within_bind
      · exact hRelease old
      intro _
      exact within_modify hAssign

theorem within_fromPeer {p : Nat → Program (World σ) Unit} (hp : ∀ peer, Within R (p peer)) :
    Within R (fromPeer p) := by
  apply within_get_bind
  intro w
  cases w.manager.peerConnection with
  | none => exact within_pure _
  | some peer => exact hp peer

theorem within_callSignaling {p : Program σ Unit} (hp : Within R (onSignaling p)) :
    Within R (callSignaling p) := by
  apply within_get_bind
  intro _
  exact within_ite hp (within_throw _)

/-! ## `ConnectorStateManager` -/

theorem within_sendState (hSend : ∀ state, Within R (onSignaling (sc.sendState state))) :
    Within R (sendState sc) := by
  apply within_get_bind
  intro _
  exact within_ite (hSend _) (within_pure _)

theorem within_setState {newState : ConnectorState}
    (hAssign : ∀ w : World σ, R w { w with stateManager := { w.stateManager with state := newState } })
    (hSend : Within R (sendState sc)) : Within R (setState sc newState) := by
  apply within_bind
  · exact within_modify hAssign
  intro _
  exact hSend

/-! ## `MosaicConnector` -/

theorem within_addDataChannelHandler {label : String}
    (hInsert : ∀ w : World σ, R w
      { w with connector :=
          { w.connector with
            dataChannelHandlersDict :=
              w.connector.dataChannelHandlersDict.insert label { label := label } } }) :
    Within R (addDataChannelHandler label) := by
  apply within_get_bind
  intro _
  exact within_ite (within_pure _) (within_modify hInsert)

theorem within_addMediaTrackHandler {trackName : String} {handler : MediaTrackHandler}
    (hInsert : ∀ w : World σ, R w
      { w with connector :=
          { w.connector with
            mediaTrackHandlersDict := w.connector.mediaTrackHandlersDict.insert trackName handler } }) :
    Within R (addMediaTrackHandler trackName handler) := by
  apply within_get_bind
  intro _
  exact within_ite (within_pure _) (within_modify hInsert)

theorem within_onDataChannel {label : String} {channel : Nat}
    (hHandler : ∀ p, Within R (onDataChannelHandler label p))
    (hCreated : Within R (invoke env (.afterCreate label))) :
    Within R (onDataChannel env label channel) := by
  apply within_get_bind
  intro w
  cases w.connector.dataChannelHandlersDict.find? label with
  | none => exact within_pure _
  | some impl =>
      apply within_ite
      · exact within_pure _
      apply within_bind
      · exact hHandler _
      intro _
      apply within_bind
      · exact hHandler _
      intro _
      exact hCreated

theorem within_createMediaTrack {trackName : String} {handler : MediaTrackHandler}
    (hSource : Within R (invoke env (.createVideoTrackSource trackName handler.videoSource)))
    (hVideo : Within R (rtcCall (.createVideoTrack trackName)))
    (hAdd : ∀ peer, Within R (rtcCall (.addTrack peer trackName))) :
    Within R (createMediaTrack env trackName handler) := by
  have hCreate : Within R (createVideoTrack trackName handler) := by
    apply within_get_bind
    intro _
    refine within_ite ?_ (within_throw _)
    apply within_bind
    · exact hVideo
    intro _
    exact within_pure _
  have hTrack : Within R (addTrack trackName) := by
    apply within_get_bind
    intro _
    apply within_bind
    · exact within_dereference _ _
    exact hAdd
  apply within_bind
  · exact hSource
  intro _
  apply within_ite
  · exact within_pure _
  apply within_bind
  · exact hCreate
  intro _
  exact within_ite hTrack (within_pure _)

theorem within_closeAllMediaTracks
    (hClose : ∀ trackName, Within R (invoke env (.closeMediaTrack trackName))) :
    Within R (closeAllMediaTracks env) := by
  apply within_get_bind
  intro _
  exact within_forM fun trackName _ => hClose trackName

theorem within_closeAllDataChannels
    (hClose : ∀ label, Within R (onDataChannelHandler label Endpoint.closeDataChannel)) :
    Within R (closeAllDataChannels : Program (World σ) Unit) := by
  apply within_get_bind
  intro _
  exact within_forM fun label _ => hClose label

/-! ## Offers -/

theorem within_createPeerConnection {created : Bool}
    (hObserver : ∀ w : World σ, R w { w with manager := { w.manager with peerConnectionObserver := true } })
    (hCall : ∀ servers peer, Within R (rtcCall (.createPeerConnectionOrError servers peer)))
    (hCreated : ∀ w : World σ, R w { w with webrtc := { w.webrtc with created := w.webrtc.created + 1 } })
    (hAssign : ∀ peer, Within R (assignPeerConnection (some peer))) :
    Within R (createPeerConnection created) := by
  apply within_bind
  · exact within_modify hObserver
  intro _
  apply within_get_bind
  intro w
  apply within_ite
  · exact within_throw _
  refine within_ite ?_ (hCall _ _)
  apply within_bind
  · exact hCall _ _
  intro _
  apply within_bind
  · exact within_modify hCreated
  intro _
  exact hAssign _

theorem within_setRemoteDescription {sdpOffer : String} (hFailed : Within R (setState sc .rtcFailed))
    (hCall : ∀ peer, Within R (rtcCall (.setRemoteDescription peer sdpOffer)))
    (hStart : ∀ peer, Within R (rtcStart peer .setRemoteDescription)) :
    Within R (setRemoteDescription sc sdpOffer) := by
  apply within_get_bind
  intro w
  cases w.manager.peerConnection with
  | none => exact hFailed
  | some peer =>
      apply within_bind
      · exact hCall peer
      intro _
      exact hStart peer

theorem within_acceptOffer {sdpOffer : String} {created : Bool}
    (hState : Within R (setState sc .rtcConnecting)) (hCreate : Within R (createPeerConnection created))
    (hRemote : Within R (setRemoteDescription sc sdpOffer)) :
    Within R (acceptOffer sc sdpOffer created) := by
  apply within_get_bind
  intro _
  apply within_ite
  · exact within_pure _
  apply within_bind
  · exact hState
  intro _
  apply within_bind
  · exact hCreate
  intro _
  exact hRemote

theorem within_handleSdpOffer {sdpOffer : String} {created : Bool} {inside : Reentry}
    (hClose : Within R (closePeerConnection sc env (deliver sc env inside)))
    (hAccept : Within R (acceptOffer sc sdpOffer created)) :
    Within R (handleSdpOffer sc env sdpOffer created inside) := by
  apply within_get_bind
  intro _
  refine within_ite ?_ hAccept
  apply within_bind
  · exact hClose
  intro _
  exact hAccept

theorem within_handleIceCandidate {candidate : CandidateInit}
    (hAdd : ∀ peer, Within R (rtcCall (.addIceCandidate peer candidate))) :
    Within R (handleIceCandidateFromSignaling candidate) := by
  apply within_get_bind
  intro w
  cases w.manager.peerConnection with
  | none => exact within_pure _
  | some peer => exact hAdd peer

/-! ## Closing -/

theorem within_closeAndDrop {during : Program (World σ) Unit}
    (hClose : ∀ peer, Within R (rtcCall (.close peer))) (hDuring : Within R during)
    (hDrop : Within R (assignPeerConnection none)) : Within R (closeAndDrop during) := by
  apply within_get_bind
  intro w
  cases w.manager.peerConnection with
  | none => exact within_pure _
  | some peer =>
      apply within_bind
      · exact hClose peer
      intro _
      apply within_bind
      · exact hDuring
      intro _
      exact hDrop

theorem within_closePeerConnection {during : Program (World σ) Unit}
    (hState : ∀ newState, Within R (setState sc newState))
    (hMedia : Within R (closeAllMediaTracks env))
    (hData : Within R (closeAllDataChannels : Program (World σ) Unit))
    (hDrop : Within R (closeAndDrop during)) : Within R (closePeerConnection sc env during) := by
  apply within_get_bind
  intro _
  apply within_ite
  · exact within_pure _
  apply within_bind
  · exact hState _
  intro _
  apply within_bind
  · -- Whatever the handlers throw is caught here.
    apply within_recover
    apply within_bind
    · exact hMedia
    intro _
    apply within_bind
    · exact hData
    intro _
    exact hDrop
  intro _
  exact hState _

/-- The events inside a `Close()` close again, with the events inside that. -/
theorem within_deliver
    (hClose : ∀ during, Within R during → Within R (closePeerConnection sc env during))
    (reentry : Reentry) : Within R (deliver sc env reentry) := by
  induction reentry with
  | done => exact within_pure _
  | event state inside rest ihInside ihRest =>
      apply within_bind
      · cases state with
        | kFailed => exact hClose _ ihInside
        | kDisconnected => exact hClose _ ihInside
        | kClosed => exact hClose _ ihInside
      intro _
      exact ihRest

theorem within_onConnectionChange {newState : PeerConnectionState} {during : Program (World σ) Unit}
    (hConnected : Within R (setState sc .rtcConnected))
    (hClose : Within R (closePeerConnection sc env during)) :
    Within R (onConnectionChange sc env newState during) := by
  cases newState with
  | kNew => exact within_pure _
  | kConnecting => exact within_pure _
  | kConnected => exact hConnected
  | ended state =>
      cases state with
      | kFailed => exact hClose
      | kDisconnected => exact hClose
      | kClosed => exact hClose

/-! ## Completions -/

theorem within_afterSetSessionDescription
    (hTrack : ∀ trackName handler, Within R (createMediaTrack env trackName handler))
    (hCall : ∀ peer, Within R (rtcCall (.createAnswer peer)))
    (hStart : ∀ peer, Within R (rtcStart peer .createAnswer)) :
    Within R (afterSetSessionDescription env) := by
  apply within_bind
  · apply within_get_bind
    intro _
    exact within_forM fun e _ => hTrack e.1 e.2
  intro _
  apply within_get_bind
  intro _
  apply within_dereference_bind
  intro peer
  apply within_bind
  · exact hCall peer
  intro _
  exact hStart peer

theorem within_afterCreateSdpAnswer {desc : SessionDescription}
    (hCall : ∀ peer, Within R (rtcCall (.setLocalDescription peer desc)))
    (hStart : ∀ peer, Within R (rtcStart peer (.setLocalDescription desc))) :
    Within R (afterCreateSdpAnswer desc) := by
  apply within_get_bind
  intro _
  apply within_dereference_bind
  intro peer
  apply within_bind
  · exact hCall peer
  intro _
  exact hStart peer

theorem within_onCompletion {peer : Nat} {completion : Completion}
    (hTracks : completion = .setRemoteDescription true → Within R (afterSetSessionDescription env))
    (hAnswer : ∀ desc, Within R (afterCreateSdpAnswer desc))
    (hLocal : ∀ desc, completion = .setLocalDescription desc true →
      Within R (afterSetLocalDescription sc desc)) : Within R (onCompletion sc env peer completion) := by
  cases completion with
  | setRemoteDescription ok =>
      cases ok with
      | true => exact hTracks rfl
      | false => exact within_pure _
  | createAnswer sdp =>
      cases sdp with
      | some sdp => exact hAnswer _
      | none => exact within_pure _
  | setLocalDescription desc ok =>
      cases ok with
      | true => exact hLocal desc rfl
      | false => exact within_pure _

theorem within_complete {completion : Completion}
    (hPaid : ∀ (w : World σ) (peer : Nat), R w
      { w with webrtc :=
          { w.webrtc with awaiting := w.webrtc.awaiting.erase (peer, completion.operation) } })
    (hCompletion : ∀ peer, Within R (onCompletion sc env peer completion)) :
    Within R (complete sc env completion) := by
  apply within_fromPeer
  intro peer
  apply within_get_bind
  intro _
  refine within_ite ?_ (within_pure _)
  apply within_bind
  · exact within_modify fun w => hPaid w peer
  intro _
  exact hCompletion peer

theorem within_iceCandidate {candidate : Option CandidateInit}
    (hSend : ∀ peer init, candidate = some init →
      Within R (callSignaling (sc.sendIceCandidate ⟨peer, init⟩))) :
    Within R (handle sc env (.iceCandidate candidate)) := by
  apply within_fromPeer
  intro peer
  cases candidate with
  | none => exact within_pure _
  | some init => exact hSend peer init rfl

theorem within_deliverDataChannel {label : String}
    (hDelivered : ∀ w : World σ, R w
      { w with channels := { w.channels with delivered := w.channels.delivered + 1 } })
    (hChannel : ∀ channel, Within R (onDataChannel env label channel)) :
    Within R (deliverDataChannel env label) := by
  apply within_fromPeer
  -- The channel's number is read before it is counted, so both steps are taken from one state.
  intro _ w
  have hFirst := hDelivered w
  have hRest := hChannel w.channels.delivered
    { w with channels := { w.channels with delivered := w.channels.delivered + 1 } }
  exact IsTrans.trans _ _ _ hFirst hRest

/-! ## `ShuttingDown` -/

theorem within_stopSignalingServer (hStop : Within R (onSignaling sc.stop))
    (hReset : ∀ w : World σ, R w { w with manager := { w.manager with signalingClient := false } }) :
    Within R (stopSignalingServer sc) := by
  apply within_get_bind
  intro _
  refine within_ite ?_ (within_pure _)
  apply within_bind
  · exact hStop
  intro _
  exact within_modify hReset

theorem within_stopThread {thread : RtcThread} {view : PeerConnectionManager → Bool}
    {reset : PeerConnectionManager → PeerConnectionManager}
    (hCall : Within R (rtcCall (.stopThread thread)))
    (hReset : ∀ w : World σ, R w { w with manager := reset w.manager }) :
    Within R (stopThread thread view reset) := by
  apply within_get_bind
  intro _
  refine within_ite ?_ (within_pure _)
  apply within_bind
  · exact hCall
  intro _
  exact within_modify hReset

/-- Observer, factory and threads are given up without touching the rest. -/
theorem within_destroyFactoryAndThreads
    (hCall : ∀ thread, Within R (rtcCall (.stopThread thread)))
    (hManager : ∀ (w : World σ) (manager : PeerConnectionManager),
      manager.peerConnection = w.manager.peerConnection →
      manager.signalingClient = w.manager.signalingClient → R w { w with manager := manager }) :
    Within R (destroyFactoryAndThreads : Program (World σ) Unit) := by
  apply within_bind
  · exact within_modify fun w => hManager w _ rfl rfl
  intro _
  apply within_bind
  · exact within_stopThread (hCall _) fun w => hManager w _ rfl rfl
  intro _
  apply within_bind
  · exact within_stopThread (hCall _) fun w => hManager w _ rfl rfl
  intro _
  exact within_stopThread (hCall _) fun w => hManager w _ rfl rfl

theorem within_shuttingDown {inside : Reentry} (hState : Within R (setState sc .disconnected))
    (hStop : Within R (stopSignalingServer sc))
    (hClose : Within R (closePeerConnection sc env (deliver sc env inside)))
    (hDrop : Within R (assignPeerConnection none))
    (hDestroy : Within R (destroyFactoryAndThreads : Program (World σ) Unit)) :
    Within R (shuttingDown sc env inside) := by
  apply within_bind
  · exact hState
  intro _
  apply within_bind
  · exact hStop
  intro _
  apply within_bind
  · exact hClose
  intro _
  apply within_bind
  · exact hDrop
  intro _
  exact hDestroy

end World

end MosaicCore
