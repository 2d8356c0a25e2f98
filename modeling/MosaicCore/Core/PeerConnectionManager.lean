import MosaicCore.Core.World

/-!
# `MosaicConnector`, `PeerConnectionManager` and `PeerConnectionObserver`

The member functions of the three classes, over the object graph they share.  `sc` is the signaling client
behind the pointers, `env` the handlers' own code.

`peer_connection_->Close()` may call `OnConnectionChange` before it returns, which may close again:
`Reentry` is the tree of such nested events, and `deliver` plays it from inside `Close()`.
-/

namespace MosaicCore
namespace World

open EffectProgram

variable {σ : Type} (sc : ISignalingClient σ) (env : Environment)

/-! ## `ConnectorStateManager` -/

/-- `ConnectorStateManager::SendState`. -/
def sendState : Program (World σ) Unit := do
  let w ← get
  if w.stateManager.signalingClient then
    onSignaling (sc.sendState w.stateManager.state.stateToInt)
  else pure ()

/-- `ConnectorStateManager::SetState`: the state has changed by the time `SendState` may throw. -/
def setState (newState : ConnectorState) : Program (World σ) Unit := do
  modify fun w => { w with stateManager := { w.stateManager with state := newState } }
  sendState sc

/-! ## `MosaicConnector` -/

/-- `MosaicConnector::AddDataChannelHandler` of a handler that has had no channel yet. -/
def addDataChannelHandler (label : String) : Program (World σ) Unit := do
  if ((← get).connector.dataChannelHandlersDict.find? label).isSome then pure ()
  else
    modify fun w =>
      { w with connector :=
          { w.connector with
            dataChannelHandlersDict :=
              w.connector.dataChannelHandlersDict.insert label { label := label } } }

/-- `MosaicConnector::AddMediaTrackHandler`. -/
def addMediaTrackHandler (trackName : String) (handler : MediaTrackHandler) :
    Program (World σ) Unit := do
  if ((← get).connector.mediaTrackHandlersDict.find? trackName).isSome then pure ()
  else
    modify fun w =>
      { w with connector :=
          { w.connector with
            mediaTrackHandlersDict := w.connector.mediaTrackHandlersDict.insert trackName handler } }

/-- `MosaicConnector::OnDataChannel`. -/
def onDataChannel (label : String) (channel : Nat) : Program (World σ) Unit := do
  let w ← get
  match w.connector.dataChannelHandlersDict.find? label with
  | none => pure ()
  | some impl =>
      if Endpoint.getState { impl := impl, channels := w.channels } = .kOpen then pure ()
      else do
        onDataChannelHandler label (Endpoint.setDataChannelInterface (some channel))
        onDataChannelHandler label (Endpoint.registerDataChannelObserver channel)
        invoke env (.afterCreate label)

/-- `PeerConnectionManager::CreateVideoTrack`. -/
def createVideoTrack (trackName : String) (handler : MediaTrackHandler) :
    Program (World σ) Bool := do
  if (← get).manager.peerConnectionFactory then do
    rtcCall (.createVideoTrack trackName)
    pure handler.videoTrack
  else throw (.nullDereference "peer_connection_factory_")

/-- `PeerConnectionManager::AddTrack`; a failure is only logged. -/
def addTrack (trackName : String) : Program (World σ) Unit := do
  let peer ← dereference "peer_connection_" (← get).manager.peerConnection
  rtcCall (.addTrack peer trackName)

/-- The body of the loop of `CreateAllMediaTracks`. -/
def createMediaTrack (trackName : String) (handler : MediaTrackHandler) :
    Program (World σ) Unit := do
  invoke env (.createVideoTrackSource trackName handler.videoSource)
  if ¬ handler.videoSource then pure ()
  else if ← createVideoTrack trackName handler then addTrack trackName
  else pure ()

/-- `MosaicConnector::CreateAllMediaTracks`. -/
def createAllMediaTracks : Program (World σ) Unit := do
  (← get).connector.mediaTrackHandlersDict.entries.forM fun e => createMediaTrack env e.1 e.2

/-- `MosaicConnector::CloseAllMediaTracks`. -/
def closeAllMediaTracks : Program (World σ) Unit := do
  (← get).connector.mediaTrackHandlersDict.keys.forM fun trackName =>
    invoke env (.closeMediaTrack trackName)

/-- `MosaicConnector::CloseAllDataChannels`, where `CloseDataChannel` is the library's own, which does not throw.  A
handler's class may override it with one that does; that is the subject of `ThrowingHandlers`. -/
def closeAllDataChannels : Program (World σ) Unit := do
  (← get).connector.dataChannelHandlersDict.keys.forM fun label =>
    onDataChannelHandler label Endpoint.closeDataChannel

/-! ## `PeerConnectionManager` -/

/-- `Impl::InitializeWebRTC`; a missing factory is only logged. -/
def initializeWebRTC (factory : Bool) : Program (World σ) Unit := do
  modify fun w =>
    { w with manager :=
        { w.manager with
          networkThread := true
          workerThread := true
          signalingThread := true
          peerConnectionFactory := factory } }
  setState sc .readyToConnect

/-- `Impl::CreatePeerConnection`; `created` is whether `CreatePeerConnectionOrError` succeeds. -/
def createPeerConnection (created : Bool) : Program (World σ) Unit := do
  modify fun w => { w with manager := { w.manager with peerConnectionObserver := true } }
  let w ← get
  let servers := w.manager.iceServers.map getIceServer
  if ¬ w.manager.peerConnectionFactory then throw (.nullDereference "peer_connection_factory_")
  else if created then do
    rtcCall (.createPeerConnectionOrError servers (some w.webrtc.created))
    modify fun w => { w with webrtc := { w.webrtc with created := w.webrtc.created + 1 } }
    assignPeerConnection (some w.webrtc.created)
  else rtcCall (.createPeerConnectionOrError servers none)

/-- `Impl::OnConnectionConnected`. -/
def onConnectionConnected : Program (World σ) Unit := setState sc .rtcConnected

/-- `Impl::OnConnectionDisconnected`. -/
def onConnectionDisconnected : Program (World σ) Unit := setState sc .readyToConnect

/-- `peer_connection_->Close(); peer_connection_ = nullptr`, when there is one; `during` runs inside
`Close()`. -/
def closeAndDrop (during : Program (World σ) Unit) : Program (World σ) Unit := do
  match (← get).manager.peerConnection with
  | some peer => do
      rtcCall (.close peer)
      during
      assignPeerConnection none
  | none => pure ()

/-- The `try` block of `ClosePeerConnection`. -/
def closeHandlersAndDrop (during : Program (World σ) Unit) : Program (World σ) Unit := do
  closeAllMediaTracks env
  closeAllDataChannels
  closeAndDrop during

/-- `Impl::ClosePeerConnection`. -/
def closePeerConnection (during : Program (World σ) Unit) : Program (World σ) Unit := do
  if ¬ connecting (← get) then pure ()
  else do
    setState sc .rtcDisconnecting
    catchException (closeHandlersAndDrop env during)
    onConnectionDisconnected sc

/-- `PeerConnectionObserver::OnConnectionChange`; `during` runs inside a `Close()` it leads to. -/
def onConnectionChange (newState : PeerConnectionState) (during : Program (World σ) Unit) :
    Program (World σ) Unit :=
  match newState with
  | .kNew => pure ()
  | .kConnecting => pure ()
  | .kConnected => onConnectionConnected sc
  | .ended .kFailed => closePeerConnection sc env during
  | .ended .kDisconnected => closePeerConnection sc env during
  | .ended .kClosed => closePeerConnection sc env during

/-- Deliver the events, one after the other. -/
def deliver : Reentry → Program (World σ) Unit
  | .done => pure ()
  | .event state inside rest => do
      onConnectionChange sc env (.ended state) (deliver inside)
      deliver rest

/-- `HandleSdpOffer` after `CreatePeerConnection`. -/
def setRemoteDescription (sdpOffer : String) : Program (World σ) Unit := do
  match (← get).manager.peerConnection with
  | none => setState sc .rtcFailed
  | some peer => do
      rtcCall (.setRemoteDescription peer sdpOffer)
      rtcStart peer .setRemoteDescription

/-- `HandleSdpOffer` once an existing connection was closed; `created` is whether a peer connection can
be created. -/
def acceptOffer (sdpOffer : String) (created : Bool) : Program (World σ) Unit := do
  if ¬ isState (← get) .readyToConnect then pure ()
  else do
    setState sc .rtcConnecting
    createPeerConnection created
    setRemoteDescription sc sdpOffer

/-- `Impl::HandleSdpOffer`. -/
def handleSdpOffer (sdpOffer : String) (created : Bool) (inside : Reentry) :
    Program (World σ) Unit := do
  if (← get).manager.peerConnection.isSome then closePeerConnection sc env (deliver sc env inside)
  else pure ()
  acceptOffer sc sdpOffer created

/-- `Impl::AfterSetSessionDescription`. -/
def afterSetSessionDescription : Program (World σ) Unit := do
  createAllMediaTracks env
  let peer ← dereference "peer_connection_" (← get).manager.peerConnection
  rtcCall (.createAnswer peer)
  rtcStart peer .createAnswer

/-- `Impl::AfterCreateSdpAnswer`. -/
def afterCreateSdpAnswer (desc : SessionDescription) : Program (World σ) Unit := do
  let peer ← dereference "peer_connection_" (← get).manager.peerConnection
  rtcCall (.setLocalDescription peer desc)
  rtcStart peer (.setLocalDescription desc)

/-- Use `signaling_client_`. -/
def callSignaling (p : Program σ Unit) : Program (World σ) Unit := do
  if (← get).manager.signalingClient then onSignaling p
  else throw (.nullDereference "signaling_client_")

/-- `Impl::AfterSetLocalDescription`. -/
def afterSetLocalDescription (desc : SessionDescription) : Program (World σ) Unit :=
  callSignaling (sc.sendSdpAnswer desc)

/-- `Impl::HandleIceCandidateFromSignaling`. -/
def handleIceCandidateFromSignaling (candidate : CandidateInit) : Program (World σ) Unit := do
  match (← get).manager.peerConnection with
  | some peer => rtcCall (.addIceCandidate peer candidate)
  | none => pure ()

/-- `Impl::SendIceCandidate`. -/
def sendIceCandidate (candidate : IceCandidate) : Program (World σ) Unit :=
  callSignaling (sc.sendIceCandidate candidate)

/-- `PeerConnectionObserver::OnIceCandidate`. -/
def onIceCandidate : Option IceCandidate → Program (World σ) Unit
  | none => pure ()
  | some candidate => sendIceCandidate sc candidate

/-- `Impl::StopSignalingServer`. -/
def stopSignalingServer : Program (World σ) Unit := do
  if (← get).manager.signalingClient then do
    onSignaling sc.stop
    modify fun w => { w with manager := { w.manager with signalingClient := false } }
  else pure ()

/-- `if (thread) { thread->Stop(); thread = nullptr; }`. -/
def stopThread (thread : RtcThread) (view : PeerConnectionManager → Bool)
    (reset : PeerConnectionManager → PeerConnectionManager) : Program (World σ) Unit := do
  if view (← get).manager then do
    rtcCall (.stopThread thread)
    modify fun w => { w with manager := reset w.manager }
  else pure ()

/-- The part of `DestroyPeerConnectionManager` after the peer connection: observer, factory, threads. -/
def destroyFactoryAndThreads : Program (World σ) Unit := do
  modify fun w =>
    { w with manager :=
        { w.manager with peerConnectionObserver := false, peerConnectionFactory := false } }
  stopThread .network (·.networkThread) fun m => { m with networkThread := false }
  stopThread .worker (·.workerThread) fun m => { m with workerThread := false }
  stopThread .signaling (·.signalingThread) fun m => { m with signalingThread := false }

/-- `Impl::DestroyPeerConnectionManager`: the peer connection is dropped, not closed. -/
def destroyPeerConnectionManager : Program (World σ) Unit := do
  assignPeerConnection none
  destroyFactoryAndThreads

/-- `MosaicConnector::ShuttingDown`. -/
def shuttingDown (inside : Reentry) : Program (World σ) Unit := do
  setState sc .disconnected
  stopSignalingServer sc
  closePeerConnection sc env (deliver sc env inside)
  destroyPeerConnectionManager

end World
end MosaicCore
