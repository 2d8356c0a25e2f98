import Mathlib.Data.String.Basic
import MosaicCore.Handlers.DataChannelHandler
import MosaicCore.Library.OrderedMap

/-!
# The objects behind a connector

`MosaicConnectorFactory::Create` wires a connector, its state manager, its peer connection manager and a
signaling client to each other.  `World` is that object graph as one value:

* the signaling client is an interface here (`ISignalingClient`) over a state of any type `σ`;
* libwebrtc is what it is asked to do (`RtcCall`, oldest first) and the completions it still owes;
* a handler's own code is a log of the callbacks made on it; `Environment` says which of them throw.

Smart pointers that are only ever null or not are booleans; the peer connections are numbered in the
order of their creation.
-/

namespace MosaicCore

open EffectProgram

/-- `ConnectorStateManager::State`. -/
inductive ConnectorState
  | initializing
  | readyToConnect
  | rtcConnecting
  | rtcConnected
  | rtcDisconnecting
  | rtcFailed
  | disconnected
  deriving DecidableEq, Repr

/-- `ConnectorStateManager::StateToInt`. -/
def ConnectorState.stateToInt : ConnectorState → Int
  | .initializing => 6
  | .readyToConnect => 0
  | .rtcConnecting => 1
  | .rtcConnected => 2
  | .rtcDisconnecting => 3
  | .rtcFailed => 4
  | .disconnected => 5

/-- An SDP answer, with the peer connection that produced it. -/
structure SessionDescription where
  peer : Nat
  sdp : String
  deriving DecidableEq, Repr

/-- The fields of a `webrtc::IceCandidateInterface`. -/
structure CandidateInit where
  candidate : String
  sdpMid : String
  sdpMLineIndex : Int
  deriving DecidableEq, Repr

/-- A local ICE candidate, with the peer connection that gathered it. -/
structure IceCandidate where
  peer : Nat
  init : CandidateInit
  deriving DecidableEq, Repr

/-- `core_signaling::ISignalingClient`: what the connector calls on a client with state `σ`. -/
structure ISignalingClient (σ : Type) where
  stop : Program σ Unit
  sendSdpAnswer : SessionDescription → Program σ Unit
  sendIceCandidate : IceCandidate → Program σ Unit
  sendState : Int → Program σ Unit

/-- No call on the signaling client throws. -/
structure ISignalingClient.NeverFaults {σ : Type} (sc : ISignalingClient σ) : Prop where
  stop : EffectProgram.NeverFaults sc.stop
  sendSdpAnswer : ∀ sdp, EffectProgram.NeverFaults (sc.sendSdpAnswer sdp)
  sendIceCandidate : ∀ candidate, EffectProgram.NeverFaults (sc.sendIceCandidate candidate)
  sendState : ∀ state, EffectProgram.NeverFaults (sc.sendState state)

/-- A send returns or throws a `std::exception`. -/
structure ISignalingClient.ThrowsExceptions {σ : Type} (sc : ISignalingClient σ) : Prop where
  sendSdpAnswer : ∀ sdp, FaultsOnly (·.isException) (sc.sendSdpAnswer sdp)
  sendIceCandidate : ∀ candidate, FaultsOnly (·.isException) (sc.sendIceCandidate candidate)

theorem ISignalingClient.NeverFaults.throwsExceptions {σ : Type} {sc : ISignalingClient σ}
    (h : sc.NeverFaults) : sc.ThrowsExceptions where
  sendSdpAnswer sdp := (h.sendSdpAnswer sdp).faultsOnly
  sendIceCandidate candidate := (h.sendIceCandidate candidate).faultsOnly

/-- A signaling client that is not connected: every call returns at once. -/
def ISignalingClient.offline : ISignalingClient Unit where
  stop := pure ()
  sendSdpAnswer _ := pure ()
  sendIceCandidate _ := pure ()
  sendState _ := pure ()

theorem ISignalingClient.neverFaults_offline : ISignalingClient.offline.NeverFaults where
  stop := neverFaults_pure _
  sendSdpAnswer _ := neverFaults_pure _
  sendIceCandidate _ := neverFaults_pure _
  sendState _ := neverFaults_pure _

/-- `IceServerConfig`. -/
structure IceServerConfig where
  urls : List String
  username : String
  credential : String
  deriving DecidableEq, Repr

/-- `webrtc::PeerConnectionInterface::IceServer`. -/
structure IceServer where
  urls : List String := []
  username : String := ""
  password : String := ""
  deriving DecidableEq, Repr

/-- `GetIceServer`: a TURN server, or an empty one when a setting is missing. -/
def getIceServer (iceConfig : IceServerConfig) : IceServer :=
  if iceConfig.urls = [] ∨ iceConfig.username = "" ∨ iceConfig.credential = "" then {}
  else
    { urls := iceConfig.urls.map fun url => "turn:" ++ url
      username := iceConfig.username
      password := iceConfig.credential }

/-- The threads `InitializeWebRTC` starts. -/
inductive RtcThread
  | network
  | worker
  | signaling
  deriving DecidableEq, Repr

/-- What libwebrtc is asked to do.  `release` is `peer_connection_` giving up a reference. -/
inductive RtcCall
  | createPeerConnectionOrError (servers : List IceServer) (result : Option Nat)
  | setRemoteDescription (peer : Nat) (sdpOffer : String)
  | createAnswer (peer : Nat)
  | setLocalDescription (peer : Nat) (desc : SessionDescription)
  | createVideoTrack (trackName : String)
  | addTrack (peer : Nat) (trackName : String)
  | addIceCandidate (peer : Nat) (candidate : CandidateInit)
  | close (peer : Nat)
  | release (peer : Nat)
  | stopThread (thread : RtcThread)
  deriving DecidableEq, Repr

/-- The asynchronous operations of a negotiation. -/
inductive Operation
  | setRemoteDescription
  | createAnswer
  | setLocalDescription (desc : SessionDescription)
  deriving DecidableEq, Repr

/-- libwebrtc's side of the peer connections. -/
structure WebRtc where
  calls : List RtcCall := []
  /-- The operations whose observer has not been called yet. -/
  awaiting : List (Nat × Operation) := []
  /-- How many peer connections were created; the next one gets this number. -/
  created : Nat := 0
  deriving DecidableEq

/-- The peer connection states on which the observer closes the connection. -/
inductive EndState
  | kFailed
  | kDisconnected
  | kClosed
  deriving DecidableEq, Repr

/-- `webrtc::PeerConnectionInterface::PeerConnectionState`. -/
inductive PeerConnectionState
  | kNew
  | kConnecting
  | kConnected
  | ended (state : EndState)
  deriving DecidableEq, Repr

/-- Events delivered from inside a `Close()`: each is an end state, the events inside the `Close()` that
it leads to itself, and the events after it. -/
inductive Reentry
  | done
  | event (state : EndState) (inside rest : Reentry)
  deriving DecidableEq, Repr

/-- The state of a `ConnectorStateManager`. -/
structure ConnectorStateManager where
  state : ConnectorState := .initializing
  signalingClient : Bool := true
  deriving DecidableEq

/-- A registered media track handler: whether its `CreateVideoTrackSource` gives a source, and
libwebrtc a track for it. -/
structure MediaTrackHandler where
  videoSource : Bool := true
  videoTrack : Bool := true
  deriving DecidableEq

/-- The dictionaries of a `MosaicConnector`. -/
structure MosaicConnector where
  dataChannelHandlersDict : OrderedMap String (DataChannelHandler DataBuffer) := .empty
  mediaTrackHandlersDict : OrderedMap String MediaTrackHandler := .empty

/-- The fields of `PeerConnectionManager::Impl`. -/
structure PeerConnectionManager where
  signalingClient : Bool := true
  iceServers : List IceServerConfig := []
  peerConnectionFactory : Bool := false
  peerConnection : Option Nat := none
  peerConnectionObserver : Bool := false
  networkThread : Bool := false
  workerThread : Bool := false
  signalingThread : Bool := false
  deriving DecidableEq

/-- The callbacks made on handlers. -/
inductive Callback
  /-- `CreateVideoTrackSource`, and whether it gave a source. -/
  | createVideoTrackSource (trackName : String) (created : Bool)
  | closeMediaTrack (trackName : String)
  | afterCreate (label : String)
  deriving DecidableEq, Repr

/-- Which callback throws, by its place among all callbacks. -/
structure Environment where
  throws : Callback → Nat → Bool

/-- No handler callback throws. -/
def Environment.NeverThrows (env : Environment) : Prop :=
  ∀ callback n, env.throws callback n = false

/-- Handlers that always return. -/
def Environment.calm : Environment where
  throws _ _ := false

theorem Environment.neverThrows_calm : Environment.calm.NeverThrows :=
  fun _ _ => rfl

/-- The object graph of a connector. -/
structure World (σ : Type) where
  signaling : σ
  channels : Channels DataBuffer
  stateManager : ConnectorStateManager := {}
  connector : MosaicConnector := {}
  manager : PeerConnectionManager := {}
  webrtc : WebRtc := {}
  callbacks : List Callback := []

variable {σ : Type}

/-- Whether the handler of a track holds a source that has not been closed since. -/
def sourceOpen (trackName : String) : List Callback → Bool
  | callbacks => callbacks.foldl
      (fun isOpen callback =>
        if callback = .createVideoTrackSource trackName true then true
        else if callback = .closeMediaTrack trackName then false
        else isOpen)
      false

@[simp] theorem sourceOpen_nil (trackName : String) : sourceOpen trackName [] = false := rfl

theorem sourceOpen_append_singleton (trackName : String) (callbacks : List Callback)
    (callback : Callback) :
    sourceOpen trackName (callbacks ++ [callback]) =
      if callback = .createVideoTrackSource trackName true then true
      else if callback = .closeMediaTrack trackName then false
      else sourceOpen trackName callbacks := by
  simp [sourceOpen]

namespace World

/-- `ConnectorStateManager::IsState`. -/
def isState (w : World σ) (expectedState : ConnectorState) : Bool :=
  w.stateManager.state = expectedState

/-- The two states `ClosePeerConnection` acts in. -/
def connecting (w : World σ) : Bool :=
  isState w .rtcConnected || isState w .rtcConnecting

/-- Run a routine of the signaling client. -/
def onSignaling (p : Program σ Unit) : Program (World σ) Unit :=
  zoom (fun w => w.signaling) (fun s w => { w with signaling := s }) p

/-- Ask libwebrtc for something. -/
def rtcCall (call : RtcCall) : Program (World σ) Unit :=
  modify fun w => { w with webrtc := { w.webrtc with calls := w.webrtc.calls ++ [call] } }

/-- Start an asynchronous operation on a peer connection. -/
def rtcStart (peer : Nat) (operation : Operation) : Program (World σ) Unit :=
  modify fun w =>
    { w with webrtc := { w.webrtc with awaiting := w.webrtc.awaiting ++ [(peer, operation)] } }

/-- `peer_connection_ = peer`: the reference held before is given up. -/
def assignPeerConnection (peer : Option Nat) : Program (World σ) Unit := do
  match (← get).manager.peerConnection with
  | some old => rtcCall (.release old)
  | none => pure ()
  modify fun w => { w with manager := { w.manager with peerConnection := peer } }

/-- Call into a handler. -/
def invoke (env : Environment) (callback : Callback) : Program (World σ) Unit := do
  let place := (← get).callbacks.length
  modify fun w => { w with callbacks := w.callbacks ++ [callback] }
  if env.throws callback place then throw (.exception "handler") else pure ()

/-- Run a member function of a registered data channel handler. -/
def onDataChannelHandler (label : String) (p : Program (Endpoint DataBuffer) Unit) :
    Program (World σ) Unit := do
  match (← get).connector.dataChannelHandlersDict.find? label with
  | none => pure ()
  | some impl =>
      zoom (fun w => { impl := impl, channels := w.channels })
        (fun e w =>
          { w with
            channels := e.channels
            connector :=
              { w.connector with
                dataChannelHandlersDict :=
                  w.connector.dataChannelHandlersDict.modify label fun _ => e.impl } })
        p

end World

end MosaicCore
