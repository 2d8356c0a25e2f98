import MosaicCore.Core.PeerConnectionManager
import MosaicCore.Library.EventRun

/-!
# Runs of a connector

`ConnectorEvent` lists what reaches a connector from outside: calls of the application, messages of the
signaling server, and callbacks of libwebrtc.  Callbacks come from the peer connection that
`peer_connection_` holds, completions only for operations it was asked for.  `step` handles one event to
its end and keeps whatever state a throw leaves behind.
-/

namespace MosaicCore

open EffectProgram

/-- How an asynchronous operation ends. -/
inductive Completion
  | setRemoteDescription (ok : Bool)
  | createAnswer (sdp : Option String)
  | setLocalDescription (desc : SessionDescription) (ok : Bool)
  deriving DecidableEq, Repr

/-- The operation a completion belongs to. -/
def Completion.operation : Completion → Operation
  | .setRemoteDescription _ => .setRemoteDescription
  | .createAnswer _ => .createAnswer
  | .setLocalDescription desc _ => .setLocalDescription desc

/-- One call, message or callback. -/
inductive ConnectorEvent
  | initializeWebRTC (factory : Bool)
  | addDataChannelHandler (label : String)
  | addMediaTrackHandler (trackName : String) (handler : MediaTrackHandler)
  | sdpOffer (sdpOffer : String) (created : Bool) (inside : Reentry)
  | closeMessage (inside : Reentry)
  | iceCandidateMessage (candidate : CandidateInit)
  | complete (completion : Completion)
  | connectionChange (newState : PeerConnectionState) (inside : Reentry)
  | iceCandidate (candidate : Option CandidateInit)
  | dataChannel (label : String)
  | channelState (channel : Nat) (state : DataState)
  | stateBroadcast
  | shuttingDown (inside : Reentry)
  deriving DecidableEq

namespace World

variable {σ : Type} (sc : ISignalingClient σ) (env : Environment)

/-- A callback of the peer connection held, if there is one. -/
def fromPeer (p : Nat → Program (World σ) Unit) : Program (World σ) Unit := do
  match (← get).manager.peerConnection with
  | none => pure ()
  | some peer => p peer

/-- The observers' `OnSuccess` and `OnFailure`; a failure is only logged. -/
def onCompletion (peer : Nat) : Completion → Program (World σ) Unit
  | .setRemoteDescription true => afterSetSessionDescription env
  | .createAnswer (some sdp) => afterCreateSdpAnswer ⟨peer, sdp⟩
  | .setLocalDescription desc true => afterSetLocalDescription sc desc
  | _ => pure ()

/-- A completion the peer connection owes. -/
def complete (completion : Completion) : Program (World σ) Unit :=
  fromPeer fun peer => do
    if (peer, completion.operation) ∈ (← get).webrtc.awaiting then do
      modify fun w =>
        { w with webrtc :=
            { w.webrtc with awaiting := w.webrtc.awaiting.erase (peer, completion.operation) } }
      onCompletion sc env peer completion
    else pure ()

/-- The peer connection held owes the completion. -/
def owes (w : World σ) (completion : Completion) : Bool :=
  match w.manager.peerConnection with
  | some peer => decide ((peer, completion.operation) ∈ w.webrtc.awaiting)
  | none => false

/-- The peer connection delivers the next data channel. -/
def deliverDataChannel (label : String) : Program (World σ) Unit :=
  fromPeer fun _ => do
    let channel := (← get).channels.delivered
    modify fun w => { w with channels := { w.channels with delivered := channel + 1 } }
    onDataChannel env label channel

/-- The routine an event runs. -/
def handle : ConnectorEvent → Program (World σ) Unit
  | .initializeWebRTC factory => initializeWebRTC sc factory
  | .addDataChannelHandler label => addDataChannelHandler label
  | .addMediaTrackHandler trackName handler => addMediaTrackHandler trackName handler
  | .sdpOffer sdpOffer created inside => handleSdpOffer sc env sdpOffer created inside
  | .closeMessage inside => closePeerConnection sc env (deliver sc env inside)
  | .iceCandidateMessage candidate => handleIceCandidateFromSignaling candidate
  | .complete completion => complete sc env completion
  | .connectionChange newState inside =>
      fromPeer fun _ => onConnectionChange sc env newState (deliver sc env inside)
  | .iceCandidate candidate =>
      fromPeer fun peer => onIceCandidate sc (candidate.map fun init => ⟨peer, init⟩)
  | .dataChannel label => deliverDataChannel env label
  | .channelState channel state =>
      modify fun w =>
        { w with channels :=
            { w.channels with
              states := fun c => if c = channel then state else w.channels.states c } }
  | .stateBroadcast => sendState sc
  | .shuttingDown inside => shuttingDown sc env inside

/-- The state after an event. -/
def step (w : World σ) (event : ConnectorEvent) : World σ :=
  finalState ((handle sc env event).run w)

/-- What the factory has wired up before `InitializeWebRTC`. -/
def wired (signaling : σ) (states : Nat → DataState) (iceServers : List IceServerConfig) : World σ where
  signaling := signaling
  channels := { states := states }
  manager := { iceServers := iceServers }

end World
end MosaicCore
