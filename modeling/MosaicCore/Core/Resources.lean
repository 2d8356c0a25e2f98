import MosaicCore.Core.Session
import MosaicCore.Library.StatementTrace

/-!
# What WebRTC's objects need while they are alive

A factory is created on three threads, a peer connection by a factory and with a raw pointer to its observer.  All
of them are owned by a field of `PeerConnectionManager` each, and destroyed when the field is assigned.
`Resources` keeps the fields together with what each object was created with; the objects are numbered, so that a
new thread is not the old one.

The routines are those of `World`, now one `Traced.statement` after the other, and `erases_handle` says that they
do the same.  `alwaysOutlive_iff` says over which events no object loses what it needs, in any state between
two statements.
-/

namespace MosaicCore

open EffectProgram EventRun

/-- `network_thread_`, `worker_thread_` and `signaling_thread_`. -/
structure Threads where
  network : Option Nat := none
  worker : Option Nat := none
  signaling : Option Nat := none
  deriving DecidableEq, Repr

/-- A peer connection: the threads of its factory, and its observer. -/
structure PeerConnection where
  threads : Threads
  observer : Option Nat
  closed : Bool := false
  deriving DecidableEq, Repr

/-- The owning fields of `PeerConnectionManager::Impl`. -/
structure Resources where
  threads : Threads := {}
  /-- The threads the factory was created on. -/
  peerConnectionFactory : Option Threads := none
  peerConnectionObserver : Option Nat := none
  peerConnection : Option PeerConnection := none
  /-- How many threads and observers were made; the next one gets this number. -/
  made : Nat := 0
  deriving DecidableEq, Repr

/-- A connector and the resources of its peer connection manager. -/
structure Owned (σ : Type) where
  world : World σ
  resources : Resources := {}

namespace Owned

variable {σ : Type} (sc : ISignalingClient σ) (env : Environment)

/-- A statement: what it does, and when it returns what becomes of the resources. -/
def doing (p : Program (World σ) Unit) (f : Resources → Resources) : Program (Traced (Owned σ)) Unit :=
  Traced.statement do
    zoom (fun o => o.world) (fun w o => { o with world := w }) p
    modify fun o => { o with resources := f o.resources }

/-! ## The routines -/

/-- `thread_ = rtc::Thread::Create()`. -/
def createThread (set : PeerConnectionManager → PeerConnectionManager) (assign : Threads → Option Nat → Threads) :
    Program (Traced (Owned σ)) Unit :=
  doing (modify fun w => { w with manager := set w.manager }) fun r =>
    { r with threads := assign r.threads (some r.made), made := r.made + 1 }

/-- `Impl::InitializeWebRTC`. -/
def initializeWebRTC (factory : Bool) : Program (Traced (Owned σ)) Unit := do
  createThread (fun m => { m with networkThread := true }) fun threads made => { threads with network := made }
  createThread (fun m => { m with workerThread := true }) fun threads made => { threads with worker := made }
  createThread (fun m => { m with signalingThread := true }) fun threads made => { threads with signaling := made }
  doing (modify fun w => { w with manager := { w.manager with peerConnectionFactory := factory } }) fun r =>
    { r with peerConnectionFactory := if factory then some r.threads else none }
  doing (World.setState sc .readyToConnect) id

/-- `CreatePeerConnectionOrError`, and `peer_connection_ = c.value()`. -/
def createPeerConnectionOrError (created : Bool) : Program (World σ) Unit := do
  let w ← get
  let servers := w.manager.iceServers.map getIceServer
  if ¬ w.manager.peerConnectionFactory then throw (.nullDereference "peer_connection_factory_")
  else if created then do
    World.rtcCall (.createPeerConnectionOrError servers (some w.webrtc.created))
    modify fun w => { w with webrtc := { w.webrtc with created := w.webrtc.created + 1 } }
    World.assignPeerConnection (some w.webrtc.created)
  else World.rtcCall (.createPeerConnectionOrError servers none)

/-- `Impl::CreatePeerConnection`. -/
def createPeerConnection (created : Bool) : Program (Traced (Owned σ)) Unit := do
  doing (modify fun w => { w with manager := { w.manager with peerConnectionObserver := true } }) fun r =>
    { r with peerConnectionObserver := some r.made, made := r.made + 1 }
  doing (createPeerConnectionOrError created) fun r =>
    { r with peerConnection :=
        if created then
          r.peerConnectionFactory.map fun threads => { threads := threads, observer := r.peerConnectionObserver }
        else r.peerConnection }

/-- `peer_connection_ = nullptr`. -/
def dropPeerConnection : Program (Traced (Owned σ)) Unit :=
  doing (World.assignPeerConnection none) fun r => { r with peerConnection := none }

/-- `peer_connection_->Close(); peer_connection_ = nullptr`, when there is one. -/
def closeAndDrop (during : Program (Traced (Owned σ)) Unit) : Program (Traced (Owned σ)) Unit := do
  match (← Traced.look).world.manager.peerConnection with
  | some peer => do
      doing (World.rtcCall (.close peer)) fun r =>
        { r with peerConnection := r.peerConnection.map fun p => { p with closed := true } }
      during
      dropPeerConnection
  | none => pure ()

/-- The `try` block of `ClosePeerConnection`. -/
def closeHandlersAndDrop (during : Program (Traced (Owned σ)) Unit) : Program (Traced (Owned σ)) Unit := do
  doing (World.closeAllMediaTracks env) id
  doing World.closeAllDataChannels id
  closeAndDrop during

/-- `Impl::ClosePeerConnection`. -/
def closePeerConnection (during : Program (Traced (Owned σ)) Unit) : Program (Traced (Owned σ)) Unit := do
  if ¬ World.connecting (← Traced.look).world then pure ()
  else do
    doing (World.setState sc .rtcDisconnecting) id
    catchException (closeHandlersAndDrop env during)
    doing (World.onConnectionDisconnected sc) id

/-- `PeerConnectionObserver::OnConnectionChange`. -/
def onConnectionChange (newState : PeerConnectionState) (during : Program (Traced (Owned σ)) Unit) :
    Program (Traced (Owned σ)) Unit :=
  match newState with
  | .kNew => pure ()
  | .kConnecting => pure ()
  | .kConnected => doing (World.onConnectionConnected sc) id
  | .ended .kFailed => closePeerConnection sc env during
  | .ended .kDisconnected => closePeerConnection sc env during
  | .ended .kClosed => closePeerConnection sc env during

/-- Deliver the events, one after the other. -/
def deliver : Reentry → Program (Traced (Owned σ)) Unit
  | .done => pure ()
  | .event state inside rest => do
      onConnectionChange sc env (.ended state) (deliver inside)
      deliver rest

/-- `HandleSdpOffer` after `CreatePeerConnection`. -/
def setRemoteDescription (sdpOffer : String) : Program (Traced (Owned σ)) Unit := do
  match (← Traced.look).world.manager.peerConnection with
  | none => doing (World.setState sc .rtcFailed) id
  | some peer =>
      doing (do
        World.rtcCall (.setRemoteDescription peer sdpOffer)
        World.rtcStart peer .setRemoteDescription) id

/-- `HandleSdpOffer` once an existing connection was closed. -/
def acceptOffer (sdpOffer : String) (created : Bool) : Program (Traced (Owned σ)) Unit := do
  if ¬ World.isState (← Traced.look).world .readyToConnect then pure ()
  else do
    doing (World.setState sc .rtcConnecting) id
    createPeerConnection created
    setRemoteDescription sc sdpOffer

/-- `Impl::HandleSdpOffer`. -/
def handleSdpOffer (sdpOffer : String) (created : Bool) (inside : Reentry) : Program (Traced (Owned σ)) Unit := do
  if (← Traced.look).world.manager.peerConnection.isSome then closePeerConnection sc env (deliver sc env inside)
  else pure ()
  acceptOffer sc sdpOffer created

/-- `thread_->Stop(); thread_ = nullptr`. -/
def stopThread (thread : RtcThread) (view : PeerConnectionManager → Bool)
    (reset : PeerConnectionManager → PeerConnectionManager) (assign : Threads → Threads) :
    Program (Traced (Owned σ)) Unit :=
  doing (World.stopThread thread view reset) fun r => { r with threads := assign r.threads }

/-- `Impl::DestroyPeerConnectionManager`. -/
def destroyPeerConnectionManager : Program (Traced (Owned σ)) Unit := do
  dropPeerConnection
  doing (modify fun w => { w with manager := { w.manager with peerConnectionObserver := false } }) fun r =>
    { r with peerConnectionObserver := none }
  doing (modify fun w => { w with manager := { w.manager with peerConnectionFactory := false } }) fun r =>
    { r with peerConnectionFactory := none }
  stopThread .network (·.networkThread) (fun m => { m with networkThread := false })
    fun threads => { threads with network := none }
  stopThread .worker (·.workerThread) (fun m => { m with workerThread := false })
    fun threads => { threads with worker := none }
  stopThread .signaling (·.signalingThread) (fun m => { m with signalingThread := false })
    fun threads => { threads with signaling := none }

/-- `MosaicConnector::ShuttingDown`. -/
def shuttingDown (inside : Reentry) : Program (Traced (Owned σ)) Unit := do
  doing (World.setState sc .disconnected) id
  doing (World.stopSignalingServer sc) id
  closePeerConnection sc env (deliver sc env inside)
  destroyPeerConnectionManager

/-- A callback of the peer connection held, if there is one. -/
def fromPeer (q : Program (Traced (Owned σ)) Unit) : Program (Traced (Owned σ)) Unit := do
  match (← Traced.look).world.manager.peerConnection with
  | none => pure ()
  | some _ => q

/-- The routine an event runs; what does not concern the resources is one statement. -/
def handle : ConnectorEvent → Program (Traced (Owned σ)) Unit
  | .initializeWebRTC factory => initializeWebRTC sc factory
  | .sdpOffer sdpOffer created inside => handleSdpOffer sc env sdpOffer created inside
  | .closeMessage inside => closePeerConnection sc env (deliver sc env inside)
  | .connectionChange newState inside => fromPeer (onConnectionChange sc env newState (deliver sc env inside))
  | .shuttingDown inside => shuttingDown sc env inside
  | event => doing (World.handle sc env event) id

/-- The state after an event. -/
def step (o : Owned σ) (event : ConnectorEvent) : Owned σ :=
  (finalState ((handle sc env event).run ⟨o, []⟩)).current

/-- Before `InitializeWebRTC`. -/
def wired (signaling : σ) (states : Nat → DataState) (iceServers : List IceServerConfig) : Owned σ where
  world := World.wired signaling states iceServers

/-! ## They are the routines of the connector -/

section Erasure

/-- The traced routine does to the connector what the plain one does. -/
abbrev Traces (q : Program (Traced (Owned σ)) Unit) (p : Program (World σ) Unit) : Prop :=
  Erases (fun o : Owned σ => o.world) q p

theorem traces_doing (p : Program (World σ) Unit) (f : Resources → Resources) : Traces (doing p f) p := by
  apply erases_statement
  intro o
  rw [EStateM.run_bind, zoom_run]
  cases p.run o.world with
  | ok u w => rfl
  | error e w => rfl

theorem traces_fromPeer {q : Program (Traced (Owned σ)) Unit} {p : Program (World σ) Unit} (h : Traces q p) :
    Traces (fromPeer q) (World.fromPeer fun _ => p) := by
  apply erases_look
  intro o
  cases o.world.manager.peerConnection with
  | none => exact erases_pure ()
  | some peer => exact h

variable {sc env}

theorem traces_initializeWebRTC (factory : Bool) :
    Traces (initializeWebRTC sc factory) (World.initializeWebRTC sc factory) := by
  have hSteps : World.initializeWebRTC sc factory = (do
      modify fun w => { w with manager := { w.manager with networkThread := true } }
      modify fun w => { w with manager := { w.manager with workerThread := true } }
      modify fun w => { w with manager := { w.manager with signalingThread := true } }
      modify fun w => { w with manager := { w.manager with peerConnectionFactory := factory } }
      World.setState sc .readyToConnect) := rfl
  rw [hSteps]
  exact erases_bind (traces_doing _ _) fun _ => erases_bind (traces_doing _ _) fun _ =>
    erases_bind (traces_doing _ _) fun _ => erases_bind (traces_doing _ _) fun _ => traces_doing _ _

theorem traces_createPeerConnection (created : Bool) :
    Traces (createPeerConnection (σ := σ) created) (World.createPeerConnection created) :=
  erases_bind (traces_doing _ _) fun _ => traces_doing _ _

theorem traces_closeAndDrop {q : Program (Traced (Owned σ)) Unit} {p : Program (World σ) Unit}
    (h : Traces q p) : Traces (closeAndDrop q) (World.closeAndDrop p) := by
  apply erases_look
  intro o
  cases o.world.manager.peerConnection with
  | none => exact erases_pure ()
  | some peer => exact erases_bind (traces_doing _ _) fun _ => erases_bind h fun _ => traces_doing _ _

theorem traces_closePeerConnection {q : Program (Traced (Owned σ)) Unit} {p : Program (World σ) Unit}
    (h : Traces q p) : Traces (closePeerConnection sc env q) (World.closePeerConnection sc env p) := by
  apply erases_look
  intro o
  apply erases_ite
  · exact erases_pure ()
  apply erases_bind
  · exact traces_doing _ _
  intro _
  apply erases_bind
  · apply erases_recover
    exact erases_bind (traces_doing _ _) fun _ => erases_bind (traces_doing _ _) fun _ => traces_closeAndDrop h
  intro _
  exact traces_doing _ _

theorem traces_onConnectionChange {q : Program (Traced (Owned σ)) Unit} {p : Program (World σ) Unit}
    (h : Traces q p) (newState : PeerConnectionState) :
    Traces (onConnectionChange sc env newState q) (World.onConnectionChange sc env newState p) := by
  cases newState with
  | kNew => exact erases_pure ()
  | kConnecting => exact erases_pure ()
  | kConnected => exact traces_doing _ _
  | ended state =>
      cases state with
      | kFailed => exact traces_closePeerConnection h
      | kDisconnected => exact traces_closePeerConnection h
      | kClosed => exact traces_closePeerConnection h

theorem traces_deliver (inside : Reentry) : Traces (deliver sc env inside) (World.deliver sc env inside) := by
  induction inside with
  | done => exact erases_pure ()
  | event state inside rest ihInside ihRest =>
      exact erases_bind (traces_onConnectionChange ihInside (.ended state)) fun _ => ihRest

theorem traces_acceptOffer (sdpOffer : String) (created : Bool) :
    Traces (acceptOffer sc sdpOffer created) (World.acceptOffer sc sdpOffer created) := by
  apply erases_look
  intro o
  apply erases_ite
  · exact erases_pure ()
  apply erases_bind
  · exact traces_doing _ _
  intro _
  apply erases_bind
  · exact traces_createPeerConnection created
  intro _
  apply erases_look
  intro o
  cases o.world.manager.peerConnection with
  | none => exact traces_doing _ _
  | some peer => exact traces_doing _ _

theorem traces_handleSdpOffer (sdpOffer : String) (created : Bool) (inside : Reentry) :
    Traces (handleSdpOffer sc env sdpOffer created inside)
      (World.handleSdpOffer sc env sdpOffer created inside) := by
  apply erases_look
  intro o
  apply erases_ite
  · exact erases_bind (traces_closePeerConnection (traces_deliver inside)) fun _ =>
      traces_acceptOffer sdpOffer created
  · exact traces_acceptOffer sdpOffer created

theorem traces_destroyPeerConnectionManager :
    Traces (destroyPeerConnectionManager (σ := σ)) World.destroyPeerConnectionManager := by
  have hSteps : (World.destroyFactoryAndThreads : Program (World σ) Unit) = (do
      modify fun w => { w with manager := { w.manager with peerConnectionObserver := false } }
      modify fun w => { w with manager := { w.manager with peerConnectionFactory := false } }
      World.stopThread .network (·.networkThread) fun m => { m with networkThread := false }
      World.stopThread .worker (·.workerThread) fun m => { m with workerThread := false }
      World.stopThread .signaling (·.signalingThread) fun m => { m with signalingThread := false }) := rfl
  rw [World.destroyPeerConnectionManager, hSteps]
  exact erases_bind (traces_doing _ _) fun _ => erases_bind (traces_doing _ _) fun _ =>
    erases_bind (traces_doing _ _) fun _ => erases_bind (traces_doing _ _) fun _ =>
      erases_bind (traces_doing _ _) fun _ => traces_doing _ _

/-- **The statements of an event do what the event does.** -/
theorem erases_handle (event : ConnectorEvent) : Traces (handle sc env event) (World.handle sc env event) := by
  cases event with
  | initializeWebRTC factory => exact traces_initializeWebRTC factory
  | sdpOffer sdpOffer created inside => exact traces_handleSdpOffer sdpOffer created inside
  | closeMessage inside => exact traces_closePeerConnection (traces_deliver inside)
  | connectionChange newState inside =>
      exact traces_fromPeer (traces_onConnectionChange (traces_deliver inside) newState)
  | shuttingDown inside =>
      exact erases_bind (traces_doing _ _) fun _ => erases_bind (traces_doing _ _) fun _ =>
        erases_bind (traces_closePeerConnection (traces_deliver inside)) fun _ =>
          traces_destroyPeerConnectionManager
  | _ => exact traces_doing _ _

theorem world_step (o : Owned σ) (event : ConnectorEvent) :
    (step sc env o event).world = World.step sc env o.world event :=
  (erases_handle event).finalState ⟨o, []⟩

end Erasure

/-! ## Every state is kept -/

section Goes

theorem goes_doing (p : Program (World σ) Unit) (f : Resources → Resources) : Within Goes (doing p f) :=
  goes_statement _

variable {sc env}

theorem goes_closeAndDrop {q : Program (Traced (Owned σ)) Unit} (h : Within Goes q) :
    Within Goes (closeAndDrop q) := by
  apply goes_look_bind
  intro o
  cases o.world.manager.peerConnection with
  | none => exact within_pure _
  | some peer => exact within_bind (goes_doing _ _) fun _ => within_bind h fun _ => goes_doing _ _

theorem goes_closePeerConnection {q : Program (Traced (Owned σ)) Unit} (h : Within Goes q) :
    Within Goes (closePeerConnection sc env q) := by
  apply goes_look_bind
  intro o
  apply within_ite
  · exact within_pure _
  apply within_bind
  · exact goes_doing _ _
  intro _
  apply within_bind
  · apply within_recover
    exact within_bind (goes_doing _ _) fun _ => within_bind (goes_doing _ _) fun _ => goes_closeAndDrop h
  intro _
  exact goes_doing _ _

theorem goes_onConnectionChange {q : Program (Traced (Owned σ)) Unit} (h : Within Goes q)
    (newState : PeerConnectionState) : Within Goes (onConnectionChange sc env newState q) := by
  cases newState with
  | kNew => exact within_pure _
  | kConnecting => exact within_pure _
  | kConnected => exact goes_doing _ _
  | ended state =>
      cases state with
      | kFailed => exact goes_closePeerConnection h
      | kDisconnected => exact goes_closePeerConnection h
      | kClosed => exact goes_closePeerConnection h

theorem goes_deliver (inside : Reentry) : Within Goes (deliver sc env inside) := by
  induction inside with
  | done => exact within_pure _
  | event state inside rest ihInside ihRest =>
      exact within_bind (goes_onConnectionChange ihInside (.ended state)) fun _ => ihRest

theorem goes_initializeWebRTC (factory : Bool) : Within Goes (initializeWebRTC sc factory) :=
  within_bind (goes_doing _ _) fun _ => within_bind (goes_doing _ _) fun _ =>
    within_bind (goes_doing _ _) fun _ => within_bind (goes_doing _ _) fun _ => goes_doing _ _

theorem goes_acceptOffer (sdpOffer : String) (created : Bool) :
    Within Goes (acceptOffer sc sdpOffer created) := by
  apply goes_look_bind
  intro o
  apply within_ite
  · exact within_pure _
  apply within_bind
  · exact goes_doing _ _
  intro _
  apply within_bind
  · exact within_bind (goes_doing _ _) fun _ => goes_doing _ _
  intro _
  apply goes_look_bind
  intro o
  cases o.world.manager.peerConnection with
  | none => exact goes_doing _ _
  | some peer => exact goes_doing _ _

end Goes

end Owned

end MosaicCore
