import MosaicCore.Signaling.FailingSends
import MosaicCore.Signaling.Requests

/-!
# Messages while the connector is created

`MosaicConnectorFactory::Create` opens the network before it wires in what the message handlers use: `Start` is
its second step, `SetMosaicConnector`, `SetPeerConnectionManager` and `InitializeWebRTC` are its last three.  The
WebSocket thread handles messages all the while, and after `Create` has returned.

What arrives too early meets a null `mosaic_connector_` or `peer_connection_manager_`; an offer to a connector
whose factory could not be created meets a null `peer_connection_factory_`, since `InitializeWebRTC` has set
READY_TO_CONNECT all the same.  `tolerates_iff` says exactly which messages are tolerated at which point.
-/

namespace MosaicCore

open EffectProgram EventRun

/-- The steps of `Create`. -/
inductive CreateStep
  | setAuthenticator
  | start
  | createStateManager
  | setMosaicConnector
  | setPeerConnectionManager
  | initializeWebRTC
  deriving DecidableEq, Repr

/-- The steps in their order. -/
def createSteps : List CreateStep :=
  [.setAuthenticator, .start, .createStateManager, .setMosaicConnector, .setPeerConnectionManager,
    .initializeWebRTC]

/-- A connector that is being created. -/
structure Startup where
  system : System
  /-- Whether `peer_connection_manager_` has been set. -/
  peerConnectionManager : Bool := false
  remaining : List CreateStep := createSteps

/-- What happens next. -/
inductive StartupEvent
  | create
  /-- `created` and `inside` are what `CreatePeerConnectionOrError` and `Close()` do. -/
  | message (body : List UInt8) (created : Bool) (inside : Reentry)

namespace Startup

/-- What `Create` finds outside: the authenticator it makes, and whether there will be a factory. -/
structure Setting where
  authenticator : Authenticator
  factory : Bool

variable (lib : Libraries) (setting : Setting)

/-- Run a routine of the connector. -/
def onSystem (p : Program System Unit) : Program Startup Unit :=
  zoom (fun s => s.system) (fun w s => { s with system := w }) p

/-- Use `peer_connection_manager_`. -/
def usePeerConnectionManager : Program Startup Unit := do
  if (← get).peerConnectionManager then pure ()
  else throw (.nullDereference "peer_connection_manager_")

/-- `SignalingClient::Start`; the connection comes up. -/
def start : Program SignalingClient Unit := do
  let s ← get
  SignalingClient.connect s.wsUri
  SignalingClient.connectSucceeded lib s.wsClient.clients

/-- The statement of a step. -/
def runStep : CreateStep → Program Startup Unit
  | .setAuthenticator =>
      onSystem (World.onSignaling (modify fun s => { s with authenticator := setting.authenticator }))
  | .start => onSystem (World.onSignaling (start lib))
  | .createStateManager => onSystem (modify fun w => { w with stateManager := {} })
  | .setMosaicConnector => onSystem (World.onSignaling SignalingClient.setMosaicConnector)
  | .setPeerConnectionManager => modify fun s => { s with peerConnectionManager := true }
  | .initializeWebRTC => do
      usePeerConnectionManager
      onSystem (World.initializeWebRTC (SignalingClient.iface lib) setting.factory)

/-- The next step of `Create`. -/
def create : Program Startup Unit := do
  match (← get).remaining with
  | [] => pure ()
  | step :: rest => do
      modify fun s => { s with remaining := rest }
      runStep lib setting step

/-- A member of `MosaicConnector` that goes on to the peer connection manager. -/
def throughConnector (p : Program System Unit) : Program Startup Unit := do
  onSystem System.useConnector
  usePeerConnectionManager
  onSystem p

/-- Act on a request.  No handler is registered yet, so none throws. -/
def perform (created : Bool) (inside : Reentry) : Request → Program Startup Unit
  | .sdpOffer text =>
      throughConnector (World.handleSdpOffer (SignalingClient.iface lib) .calm text created inside)
  | .iceCandidate candidate => throughConnector (World.handleIceCandidateFromSignaling candidate)
  | .closeConnection =>
      throughConnector (World.closePeerConnection (SignalingClient.iface lib) .calm
        (World.deliver (SignalingClient.iface lib) .calm inside))
  | request => onSystem (System.perform lib .calm created inside request)

/-- `WebSocketClientImpl::handleMessage` of a text. -/
def handleMessage (body : List UInt8) (created : Bool) (inside : Reentry) : Program Startup Unit :=
  catchWith (orThrow (System.interpret lib body) >>= perform lib created inside)
    (onSystem (World.onSignaling SignalingClient.onError))

/-- The routine of an event; messages come once the WebSocket is connected. -/
def handle : StartupEvent → Program Startup Unit
  | .create => create lib setting
  | .message body created inside => do
      if .start ∈ (← get).remaining then pure ()
      else handleMessage lib body created inside

/-- The state after an event. -/
def step (s : Startup) (event : StartupEvent) : Startup :=
  finalState ((handle lib setting event).run s)

/-- Before `Create`. -/
def fresh (wsUri : String) (states : Nat → DataState) (iceServers : List IceServerConfig) : Startup where
  system := System.initial wsUri {} states iceServers

/-! ## What is to hold -/

/-- The run uses a null pointer. -/
def nullDereferences {σ : Type} : EStateM.Result Fault σ Unit → Bool
  | .ok _ _ => false
  | .error e _ => !e.isException

/-- The session of an accepted offer. -/
def HasSession (w : System) : Prop :=
  (World.session w).state = .rtcConnecting ∧ ∃ peer sdpOffer,
    (World.session w).peerConnection = some peer ∧ RtcCall.setRemoteDescription peer sdpOffer ∈ w.webrtc.calls

/-- The connector waits for an offer, or has accepted one. -/
def Serving (w : System) : Prop :=
  (World.session w).state = .readyToConnect ∨ HasSession w

/-- An event is tolerated: it uses no null pointer, `Create` does not throw, and once all its steps are done the
connector is ready or has the session of an offer. -/
structure Tolerates (s : Startup) (event : StartupEvent) : Prop where
  noNull : nullDereferences ((handle lib setting event).run s) = false
  returns : event = .create → throwsException ((handle lib setting event).run s) = false
  serving : (step lib setting s event).remaining = [] → Serving (step lib setting s event).system

/-- Both pointers on the way to the peer connection manager are set. -/
def wired (s : Startup) : Bool :=
  s.system.signaling.mosaicConnector && s.peerConnectionManager

/-- A connector that has been created can serve an offer: there is a factory, the peer connection can be created,
and no send that the offer depends on fails.  If READY_TO_CONNECT after the old session is not sent, the offer is
dropped, and the connector stays ready. -/
def canServe (w : System) (created : Bool) : Bool :=
  let canAccept (n : Nat) := w.manager.peerConnectionFactory && created && !System.lostSend lib w n
  if World.connecting w then
    !System.lostSend lib w 0 && (System.lostSend lib w 1 || canAccept 2)
  else canAccept 0

/-- What an event needs. -/
def Prepared (s : Startup) : StartupEvent → Prop
  | .create => s.remaining = [.initializeWebRTC] → System.lostSend lib s.system 0 = false
  | .message body created _ =>
      .start ∉ s.remaining → match System.interpret lib body with
        | .ok (.sdpOffer _) => wired s = true ∧ (s.remaining = [] → canServe lib s.system created = true)
        | .ok (.iceCandidate _) => wired s = true
        | .ok .closeConnection =>
            wired s = true ∧ (World.connecting s.system = true → System.lostSend lib s.system 0 = false)
        | _ => True

/-! ## Serving an offer -/

/-- What a connector that has been created looks like. -/
def Settled (w : System) : Prop :=
  (World.session w).state = .readyToConnect ∧ (World.session w).peerConnection = none ∨ HasSession w

theorem Settled.serving {w : System} (h : Settled w) : Serving w := by
  rcases h with ⟨hReady, -⟩ | hSession
  · exact .inl hReady
  · exact .inr hSession

theorem HasSession.connecting {w : System} (h : HasSession w) : World.connecting w = true :=
  World.connecting_iff.mpr (.inr h.1)

variable {lib}

/-- An offer that is accepted gets its session. -/
theorem acceptOffer_serves {w : System} (hReady : (World.session w).state = .readyToConnect)
    (hFactory : w.manager.peerConnectionFactory = true) (hSent : System.lostSend lib w 0 = false)
    (sdpOffer : String) :
    ∃ w', (World.acceptOffer (SignalingClient.iface lib) sdpOffer true).run w = .ok () w' ∧ HasSession w' := by
  have hFactory₁ : (World.session (System.announced w .rtcConnecting)).peerConnectionFactory = true := hFactory
  obtain ⟨_, w₂, hCreate, hSession⟩ := World.createPeerConnection_ends hFactory₁ true
  rw [if_pos rfl] at hSession
  have hPeer : (World.session w₂).peerConnection = some (World.session w).created := by rw [hSession]; rfl
  refine ⟨World.offered w₂ (World.session w).created sdpOffer, ?_, ?_, (World.session w).created, sdpOffer,
    ?_, ?_⟩
  · rw [World.acceptOffer_ready hReady, EStateM.run_bind, System.setState_run, hSent]
    simp only [Bool.false_eq_true, if_false, EStateM.run_bind, hCreate,
      World.setRemoteDescription_some hPeer sdpOffer]
  · rw [World.session_offered, hSession]
    rfl
  · rw [World.session_offered]
    exact hPeer
  · simp [World.offered]

/-- An offer that misses something does not. -/
theorem acceptOffer_unserved {w : System} (hReady : (World.session w).state = .readyToConnect)
    (hNone : (World.session w).peerConnection = none) (sdpOffer : String) {created : Bool}
    (hMisses : (w.manager.peerConnectionFactory && created && !System.lostSend lib w 0) = false)
    (hNoNull : nullDereferences
      ((World.acceptOffer (SignalingClient.iface lib) sdpOffer created).run w) = false) :
    ¬ Serving (finalState ((World.acceptOffer (SignalingClient.iface lib) sdpOffer created).run w)) := by
  cases hSent : System.lostSend lib w 0 with
  | true =>
      -- The state is set before it is sent: RTC_CONNECTING stays, over no peer connection.
      rw [System.acceptOffer_of_fails hReady hSent, finalState_error]
      rintro (hState | ⟨-, peer, sdpOffer', hPeer, -⟩)
      · simp [System.session_announced] at hState
      · simp [System.session_announced, hNone] at hPeer
  | false =>
      rw [World.acceptOffer_ready hReady, EStateM.run_bind, System.setState_run, hSent] at hNoNull ⊢
      simp only [Bool.false_eq_true, if_false] at hNoNull ⊢
      cases hFactory : w.manager.peerConnectionFactory with
      | false =>
          -- `CreatePeerConnection` goes through the null factory.
          have hFactory₁ : (System.announced w .rtcConnecting).manager.peerConnectionFactory = false := hFactory
          simp [World.createPeerConnection, hFactory₁, nullDereferences, Fault.isException] at hNoNull
      | true =>
          -- The factory makes no peer connection, and the offer ends in RTC_FAILED.
          have hFailed : created = false := by simpa [hFactory, hSent] using hMisses
          subst hFailed
          have hFactory₁ : (World.session (System.announced w .rtcConnecting)).peerConnectionFactory = true :=
            hFactory
          obtain ⟨_, w₂, hCreate, hSession⟩ := World.createPeerConnection_ends hFactory₁ false
          have hPeer : (World.session w₂).peerConnection = none := by
            rw [hSession]
            exact hNone
          have hFinal := World.session_setState (SignalingClient.iface lib) .rtcFailed w₂
          rw [EStateM.run_bind, hCreate]
          simp only
          rw [World.setRemoteDescription_none hPeer]
          rintro (hState | ⟨hState, -⟩)
          · rw [hFinal] at hState
            simp at hState
          · rw [hFinal] at hState
            simp at hState

/-- The two states of a created connector, told apart by `connecting`. -/
theorem Settled.cases {w : System} (h : Settled w) :
    (World.connecting w = false ∧ (World.session w).state = .readyToConnect ∧
        (World.session w).peerConnection = none) ∨
      (World.connecting w = true ∧ w.manager.peerConnection.isSome = true) := by
  rcases h with ⟨hReady, hNone⟩ | hSession
  · exact .inl ⟨World.connecting_eq_false _ hReady (by decide), hReady, hNone⟩
  · have hConnecting := hSession.connecting
    obtain ⟨-, peer, _, hPeer, -⟩ := hSession
    have hHeld : w.manager.peerConnection = some peer := hPeer
    exact .inr ⟨hConnecting, by rw [hHeld]; rfl⟩

/-- **Serving an offer** takes exactly what `canServe` says. -/
theorem handleSdpOffer_serves {w : System} (h : Settled w) (sdpOffer : String) (created : Bool)
    (inside : Reentry) :
    let result := (World.handleSdpOffer (SignalingClient.iface lib) .calm sdpOffer created inside).run w
    (canServe lib w created = true → nullDereferences result = false ∧ Settled (finalState result)) ∧
      (nullDereferences result = false → Serving (finalState result) → canServe lib w created = true) := by
  intro result
  rcases h.cases with ⟨hIdle, hReady, hNone⟩ | ⟨hConnecting, hSome⟩
  · -- There is no session: the offer is accepted at once.
    have hPeer : w.manager.peerConnection = none := hNone
    have hResult : result = (World.acceptOffer (SignalingClient.iface lib) sdpOffer created).run w :=
      World.handleSdpOffer_none hPeer sdpOffer created inside
    rw [hResult]
    simp only [canServe, hIdle, Bool.false_eq_true, if_false]
    constructor
    · intro hAccept
      simp only [Bool.and_eq_true, Bool.not_eq_true'] at hAccept
      obtain ⟨⟨hFactory, rfl⟩, hSent⟩ := hAccept
      obtain ⟨w', hRun, hSession⟩ := acceptOffer_serves hReady hFactory hSent sdpOffer
      rw [hRun]
      exact ⟨rfl, .inr hSession⟩
    · intro hNoNull hServing
      by_contra hMisses
      rw [Bool.not_eq_true] at hMisses
      exact acceptOffer_unserved hReady hNone sdpOffer hMisses hNoNull hServing
  · -- The old session is closed first: three sends, of which the second may fail.
    obtain ⟨w', hSession, hShift, hRun⟩ := System.closePeerConnection_run .calm hConnecting inside
    rw [System.sessionAfterClose_calm Environment.neverThrows_calm] at hSession
    have hReady' : (World.session w').state = .readyToConnect := by rw [hSession]; rfl
    have hNone' : (World.session w').peerConnection = none := by rw [hSession]; rfl
    have hFactory' : w'.manager.peerConnectionFactory = w.manager.peerConnectionFactory :=
      congrArg Session.peerConnectionFactory hSession
    have hShift' : System.lostSend lib w' 0 = System.lostSend lib w 2 := hShift lib 0
    have hResult : result = (World.closePeerConnection (SignalingClient.iface lib) .calm
        (World.deliver (SignalingClient.iface lib) .calm inside) >>= fun _ =>
          World.acceptOffer (SignalingClient.iface lib) sdpOffer created).run w :=
      World.handleSdpOffer_some hSome sdpOffer created inside
    rw [hResult, EStateM.run_bind, hRun]
    simp only [canServe, hConnecting, if_true]
    cases hFirst : System.lostSend lib w 0 with
    | true =>
        -- RTC_DISCONNECTING is lost, and the old session is not closed.
        simp only [if_true, Bool.not_true, Bool.false_and, Bool.false_eq_true, false_implies, true_and,
          finalState_error]
        rintro - (hState | ⟨hState, -⟩)
        · simp [System.session_announced] at hState
        · simp [System.session_announced] at hState
    | false =>
        cases hSecond : System.lostSend lib w 1 with
        | true =>
            -- READY_TO_CONNECT is lost: the offer is dropped, after a session that is closed.
            simp only [Bool.false_eq_true, if_false, if_true, Bool.not_false, Bool.true_or, Bool.and_self,
              true_implies, implies_true, and_true, finalState_error]
            exact ⟨rfl, .inl ⟨hReady', hNone'⟩⟩
        | false =>
            -- Both are sent: the offer is accepted as without a session, two sends later.
            simp only [Bool.false_eq_true, if_false, Bool.not_false, Bool.false_or, Bool.true_and]
            constructor
            · intro hAccept
              simp only [Bool.and_eq_true, Bool.not_eq_true'] at hAccept
              obtain ⟨⟨hFactory, rfl⟩, hSent⟩ := hAccept
              obtain ⟨w'', hRun', hSession'⟩ :=
                acceptOffer_serves hReady' (hFactory'.trans hFactory) (hShift'.trans hSent) sdpOffer
              rw [hRun']
              exact ⟨rfl, .inr hSession'⟩
            · intro hNoNull hServing
              by_contra hMisses
              rw [Bool.not_eq_true, ← hFactory', ← hShift'] at hMisses
              exact acceptOffer_unserved hReady' hNone' sdpOffer hMisses hNoNull hServing

/-! ## The other requests -/

theorem closePeerConnection_serves {w : System} (h : Settled w) (inside : Reentry) :
    let result := (World.closePeerConnection (SignalingClient.iface lib) .calm
      (World.deliver (SignalingClient.iface lib) .calm inside)).run w
    let sent := World.connecting w = true → System.lostSend lib w 0 = false
    (sent → nullDereferences result = false ∧ Settled (finalState result)) ∧
      (nullDereferences result = false → Serving (finalState result) → sent) := by
  intro result sent
  rcases h.cases with ⟨hIdle, -, -⟩ | ⟨hConnecting, -⟩
  · have hResult : result = .ok () w := World.closePeerConnection_idle hIdle _
    rw [hResult]
    exact ⟨fun _ => ⟨rfl, h⟩, fun _ _ hConnecting => by rw [hIdle] at hConnecting; cases hConnecting⟩
  · obtain ⟨w', hSession, -, hRun⟩ := System.closePeerConnection_run .calm hConnecting inside
    rw [System.sessionAfterClose_calm Environment.neverThrows_calm] at hSession
    have hSettled : Settled w' := by
      left
      rw [hSession]
      exact ⟨rfl, rfl⟩
    have hResult : result = _ := hRun lib
    rw [hResult]
    cases hFirst : System.lostSend lib w 0 with
    | true =>
        -- The state stays RTC_DISCONNECTING, in which no offer is accepted.
        refine ⟨fun hSent => ?_, fun _ hServing => ?_⟩
        · rw [hSent hConnecting] at hFirst
          cases hFirst
        · rcases hServing with hState | ⟨hState, -⟩
          · simp [System.session_announced] at hState
          · simp [System.session_announced] at hState
    | false =>
        refine ⟨fun _ => ?_, fun _ _ _ => hFirst⟩
        cases System.lostSend lib w 1 with
        | true => exact ⟨rfl, hSettled⟩
        | false => exact ⟨rfl, hSettled⟩

theorem handleIceCandidate_serves {w : System} (h : Settled w) (candidate : CandidateInit) :
    ∃ w', (World.handleIceCandidateFromSignaling candidate).run w = .ok () w' ∧ Settled w' := by
  cases hPeer : w.manager.peerConnection with
  | none => exact ⟨w, by simp [World.handleIceCandidateFromSignaling, hPeer], h⟩
  | some peer =>
      refine ⟨{ w with webrtc := { w.webrtc with calls := w.webrtc.calls ++ [.addIceCandidate peer candidate] } },
        by simp [World.handleIceCandidateFromSignaling, hPeer, World.rtcCall], ?_⟩
      rcases h with hReady | ⟨hState, peer', sdpOffer, hSome, hMem⟩
      · exact .inl hReady
      · exact .inr ⟨hState, peer', sdpOffer, hSome, List.mem_append_left _ hMem⟩

/-- Before `InitializeWebRTC`. -/
def Starting (w : System) : Prop :=
  (World.session w).state = .initializing ∧ (World.session w).peerConnection = none

variable (lib) in
/-- Before `InitializeWebRTC` the peer connection manager does nothing at all. -/
theorem Starting.idle {w : System} (h : Starting w) (created : Bool) (inside : Reentry) (sdpOffer : String)
    (candidate : CandidateInit) :
    (World.handleSdpOffer (SignalingClient.iface lib) .calm sdpOffer created inside).run w = .ok () w ∧
      (World.closePeerConnection (SignalingClient.iface lib) .calm
        (World.deliver (SignalingClient.iface lib) .calm inside)).run w = .ok () w ∧
      (World.handleIceCandidateFromSignaling candidate).run w = .ok () w := by
  obtain ⟨hState, hNone⟩ := h
  have hPeer : w.manager.peerConnection = none := hNone
  refine ⟨?_, ?_, ?_⟩
  · rw [World.handleSdpOffer_none hPeer]
    exact World.acceptOffer_refused (by simp [hState]) sdpOffer created
  · apply World.closePeerConnection_idle
    exact World.connecting_eq_false _ hState (by decide)
  · simp [World.handleIceCandidateFromSignaling, hPeer]

variable (lib) in
/-- What only the signaling client deals with throws nothing but exceptions. -/
theorem faultsOnly_own (created : Bool) (inside : Reentry) {request : Request}
    (hOwn : ∀ text candidate, request ≠ .sdpOffer text ∧ request ≠ .iceCandidate candidate ∧
      request ≠ .closeConnection) :
    ∃ p : Program SignalingClient Unit, System.perform lib .calm created inside request = World.onSignaling p ∧
      FaultsOnly (·.isException) p := by
  have hThrow {α : Type} (result : Except String α) :
      FaultsOnly (·.isException) (orThrow result : Program SignalingClient α) := by
    cases result with
    | ok a => exact (neverFaults_pure a).faultsOnly
    | error what =>
        intro s e s' hRun
        cases hRun
        rfl
  cases request with
  | nothing => exact ⟨pure (), rfl, (neverFaults_pure _).faultsOnly⟩
  | sdpOffer text => exact absurd rfl (hOwn text ⟨"", "", 0⟩).1
  | iceCandidate candidate => exact absurd rfl (hOwn "" candidate).2.1
  | closeConnection => exact absurd rfl (hOwn "" ⟨"", "", 0⟩).2.2
  | prepareConnection data =>
      refine ⟨_, rfl, ?_⟩
      apply faultsOnly_bind (hThrow _)
      intro _
      apply faultsOnly_bind (hThrow _)
      intro _
      exact (neverFaults_modify _).faultsOnly
  | authorization type data =>
      refine ⟨_, rfl, ?_⟩
      refine faultsOnly_ite ?_ (faultsOnly_ite (faultsOnly_ite (neverFaults_pure _).faultsOnly ?_)
        (neverFaults_pure _).faultsOnly)
      · exact faultsOnly_bind (E := fun e : Fault => e.isException) neverFaults_get.faultsOnly
          fun _ => SignalingClient.faultsOnly_sendWsMessage _
      · apply faultsOnly_bind (hThrow _)
        intro _
        exact faultsOnly_ite (neverFaults_modify _).faultsOnly (neverFaults_pure _).faultsOnly
  | ping message => exact ⟨_, rfl, SignalingClient.faultsOnly_sendWsMessage _⟩

/-! ## A message -/

theorem nullDereferences_of_faultsOnly {σ : Type} {p : Program σ Unit} (h : FaultsOnly (·.isException) p)
    (s : σ) : nullDereferences (p.run s) = false := by
  cases hRun : p.run s with
  | ok u s' => rfl
  | error e s' =>
      have hException : e.isException = true := h s e s' hRun
      simp [nullDereferences, hException]

/-- A routine of the connector inside the `try` of `handleMessage`: what it leaves is left, but for the flag that
`onError` may put down. -/
theorem catch_onSystem (p : Program System Unit) (s : Startup) :
    let result := (catchWith (onSystem p) (onSystem (World.onSignaling SignalingClient.onError))).run s
    nullDereferences result = nullDereferences (p.run s.system) ∧ ∃ signaling,
      finalState result = { s with system := { finalState (p.run s.system) with signaling := signaling } } := by
  intro result
  cases hRun : p.run s.system with
  | ok u w =>
      have hResult : result = .ok () { s with system := w } := by
        show catchWith (onSystem p) _ s = _
        rw [catchWith, onSystem, zoom_run, hRun]
      rw [hResult]
      exact ⟨rfl, w.signaling, rfl⟩
  | error e w =>
      cases hException : e.isException with
      | false =>
          -- A null dereference is no exception: the `catch` does not see it.
          have hResult : result = .error e { s with system := w } := by
            show catchWith (onSystem p) _ s = _
            rw [catchWith, onSystem, zoom_run, hRun]
            simp [hException]
          rw [hResult]
          exact ⟨rfl, w.signaling, rfl⟩
      | true =>
          have hResult : result = .ok ()
              { s with system := { w with signaling := { w.signaling with isConnected := false } } } := by
            show catchWith (onSystem p) _ s = _
            rw [catchWith, onSystem, zoom_run, hRun]
            simp only [hException, if_true]
            rfl
          rw [hResult]
          exact ⟨by simp [nullDereferences, hException], _, rfl⟩

theorem throughConnector_wired {s : Startup} (hWired : wired s = true) (p : Program System Unit) :
    (throughConnector p).run s = (onSystem p).run s := by
  simp only [wired, Bool.and_eq_true] at hWired
  simp [throughConnector, onSystem, zoom_run, System.useConnector, usePeerConnectionManager, hWired]

theorem throughConnector_unwired {s : Startup} (hWired : wired s = false) (p : Program System Unit) :
    ∃ pointer, (throughConnector p).run s = .error (.nullDereference pointer) s := by
  unfold throughConnector onSystem
  cases hConnector : s.system.signaling.mosaicConnector with
  | false =>
      -- The signaling client dereferences its own pointer first.
      refine ⟨"mosaic_connector_", ?_⟩
      rw [EStateM.run_bind, zoom_run]
      simp [System.useConnector, hConnector]
  | true =>
      have hManager : s.peerConnectionManager = false := by simpa [wired, hConnector] using hWired
      refine ⟨"peer_connection_manager_", ?_⟩
      rw [EStateM.run_bind, zoom_run]
      have hConnected : (System.useConnector).run s.system = .ok () s.system := by
        simp [System.useConnector, hConnector]
      rw [hConnected]
      show (usePeerConnectionManager >>= fun _ => _).run s = _
      rw [EStateM.run_bind]
      have hMissing :
          usePeerConnectionManager.run s = .error (.nullDereference "peer_connection_manager_") s := by
        simp [usePeerConnectionManager, hManager]
      rw [hMissing]

/-! ## The invariant -/

variable (lib)

/-- What holds between two events, while no event was not tolerated. -/
structure Invariant (s : Startup) : Prop where
  order : s.remaining <:+ createSteps
  manager : .setPeerConnectionManager ∉ s.remaining → s.peerConnectionManager = true
  starting : s.remaining ≠ [] → Starting s.system
  settled : s.remaining = [] → Settled s.system

/-- What a routine of the connector is to do when it is given a message, and what a connector that has been
created needs for it. -/
structure Serves (p : Program System Unit) (needs : System → Prop) : Prop where
  starting : ∀ w, Starting w → nullDereferences (p.run w) = false ∧ Starting (finalState (p.run w))
  settled : ∀ w, Settled w → needs w → nullDereferences (p.run w) = false ∧ Settled (finalState (p.run w))
  needed : ∀ w, Settled w → nullDereferences (p.run w) = false → Serving (finalState (p.run w)) → needs w

theorem serves_handleSdpOffer (sdpOffer : String) (created : Bool) (inside : Reentry) :
    Serves (World.handleSdpOffer (SignalingClient.iface lib) .calm sdpOffer created inside)
      (fun w => canServe lib w created = true) where
  starting w h := by
    rw [(h.idle lib created inside sdpOffer ⟨"", "", 0⟩).1]
    exact ⟨rfl, h⟩
  settled w h := (handleSdpOffer_serves h sdpOffer created inside).1
  needed w h := (handleSdpOffer_serves h sdpOffer created inside).2

theorem serves_closePeerConnection (inside : Reentry) :
    Serves (World.closePeerConnection (SignalingClient.iface lib) .calm
        (World.deliver (SignalingClient.iface lib) .calm inside))
      (fun w => World.connecting w = true → System.lostSend lib w 0 = false) where
  starting w h := by
    rw [(h.idle lib true inside "" ⟨"", "", 0⟩).2.1]
    exact ⟨rfl, h⟩
  settled w h := (closePeerConnection_serves h inside).1
  needed w h := (closePeerConnection_serves h inside).2

theorem serves_handleIceCandidate (candidate : CandidateInit) :
    Serves (World.handleIceCandidateFromSignaling candidate) (fun _ => True) where
  starting w h := by
    rw [(h.idle .silent true .done "" candidate).2.2]
    exact ⟨rfl, h⟩
  settled w h _ := by
    obtain ⟨w', hRun, hSettled⟩ := handleIceCandidate_serves h candidate
    rw [hRun]
    exact ⟨rfl, hSettled⟩
  needed _ _ _ _ := trivial

/-- What only the signaling client deals with needs nothing. -/
theorem serves_onSignaling {p : Program SignalingClient Unit} (hExceptions : FaultsOnly (·.isException) p) :
    Serves (World.onSignaling p) (fun _ => True) where
  starting w h := by
    rw [World.onSignaling, finalState_zoom]
    exact ⟨nullDereferences_of_faultsOnly (faultsOnly_zoom hExceptions) w, h⟩
  settled w h _ := by
    rw [World.onSignaling, finalState_zoom]
    exact ⟨nullDereferences_of_faultsOnly (faultsOnly_zoom hExceptions) w, h⟩
  needed _ _ _ _ := trivial

/-- A message that is passed on to such a routine. -/
theorem catch_serves {s : Startup} (h : Invariant s) {p : Program System Unit} {needs : System → Prop}
    (hServes : Serves p needs) :
    let result := (catchWith (onSystem p) (onSystem (World.onSignaling SignalingClient.onError))).run s
    ((s.remaining = [] → needs s.system) → nullDereferences result = false ∧ Invariant (finalState result)) ∧
      (nullDereferences result = false →
        ((finalState result).remaining = [] → Serving (finalState result).system) →
        s.remaining = [] → needs s.system) := by
  intro result
  obtain ⟨hNull, signaling, hFinal⟩ := catch_onSystem p s
  constructor
  · intro hNeeds
    -- Which half of the invariant the routine meets depends on whether `Create` is done.
    by_cases hDone : s.remaining = []
    · obtain ⟨hNoNull, hSettled⟩ := hServes.settled s.system (h.settled hDone) (hNeeds hDone)
      refine ⟨hNull.trans hNoNull, ?_⟩
      rw [hFinal]
      exact ⟨h.order, h.manager, fun hLeft => absurd hDone hLeft, fun _ => hSettled⟩
    · obtain ⟨hNoNull, hStarting⟩ := hServes.starting s.system (h.starting hDone)
      refine ⟨hNull.trans hNoNull, ?_⟩
      rw [hFinal]
      exact ⟨h.order, h.manager, fun _ => hStarting, fun hNone => absurd hNone hDone⟩
  · intro hNoNull hServing hDone
    rw [hFinal] at hServing
    exact hServes.needed s.system (h.settled hDone) (hNull.symm.trans hNoNull) (hServing hDone)

theorem catchWith_congr {σ : Type} {body body' : Program σ Unit} {s : σ} (hBody : body.run s = body'.run s)
    (handler : Program σ Unit) : (catchWith body handler).run s = (catchWith body' handler).run s := by
  show catchWith body handler s = catchWith body' handler s
  rw [catchWith, hBody]
  rfl

/-- A message that needs the connector. -/
theorem catch_throughConnector {s : Startup} (h : Invariant s) {p : Program System Unit}
    {needs : System → Prop} (hServes : Serves p needs) :
    let result := (catchWith (throughConnector p) (onSystem (World.onSignaling SignalingClient.onError))).run s
    (wired s = true ∧ (s.remaining = [] → needs s.system) →
        nullDereferences result = false ∧ Invariant (finalState result)) ∧
      (nullDereferences result = false →
        ((finalState result).remaining = [] → Serving (finalState result).system) →
        wired s = true ∧ (s.remaining = [] → needs s.system)) := by
  intro result
  cases hWired : wired s with
  | true =>
      have hResult : result = _ := catchWith_congr (throughConnector_wired hWired p) _
      obtain ⟨hTolerated, hNeeded⟩ := catch_serves h hServes
      rw [hResult]
      exact ⟨fun hNeeds => hTolerated hNeeds.2, fun hNoNull hServing => ⟨rfl, hNeeded hNoNull hServing⟩⟩
  | false =>
      obtain ⟨pointer, hRun⟩ := throughConnector_unwired hWired p
      have hResult : result = .error (.nullDereference pointer) s := by
        show catchWith _ _ s = _
        rw [catchWith, hRun]
        rfl
      rw [hResult]
      refine ⟨fun hNeeds => absurd hNeeds.1 Bool.false_ne_true, fun hNoNull => absurd hNoNull ?_⟩
      simp [nullDereferences, Fault.isException]

theorem handleMessage_of_error {body : List UInt8} {what : String}
    (hAsks : System.interpret lib body = .error what) (created : Bool) (inside : Reentry) (s : Startup) :
    (handleMessage lib body created inside).run s =
      (catchWith (onSystem (World.onSignaling (throw (.exception what))))
        (onSystem (World.onSignaling SignalingClient.onError))).run s := by
  apply catchWith_congr
  rw [hAsks]
  rfl

theorem handleMessage_of_ok {body : List UInt8} {request : Request}
    (hAsks : System.interpret lib body = .ok request) (created : Bool) (inside : Reentry) :
    handleMessage lib body created inside =
      catchWith (perform lib created inside request) (onSystem (World.onSignaling SignalingClient.onError)) := by
  rw [handleMessage, hAsks]
  rfl

/-- **A message is tolerated when what it needs is there, and only then.** -/
theorem handleMessage_tolerated {s : Startup} (h : Invariant s) (body : List UInt8) (created : Bool)
    (inside : Reentry) (hStarted : .start ∉ s.remaining) :
    let result := (handleMessage lib body created inside).run s
    (Prepared lib s (.message body created inside) →
        nullDereferences result = false ∧ Invariant (finalState result)) ∧
      (nullDereferences result = false →
        ((finalState result).remaining = [] → Serving (finalState result).system) →
        Prepared lib s (.message body created inside)) := by
  intro result
  -- What only the signaling client deals with meets no null pointer at any point of `Create`.
  have hOwn {p : Program SignalingClient Unit} (hExceptions : FaultsOnly (·.isException) p)
      (hResult : result = (catchWith (onSystem (World.onSignaling p))
        (onSystem (World.onSignaling SignalingClient.onError))).run s) :
      nullDereferences result = false ∧ Invariant (finalState result) := by
    rw [hResult]
    exact (catch_serves h (serves_onSignaling hExceptions)).1 fun _ => trivial
  cases hAsks : System.interpret lib body with
  | error what =>
      have hTolerated := hOwn (p := throw (.exception what)) ?_
        (handleMessage_of_error lib hAsks created inside s)
      · simp only [Prepared, hAsks, implies_true, and_true]
        exact fun _ => hTolerated
      · intro s e s' hRun
        cases hRun
        rfl
  | ok request =>
      have hResult : result = (catchWith (perform lib created inside request)
          (onSystem (World.onSignaling SignalingClient.onError))).run s := by
        rw [← handleMessage_of_ok lib hAsks]
      have hPerform : perform lib created inside request =
            onSystem (System.perform lib .calm created inside request) →
          (∀ text candidate, request ≠ .sdpOffer text ∧ request ≠ .iceCandidate candidate ∧
            request ≠ .closeConnection) →
          nullDereferences result = false ∧ Invariant (finalState result) := by
        intro hSame hOthers
        obtain ⟨p, hOwned, hExceptions⟩ := faultsOnly_own lib created inside hOthers
        exact hOwn hExceptions (by rw [hResult, hSame, hOwned])
      simp only [Prepared, hAsks]
      cases request with
      | sdpOffer text =>
          obtain ⟨hTolerated, hNeeded⟩ :=
            catch_throughConnector h (serves_handleSdpOffer lib text created inside)
          rw [hResult]
          exact ⟨fun hPrepared => hTolerated (hPrepared hStarted),
            fun hNoNull hServing _ => hNeeded hNoNull hServing⟩
      | iceCandidate candidate =>
          obtain ⟨hTolerated, hNeeded⟩ := catch_throughConnector h (serves_handleIceCandidate candidate)
          rw [hResult]
          exact ⟨fun hPrepared => hTolerated ⟨hPrepared hStarted, fun _ => trivial⟩,
            fun hNoNull hServing _ => (hNeeded hNoNull hServing).1⟩
      | closeConnection =>
          obtain ⟨hTolerated, hNeeded⟩ :=
            catch_throughConnector h (serves_closePeerConnection lib inside)
          rw [hResult]
          refine ⟨fun hPrepared => hTolerated ⟨(hPrepared hStarted).1, fun _ => (hPrepared hStarted).2⟩,
            fun hNoNull hServing _ => ⟨(hNeeded hNoNull hServing).1, fun hConnecting => ?_⟩⟩
          -- Before `InitializeWebRTC` nothing is connecting.
          by_cases hDone : s.remaining = []
          · exact (hNeeded hNoNull hServing).2 hDone hConnecting
          · rw [World.connecting_iff, (h.starting hDone).1] at hConnecting
            simp at hConnecting
      | nothing => exact ⟨fun _ => hPerform rfl (by simp), fun _ _ _ => trivial⟩
      | prepareConnection data => exact ⟨fun _ => hPerform rfl (by simp), fun _ _ _ => trivial⟩
      | authorization type data => exact ⟨fun _ => hPerform rfl (by simp), fun _ _ _ => trivial⟩
      | ping message => exact ⟨fun _ => hPerform rfl (by simp), fun _ _ _ => trivial⟩

/-! ## A step of `Create` -/

theorem neverFaults_start : NeverFaults (start lib) := by
  have hConnected : FaultsOnly (·.isException) (SignalingClient.onConnected lib) := by
    refine faultsOnly_bind (E := fun e : Fault => e.isException) (neverFaults_modify _).faultsOnly fun _ => ?_
    refine faultsOnly_bind (E := fun e : Fault => e.isException) neverFaults_get.faultsOnly fun s => ?_
    refine faultsOnly_ite ?_ (neverFaults_pure _).faultsOnly
    intro s e s' hRun
    rw [SignalingClient.sendState_run] at hRun
    split at hRun
    · cases hRun
      rfl
    · cases hRun
  apply neverFaults_bind neverFaults_get
  intro s
  apply neverFaults_bind
  · exact neverFaults_bind (neverFaults_modify _) fun _ => neverFaults_modify _
  intro _
  apply neverFaults_bind neverFaults_get
  intro _
  apply neverFaults_ite
  · apply neverFaults_bind (neverFaults_modify _)
    intro _
    apply neverFaults_bind (neverFaults_modify _)
    intro _
    exact neverFaults_recover hConnected
  · exact neverFaults_pure _

theorem onSignaling_run {p : Program SignalingClient Unit} {s : Startup} {client : SignalingClient}
    (hReturns : p.run s.system.signaling = .ok () client) :
    (onSystem (World.onSignaling p)).run s =
      .ok () { s with system := { s.system with signaling := client } } := by
  rw [onSystem, zoom_run, World.onSignaling, zoom_run, hReturns]

/-- A step before `InitializeWebRTC` returns, and leaves the state of the connector alone. -/
theorem runStep_early {step : CreateStep} (hStep : step ≠ .initializeWebRTC) {s : Startup}
    (h : Starting s.system) :
    ∃ w, Starting w ∧ (runStep lib setting step).run s =
      .ok () { s with
        system := w
        peerConnectionManager := s.peerConnectionManager || decide (step = .setPeerConnectionManager) } := by
  -- A step on the signaling client leaves the session alone.
  have hSignaling {p : Program SignalingClient Unit} (hReturns : NeverFaults p) :
      ∃ w, Starting w ∧ (onSystem (World.onSignaling p)).run s = .ok () { s with system := w } := by
    obtain ⟨_, signaling, hRun⟩ := hReturns s.system.signaling
    exact ⟨{ s.system with signaling := signaling }, h, onSignaling_run hRun⟩
  cases step with
  | setAuthenticator => simpa [runStep] using hSignaling (neverFaults_modify _)
  | start => simpa [runStep] using hSignaling (neverFaults_start lib)
  | createStateManager =>
      exact ⟨{ s.system with stateManager := {} }, ⟨rfl, h.2⟩, by simp [runStep, onSystem, zoom_run]⟩
  | setMosaicConnector =>
      simpa [runStep, SignalingClient.setMosaicConnector] using hSignaling (neverFaults_modify _)
  | setPeerConnectionManager => exact ⟨s.system, h, by simp [runStep]⟩
  | initializeWebRTC => exact absurd rfl hStep

theorem initializeWebRTC_run (factory : Bool) (w : System) :
    ∃ w', (World.session w').state = .readyToConnect ∧
      (World.session w').peerConnection = (World.session w).peerConnection ∧
      (World.initializeWebRTC (SignalingClient.iface lib) factory).run w =
        if System.lostSend lib w 0 then .error (.exception "websocket_exception") w' else .ok () w' := by
  let w₁ : System :=
    { w with manager :=
        { w.manager with
          networkThread := true
          workerThread := true
          signalingThread := true
          peerConnectionFactory := factory } }
  exact ⟨System.announced w₁ .readyToConnect, rfl, rfl, System.setState_run lib .readyToConnect w₁⟩

theorem create_run {s : Startup} {step : CreateStep} {rest : List CreateStep}
    (hRemaining : s.remaining = step :: rest) :
    (create lib setting).run s = (runStep lib setting step).run { s with remaining := rest } := by
  unfold create
  rw [EStateM.run_bind]
  simp [hRemaining]

/-- Before the last step. -/
theorem Invariant.next {s : Startup} (h : Invariant s) {step : CreateStep} {rest : List CreateStep}
    (hRemaining : s.remaining = step :: rest) (hRest : rest ≠ []) {w : System} (hStarting : Starting w)
    {manager : Bool} (hManager : step = .setPeerConnectionManager ∨ s.peerConnectionManager = true →
      manager = true) :
    Invariant { system := w, peerConnectionManager := manager, remaining := rest } where
  order := (List.suffix_cons step rest).trans (hRemaining ▸ h.order)
  manager hWired := by
    apply hManager
    by_cases hStep : step = .setPeerConnectionManager
    · exact .inl hStep
    · exact .inr (h.manager (by simp [hRemaining, Ne.symm hStep, hWired]))
  starting _ := hStarting
  settled hDone := absurd hDone hRest

/-- **A step of `Create` returns, unless READY_TO_CONNECT cannot be sent.** -/
theorem create_tolerated {s : Startup} (h : Invariant s) :
    let result := (create lib setting).run s
    (Prepared lib s .create →
        nullDereferences result = false ∧ throwsException result = false ∧ Invariant (finalState result)) ∧
      (throwsException result = false → Prepared lib s .create) := by
  intro result
  cases hRemaining : s.remaining with
  | nil =>
      have hResult : result = .ok () s := by
        show (create lib setting).run s = _
        unfold create
        rw [EStateM.run_bind]
        simp [hRemaining]
      rw [hResult]
      exact ⟨fun _ => ⟨rfl, rfl, h⟩, fun _ hLast => by rw [hRemaining] at hLast; cases hLast⟩
  | cons step rest =>
      have hResult : result = _ := create_run lib setting hRemaining
      have hStarting : Starting s.system := h.starting (by simp [hRemaining])
      have hOrder : step :: rest <:+ createSteps := hRemaining ▸ h.order
      -- `InitializeWebRTC` is the only step whose exception leaves `Create`, and it is the last.
      by_cases hStep : step = .initializeWebRTC
      · subst hStep
        have hLast : rest = [] := by simpa [createSteps, List.suffix_cons_iff] using hOrder
        subst hLast
        have hManager : s.peerConnectionManager = true := h.manager (by simp [hRemaining])
        obtain ⟨w, hState, hPeer, hRun⟩ := initializeWebRTC_run lib setting.factory s.system
        have hInvariant : Invariant { s with system := w, remaining := [] } :=
          ⟨List.nil_suffix, fun _ => hManager, fun hLeft => absurd rfl hLeft,
            fun _ => .inl ⟨hState, hPeer.trans hStarting.2⟩⟩
        have hUse : usePeerConnectionManager.run { s with remaining := [] } =
            .ok () { s with remaining := [] } := by
          simp [usePeerConnectionManager, hManager]
        have hEnd : result =
            if System.lostSend lib s.system 0 then
              .error (.exception "websocket_exception") { s with system := w, remaining := [] }
            else .ok () { s with system := w, remaining := [] } := by
          rw [hResult, runStep, EStateM.run_bind, hUse]
          show (onSystem _).run _ = _
          rw [onSystem, zoom_run, hRun]
          cases System.lostSend lib s.system 0 with
          | true => rfl
          | false => rfl
        rw [hEnd]
        cases hSent : System.lostSend lib s.system 0 with
        | true =>
            refine ⟨fun hPrepared => ?_, fun hReturns => ?_⟩
            · rw [hPrepared hRemaining] at hSent
              cases hSent
            · cases hReturns
        | false => exact ⟨fun _ => ⟨rfl, rfl, hInvariant⟩, fun _ _ => hSent⟩
      · obtain ⟨w, hStarting', hRun⟩ := runStep_early lib setting hStep
          (s := { s with remaining := rest }) hStarting
        have hRest : rest ≠ [] := by
          rintro rfl
          apply hStep
          simpa [createSteps, List.suffix_cons_iff] using hOrder
        rw [hResult, hRun]
        refine ⟨fun _ => ⟨rfl, rfl, h.next hRemaining hRest hStarting' ?_⟩, fun _ hLast => ?_⟩
        · rintro (rfl | hManager)
          · simp
          · simp [hManager]
        · rw [hRemaining] at hLast
          exact absurd (List.cons.inj hLast).1 hStep

/-! ## After `SetPeerConnectionManager` -/

theorem perform_of_manager {s : Startup} (hManager : s.peerConnectionManager = true) (created : Bool)
    (inside : Reentry) (request : Request) :
    (perform lib created inside request).run s =
      (onSystem (System.perform lib .calm created inside request)).run s := by
  -- With the manager set, `mosaic_connector_` is the only pointer left to check.
  have hThrough (p : Program System Unit) :
      (throughConnector p).run s = (onSystem (System.useConnector >>= fun _ => p)).run s := by
    unfold throughConnector onSystem
    rw [EStateM.run_bind, zoom_run, zoom_run, EStateM.run_bind]
    cases hConnector : s.system.signaling.mosaicConnector with
    | false => simp [System.useConnector, hConnector]
    | true => simp [System.useConnector, hConnector, usePeerConnectionManager, hManager, zoom_run]
  cases request with
  | sdpOffer text => exact hThrough _
  | iceCandidate candidate => exact hThrough _
  | closeConnection => exact hThrough _
  | nothing => rfl
  | prepareConnection data => rfl
  | authorization type data => rfl
  | ping message => rfl

/-- From `SetPeerConnectionManager` on, a message does what it does to a connector that has been created. -/
theorem handleMessage_of_manager {s : Startup} (hManager : s.peerConnectionManager = true) (body : List UInt8)
    (created : Bool) (inside : Reentry) :
    finalState ((handleMessage lib body created inside).run s) =
      { s with system :=
          finalState ((System.handleMessage lib .calm (.text body) created inside).run s.system) } := by
  have hBody : (orThrow (System.interpret lib body) >>= perform lib created inside).run s =
      (onSystem (System.onWsMessage lib .calm body created inside)).run s := by
    rw [System.onWsMessage_eq]
    cases System.interpret lib body with
    | error what => rfl
    | ok request => exact perform_of_manager lib hManager created inside request
  show finalState (catchWith _ _ s) = _
  rw [catchWith, hBody, onSystem, zoom_run, System.handleMessage, System.receive]
  show _ = { s with system := finalState (catchWith _ _ s.system) }
  rw [catchWith]
  cases (System.onWsMessage lib .calm body created inside).run s.system with
  | ok u w => rfl
  | error e w =>
      cases e with
      | exception what => rfl
      | nullDereference pointer => rfl

/-! ## Whole runs -/

/-- Before the WebSocket is connected nothing arrives. -/
theorem handle_message (body : List UInt8) (created : Bool) (inside : Reentry) (s : Startup) :
    (handle lib setting (.message body created inside)).run s =
      if .start ∈ s.remaining then .ok () s else (handleMessage lib body created inside).run s := by
  unfold handle
  rw [EStateM.run_bind]
  by_cases hStart : .start ∈ s.remaining
  · simp [hStart]
  · simp [hStart]

theorem tolerates_step {s : Startup} (h : Invariant s) (event : StartupEvent) :
    (Prepared lib s event → Tolerates lib setting s event ∧ Invariant (step lib setting s event)) ∧
      (Tolerates lib setting s event → Prepared lib s event) := by
  cases event with
  | create =>
      obtain ⟨hTolerated, hNeeded⟩ := create_tolerated lib setting h
      refine ⟨fun hPrepared => ?_, fun hTolerates => hNeeded (hTolerates.returns rfl)⟩
      obtain ⟨hNoNull, hReturns, hInvariant⟩ := hTolerated hPrepared
      exact ⟨⟨hNoNull, fun _ => hReturns, fun hDone => (hInvariant.settled hDone).serving⟩, hInvariant⟩
  | message body created inside =>
      have hRun := handle_message lib setting body created inside s
      by_cases hStart : .start ∈ s.remaining
      · rw [if_pos hStart] at hRun
        -- Before the WebSocket is connected the text does not arrive.
        have hStep : step lib setting s (.message body created inside) = s := by rw [step, hRun, finalState_ok]
        refine ⟨fun _ => ⟨⟨by rw [hRun]; rfl, by simp, fun hDone => ?_⟩, by rwa [hStep]⟩,
          fun _ hStarted => absurd hStart hStarted⟩
        rw [hStep] at hDone ⊢
        exact (h.settled hDone).serving
      · rw [if_neg hStart] at hRun
        obtain ⟨hTolerated, hNeeded⟩ := handleMessage_tolerated lib h body created inside hStart
        rw [← hRun] at hTolerated hNeeded
        refine ⟨fun hPrepared => ?_, fun hTolerates => hNeeded hTolerates.noNull hTolerates.serving⟩
        obtain ⟨hNoNull, hInvariant⟩ := hTolerated hPrepared
        exact ⟨⟨hNoNull, by simp, fun hDone => (hInvariant.settled hDone).serving⟩, hInvariant⟩

theorem invariant_fresh (wsUri : String) (states : Nat → DataState) (iceServers : List IceServerConfig) :
    Invariant (fresh wsUri states iceServers) where
  order := List.suffix_rfl
  manager hWired := absurd (by simp [fresh, createSteps]) hWired
  starting _ := ⟨rfl, rfl⟩
  settled hDone := absurd hDone (by simp [fresh, createSteps])

/-- **Which early messages are tolerated.**  Whatever the interleaving of the steps of `Create` with incoming
texts: all of it is tolerated, if and only if every text finds set what it needs, offers to the created connector
can be served, and neither READY_TO_CONNECT nor RTC_DISCONNECTING is lost. -/
theorem tolerates_iff (wsUri : String) (states : Nat → DataState) (iceServers : List IceServerConfig)
    (events : List StartupEvent) :
    EachStep (step lib setting) (Tolerates lib setting) (fresh wsUri states iceServers) events ↔
      EachStep (step lib setting) (Prepared lib) (fresh wsUri states iceServers) events := by
  apply eachStep_iff (A := fun _ => True) (I := Invariant)
  · intro s event _ h hTolerates
    exact ((tolerates_step lib setting h event).1 ((tolerates_step lib setting h event).2 hTolerates)).2
  · intro s event _ h
    obtain ⟨hTolerated, hPrepared⟩ := tolerates_step lib setting h event
    exact ⟨hPrepared, fun hPrepares => (hTolerated hPrepares).1⟩
  · exact invariant_fresh wsUri states iceServers
  · exact fun _ _ => trivial

/-- The empty text is a request to close, every other text an offer. -/
def offerOrClose : Libraries where
  fails _ := false
  closeNotifies := false
  failNotifies := false
  parse body := .parsed <|
    if body = [] then .object [("type", .string "signaling.close_peer_connection")]
    else .object [("type", .string "signaling.send_sdp_offer"), ("data", .object [("sdpOffer", .string "a")])]
  createSessionDescription _ := true
  createIceCandidate _ _ _ := true
  realText _ := ""

/-- A server that sends a message right after `Start` makes its handler use the null `mosaic_connector_`, one that
sends it before `SetPeerConnectionManager` the null `peer_connection_manager_`; and the offer that comes after
`Create` meets a null `peer_connection_factory_` when there is no factory. -/
theorem early_message_meets_null :
    let start := fresh "ws://server" (fun _ => .kConnecting) []
    let setting (factory : Bool) : Setting := ⟨{}, factory⟩
    let after (factory : Bool) (n : Nat) : Startup :=
      run (step offerOrClose (setting factory)) start (List.replicate n .create)
    let close : StartupEvent := .message [] true .done
    let offer : StartupEvent := .message [0] true .done
    ¬ EachStep (step offerOrClose (setting true)) (Tolerates offerOrClose (setting true)) start
        [.create, .create, close] ∧
      nullDereferences ((handle offerOrClose (setting true) close).run (after true 2)) = true ∧
      nullDereferences ((handle offerOrClose (setting true) close).run (after true 4)) = true ∧
      nullDereferences ((handle offerOrClose (setting false) offer).run (after false 6)) = true := by
  intro start setting after close offer
  have hNull : nullDereferences ((handle offerOrClose (setting true) close).run (after true 2)) = true := by
    decide
  refine ⟨fun hTolerated => ?_, hNull, by decide, by decide⟩
  have hNoNull := hTolerated.2.2.1.noNull
  rw [show step _ _ (step _ _ start .create) .create = after true 2 from rfl, hNull] at hNoNull
  cases hNoNull

end Startup

end MosaicCore
