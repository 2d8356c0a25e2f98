import MosaicCore.Core.Session

/-!
# The lifecycle of a connector

What a connector is for, without handlers, sends or libwebrtc: it holds at most one peer connection, and
every peer connection it ever created before that one has been closed once and released.  `Lifecycle` is
this as a state machine, `Lifecycle.session` the session each of its states stands for.

`represents_step` is the refinement: as long as nothing throws, one event of the connector is one event of the
lifecycle.  Everything about whole runs follows from the lifecycle.
-/

namespace MosaicCore

open EffectProgram EventRun

/-- Where a connector is between two events. -/
inductive Phase
  | ready
  | live (connected : Bool)
  | failed
  deriving DecidableEq, Repr

/-- A connector that has finished some peer connections; a live one has the next number. -/
structure Lifecycle where
  finished : Nat := 0
  phase : Phase := .ready
  deriving DecidableEq, Repr

/-- What a lifecycle reacts to. -/
inductive LifecycleEvent
  | offer (created : Bool)
  | close
  | connected
  | other
  deriving DecidableEq, Repr

namespace Lifecycle

/-- The live peer connection. -/
def current (l : Lifecycle) : Option Nat :=
  match l.phase with
  | .live _ => some l.finished
  | _ => none

/-- A live peer connection is finished. -/
def finish (l : Lifecycle) : Lifecycle :=
  match l.phase with
  | .live _ => { finished := l.finished + 1, phase := .ready }
  | _ => l

/-- One event. -/
def next (l : Lifecycle) : LifecycleEvent → Lifecycle
  | .offer created =>
      match l.finish.phase with
      | .failed => l.finish
      | _ => { l.finish with phase := if created then .live false else .failed }
  | .close => l.finish
  | .connected =>
      match l.phase with
      | .live _ => { l with phase := .live true }
      | _ => l
  | .other => l

/-- The connector state of a phase. -/
def state (l : Lifecycle) : ConnectorState :=
  match l.phase with
  | .ready => .readyToConnect
  | .live false => .rtcConnecting
  | .live true => .rtcConnected
  | .failed => .rtcFailed

/-- The whole life of a finished peer connection. -/
def finishedLife (peer : Nat) : List PeerCall := [.created peer, .closed peer, .released peer]

/-- Every peer connection so far: the finished ones one after the other, then the live one. -/
def history (l : Lifecycle) : List PeerCall :=
  (List.range l.finished).flatMap finishedLife ++ l.current.toList.map .created

/-- The session a lifecycle stands for. -/
def session (l : Lifecycle) : Session where
  state := l.state
  peerConnectionFactory := true
  peerConnection := l.current
  created := l.finished + l.current.toList.length
  calls := l.history

theorem current_isSome_iff (l : Lifecycle) :
    l.current.isSome = true ↔ l.state = .rtcConnecting ∨ l.state = .rtcConnected := by
  obtain ⟨finished, phase⟩ := l
  cases phase with
  | ready => simp [current, state]
  | live connected => cases connected <;> simp [current, state]
  | failed => simp [current, state]

/-- With nothing live there is nothing to finish. -/
theorem finish_of_current {l : Lifecycle} (hNone : l.current = none) : l.finish = l := by
  obtain ⟨finished, phase⟩ := l
  cases phase with
  | ready => rfl
  | live connected => simp [current] at hNone
  | failed => rfl

@[simp] theorem current_finish (l : Lifecycle) : l.finish.current = none := by
  obtain ⟨finished, phase⟩ := l
  cases phase <;> rfl

@[simp] theorem current_next_connected (l : Lifecycle) : (l.next .connected).current = l.current := by
  obtain ⟨finished, phase⟩ := l
  cases phase <;> rfl

theorem state_ne_rtcDisconnecting (l : Lifecycle) : l.state ≠ .rtcDisconnecting := by
  obtain ⟨finished, phase⟩ := l
  cases phase with
  | ready => simp [state]
  | live connected => cases connected <;> simp [state]
  | failed => simp [state]

/-- Closing the session of a live lifecycle finishes its peer connection. -/
theorem closed_session {l : Lifecycle} (hLive : l.current.isSome = true) :
    l.session.closed = l.finish.session := by
  obtain ⟨finished, phase⟩ := l
  cases phase with
  | ready => simp [current] at hLive
  | failed => simp [current] at hLive
  | live connected =>
      simp [session, Session.closed, finish, current, state, history, List.range_succ, finishedLife]

/-- Opening the session of a ready lifecycle makes it live. -/
theorem opened_session {l : Lifecycle} (hReady : l.phase = .ready) :
    { l.session.opened with state := .rtcConnecting } =
      ({ l with phase := .live false } : Lifecycle).session := by
  obtain ⟨finished, phase⟩ := l
  cases hReady
  simp [session, Session.opened, current, state, history]

end Lifecycle

/-! ## Refinement -/

/-- What a connector event means to the lifecycle. -/
def ConnectorEvent.lifecycleEvent : ConnectorEvent → LifecycleEvent
  | .sdpOffer _ created _ => .offer created
  | .closeMessage _ => .close
  | .connectionChange .kConnected _ => .connected
  | .connectionChange (.ended _) _ => .close
  | _ => .other

/-- The events between `InitializeWebRTC` and `ShuttingDown`. -/
def ConnectorEvent.InSession : ConnectorEvent → Prop
  | .initializeWebRTC _ => False
  | .shuttingDown _ => False
  | _ => True

namespace World

variable {σ : Type} {sc : ISignalingClient σ} {env : Environment}

/-- The lifecycle describes the session of the object graph. -/
def Represents (l : Lifecycle) (w : World σ) : Prop := session w = l.session

theorem Represents.connecting {l : Lifecycle} {w : World σ} (h : Represents l w) :
    World.connecting w = l.current.isSome := by
  rw [Bool.eq_iff_iff, connecting_iff, h, l.current_isSome_iff, or_comm]
  rfl

/-- Closing. -/
theorem represents_close (hSends : sc.NeverFaults) (hHandlers : env.NeverThrows) {l : Lifecycle}
    {w : World σ} (h : Represents l w) (inside : Reentry) :
    Ends (closePeerConnection sc env (deliver sc env inside)) w fun _ w' => Represents l.finish w' := by
  cases hLive : l.current.isSome with
  | true =>
      refine (closePeerConnection_ends hSends hHandlers (h.connecting.trans hLive) inside).imp
        fun _ w' hClosed => ?_
      rw [Represents, hClosed, h, Lifecycle.closed_session hLive]
  | false =>
      refine ⟨(), w, closePeerConnection_idle (h.connecting.trans hLive) _, ?_⟩
      rw [Lifecycle.finish_of_current (by simpa using hLive)]
      exact h

/-- Accepting an offer once nothing is live. -/
theorem represents_acceptOffer (hSends : sc.NeverFaults) {l : Lifecycle} {w : World σ}
    (h : Represents l w) (hNone : l.current = none) (sdpOffer : String) (created : Bool) :
    Ends (acceptOffer sc sdpOffer created) w fun _ w' =>
      Represents (match l.phase with
        | .failed => l
        | _ => { l with phase := if created then .live false else .failed }) w' := by
  cases hPhase : l.phase with
  | live connected => simp [Lifecycle.current, hPhase] at hNone
  | failed =>
      have hState : (session w).state ≠ .readyToConnect := by
        rw [h]
        simp [Lifecycle.session, Lifecycle.state, hPhase]
      exact ⟨(), w, acceptOffer_refused hState sdpOffer created, h⟩
  | ready =>
      have hState : (session w).state = .readyToConnect := by
        rw [h]
        simp [Lifecycle.session, Lifecycle.state, hPhase]
      have hFactory : (session w).peerConnectionFactory = true := by rw [h]; rfl
      have hPeer : (session w).peerConnection = none := by rw [h]; exact hNone
      refine (acceptOffer_ends hSends hState hFactory hPeer sdpOffer created).imp fun _ w' hEnd => ?_
      cases created with
      | true =>
          rw [Represents, hEnd, h]
          exact Lifecycle.opened_session hPhase
      | false =>
          rw [Represents, hEnd, h]
          simp [Lifecycle.session, Lifecycle.current, Lifecycle.history, Lifecycle.state, hPhase]

/-- An offer, whatever is live. -/
theorem represents_offer (hSends : sc.NeverFaults) (hHandlers : env.NeverThrows) {l : Lifecycle}
    {w : World σ} (h : Represents l w) (sdpOffer : String) (created : Bool) (inside : Reentry) :
    Ends (handleSdpOffer sc env sdpOffer created inside) w fun _ w' =>
      Represents (l.next (.offer created)) w' := by
  cases hLive : l.current with
  | some peer =>
      have hPeer : w.manager.peerConnection.isSome = true := by
        show (session w).peerConnection.isSome = true
        rw [h, Lifecycle.session, hLive]
        rfl
      refine Ends.congr_run (handleSdpOffer_some hPeer sdpOffer created inside) ?_
      refine ends_bind ((represents_close hSends hHandlers h inside).imp fun _ w₁ hClosed => ?_)
      exact represents_acceptOffer hSends hClosed l.current_finish sdpOffer created
  | none =>
      have hPeer : w.manager.peerConnection = none := by
        show (session w).peerConnection = none
        rw [h]
        exact hLive
      refine Ends.congr_run (handleSdpOffer_none hPeer sdpOffer created inside) ?_
      simp only [Lifecycle.next, Lifecycle.finish_of_current hLive]
      exact represents_acceptOffer hSends h hLive sdpOffer created

theorem fromPeer_none {w : World σ} (hNone : w.manager.peerConnection = none)
    (p : Nat → Program (World σ) Unit) : (fromPeer p).run w = .ok () w := by
  simp [fromPeer, hNone]

theorem fromPeer_some {w : World σ} {peer : Nat} (hSome : w.manager.peerConnection = some peer)
    (p : Nat → Program (World σ) Unit) : (fromPeer p).run w = (p peer).run w := by
  simp [fromPeer, hSome]

/-- A state change of the peer connection held. -/
theorem represents_connectionChange (hSends : sc.NeverFaults) (hHandlers : env.NeverThrows)
    {l : Lifecycle} {w : World σ} (h : Represents l w) (newState : PeerConnectionState)
    (inside : Reentry) :
    Ends (fromPeer fun _ => onConnectionChange sc env newState (deliver sc env inside)) w fun _ w' =>
      Represents (l.next (ConnectorEvent.connectionChange newState inside).lifecycleEvent) w' := by
  have hHeld : w.manager.peerConnection = l.current := congrArg Session.peerConnection h
  cases hLive : l.current with
  | none =>
      refine ⟨(), w, fromPeer_none (hHeld.trans hLive) _, ?_⟩
      have hStay : l.next (ConnectorEvent.connectionChange newState inside).lifecycleEvent = l := by
        cases newState with
        | kNew => rfl
        | kConnecting => rfl
        | kConnected =>
            obtain ⟨finished, phase⟩ := l
            cases phase with
            | live connected => simp [Lifecycle.current] at hLive
            | ready => rfl
            | failed => rfl
        | ended state => exact Lifecycle.finish_of_current hLive
      rw [hStay]
      exact h
  | some peer =>
      refine Ends.congr_run (fromPeer_some (hHeld.trans hLive) _) ?_
      cases newState with
      | kNew => exact ends_pure h
      | kConnecting => exact ends_pure h
      | kConnected =>
          refine (setState_ends hSends .rtcConnected w).imp fun _ w' hSet => ?_
          obtain ⟨finished, phase⟩ := l
          cases phase with
          | live connected =>
              rw [Represents, hSet, h]
              rfl
          | ready => simp [Lifecycle.current] at hLive
          | failed => simp [Lifecycle.current] at hLive
      | ended state =>
          cases state with
          | kFailed => exact represents_close hSends hHandlers h inside
          | kDisconnected => exact represents_close hSends hHandlers h inside
          | kClosed => exact represents_close hSends hHandlers h inside

/-- An event that keeps the session is no event of the lifecycle. -/
theorem represents_of_keepsSession {l : Lifecycle} {w : World σ} (h : Represents l w)
    {p : Program (World σ) Unit} (hKeeps : KeepsSession p) : Represents l (finalState (p.run w)) :=
  (hKeeps w).trans h

/-- **One event of the connector is one event of its lifecycle**, as long as nothing throws. -/
theorem represents_step (hSends : sc.NeverFaults) (hHandlers : env.NeverThrows) {l : Lifecycle}
    {w : World σ} {event : ConnectorEvent} (hEvent : event.InSession) (h : Represents l w) :
    Represents (l.next event.lifecycleEvent) (step sc env w event) := by
  cases event with
  | initializeWebRTC factory => exact absurd hEvent id
  | shuttingDown inside => exact absurd hEvent id
  | addDataChannelHandler label =>
      exact represents_of_keepsSession h keepsSession_addDataChannelHandler
  | addMediaTrackHandler trackName handler =>
      exact represents_of_keepsSession h keepsSession_addMediaTrackHandler
  | sdpOffer sdpOffer created inside =>
      obtain ⟨_, hEnd⟩ := (represents_offer hSends hHandlers h sdpOffer created inside).finalState
      exact hEnd
  | closeMessage inside =>
      obtain ⟨_, hEnd⟩ := (represents_close hSends hHandlers h inside).finalState
      exact hEnd
  | iceCandidateMessage candidate =>
      exact represents_of_keepsSession h keepsSession_handleIceCandidate
  | complete completion => exact represents_of_keepsSession h (keepsSession_complete completion)
  | connectionChange newState inside =>
      obtain ⟨_, hEnd⟩ :=
        (represents_connectionChange hSends hHandlers h newState inside).finalState
      exact hEnd
  | iceCandidate candidate => exact represents_of_keepsSession h keepsSession_iceCandidate
  | dataChannel label => exact represents_of_keepsSession h keepsSession_deliverDataChannel
  | channelState channel state => exact h
  | stateBroadcast => exact represents_of_keepsSession h keepsSession_sendState

/-! ## Runs -/

/-- A connector that `MosaicConnectorFactory::Create` has made, with a working factory. -/
def started (sc : ISignalingClient σ) (env : Environment) (signaling : σ) (states : Nat → DataState)
    (iceServers : List IceServerConfig) : World σ :=
  step sc env (wired signaling states iceServers) (.initializeWebRTC true)

theorem session_started (signaling : σ) (states : Nat → DataState) (iceServers : List IceServerConfig) :
    Represents {} (started sc env signaling states iceServers) := by
  exact session_setState sc .readyToConnect
    { (wired signaling states iceServers : World σ) with
      manager :=
        { (wired signaling states iceServers : World σ).manager with
          networkThread := true, workerThread := true, signalingThread := true
          peerConnectionFactory := true } }

/-- A whole run of the connector is a run of its lifecycle. -/
theorem represents_run (hSends : sc.NeverFaults) (hHandlers : env.NeverThrows) {l : Lifecycle}
    {w : World σ} (h : Represents l w) {events : List ConnectorEvent}
    (hEvents : ∀ event ∈ events, event.InSession) :
    Represents (run Lifecycle.next l (events.map ConnectorEvent.lifecycleEvent))
      (run (step sc env) w events) :=
  run_simulation (R := fun w l => Represents l w) (A := ConnectorEvent.InSession)
    (fun _ _ _ hEvent hw => represents_step hSends hHandlers hEvent hw) h hEvents

end World
end MosaicCore
