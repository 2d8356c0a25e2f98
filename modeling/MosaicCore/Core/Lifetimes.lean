import MosaicCore.Core.Resources
import MosaicCore.Core.Shutdown

/-!
# Which runs keep the resources alive

The first `InitializeWebRTC` creates threads and a factory on them.  A second one assigns the thread fields
before it assigns the factory: the threads of the old factory are gone while the factory, and a peer connection
made from it, are still there.  It also ends in READY_TO_CONNECT, whether the factory could be created and
whether there is a session or not; and a close that a handler's exception cuts short does the same with the peer
connection not closed.

`Orderly` excludes just these, and `alwaysOutlive_iff` says that nothing else goes wrong.
-/

namespace MosaicCore

open EffectProgram EventRun

namespace Owned

variable {σ : Type} (sc : ISignalingClient σ) (env : Environment)

/-- Nothing that is alive has lost what it needs, and READY_TO_CONNECT means ready. -/
structure Outlives (o : Owned σ) : Prop where
  factory : ∀ threads, o.resources.peerConnectionFactory = some threads → o.resources.threads = threads
  peerConnection : ∀ peer, o.resources.peerConnection = some peer → o.resources.threads = peer.threads
  observer : ∀ peer, o.resources.peerConnection = some peer → peer.closed = false →
    o.resources.peerConnectionObserver = peer.observer
  ready : o.world.stateManager.state = .readyToConnect →
    o.world.manager.peerConnectionFactory = true ∧ o.world.manager.peerConnection = none

/-- So it is in every state of a run, also between the statements of an event. -/
def AlwaysOutlive (o : Owned σ) (events : List ConnectorEvent) : Prop :=
  Outlives o ∧ EachStep (step sc env) (fun o event => ∀ o' ∈ visited (handle sc env event) o, Outlives o') o events

/-- The send of a state returns. -/
def sends (w : World σ) (newState : ConnectorState) : Bool :=
  !w.stateManager.signalingClient ||
    match (sc.sendState newState.stateToInt).run w.signaling with
    | .ok _ _ => true
    | .error _ _ => false

/-- A session that is closed is closed to the end: no media track handler throws, or RTC_DISCONNECTING cannot even
be sent. -/
def ClosesQuietly (w : World σ) : Prop :=
  World.connecting w = true → w.manager.peerConnection.isSome = true → sends sc w .rtcDisconnecting = true →
    env.throwsAmong w.callbacks.length (World.closing w) = false

/-- The events that keep the resources alive. -/
def Orderly (w : World σ) : ConnectorEvent → Prop
  | .initializeWebRTC factory => factory = true ∧ w.manager.peerConnectionFactory = false
  | .sdpOffer _ _ _ => ClosesQuietly sc env w
  | .closeMessage _ => ClosesQuietly sc env w
  | .connectionChange (.ended _) _ => ClosesQuietly sc env w
  | _ => True

variable {sc env}

/-! ## The invariant -/

/-- What holds in every state of an orderly run. -/
structure Sound (o : Owned σ) : Prop where
  factory : o.world.manager.peerConnectionFactory = o.resources.peerConnectionFactory.isSome
  peer : o.world.manager.peerConnection.isSome = o.resources.peerConnection.isSome
  threads : ∀ threads, o.resources.peerConnectionFactory = some threads → o.resources.threads = threads
  created : ∀ peer, o.resources.peerConnection = some peer →
    o.resources.peerConnectionFactory = some peer.threads ∧ o.resources.peerConnectionObserver = peer.observer
  fresh : ∀ n, o.resources.threads.network = some n → n < o.resources.made
  needed : (World.session o.world).state = .readyToConnect ∨ World.connecting o.world = true →
    o.world.manager.peerConnectionFactory = true
  ready : (World.session o.world).state = .readyToConnect → o.world.manager.peerConnection = none

theorem Sound.outlives {o : Owned σ} (h : Sound o) : Outlives o where
  factory := h.threads
  peerConnection peer hPeer := h.threads _ (h.created peer hPeer).1
  observer peer hPeer _ := (h.created peer hPeer).2
  ready hReady := ⟨h.needed (.inl hReady), h.ready hReady⟩

/-- Without a factory there is no peer connection. -/
theorem Sound.no_peer {o : Owned σ} (h : Sound o) (hFactory : o.resources.peerConnectionFactory = none) :
    o.resources.peerConnection = none := by
  cases hPeer : o.resources.peerConnection with
  | none => rfl
  | some peer =>
      have hCreated := (h.created peer hPeer).1
      rw [hFactory] at hCreated
      cases hCreated

/-- `peer_connection_` is null when it owns nothing. -/
theorem Sound.peer_none_iff {o : Owned σ} (h : Sound o) :
    o.world.manager.peerConnection = none ↔ o.resources.peerConnection = none := by
  rw [← Option.not_isSome_iff_eq_none, ← Option.not_isSome_iff_eq_none, h.peer]

/-- A peer connection has its factory. -/
theorem Sound.factory_of_peer {o : Owned σ} (h : Sound o) (hPeer : o.world.manager.peerConnection.isSome = true) :
    o.world.manager.peerConnectionFactory = true := by
  rw [h.peer, Option.isSome_iff_exists] at hPeer
  obtain ⟨peer, hSome⟩ := hPeer
  rw [h.factory, (h.created peer hSome).1]
  rfl

/-- Only the state and the pointers matter. -/
theorem Sound.congr {o : Owned σ} (h : Sound o) {w : World σ}
    (hState : (World.session w).state = (World.session o.world).state)
    (hFactory : w.manager.peerConnectionFactory = o.world.manager.peerConnectionFactory)
    (hPeer : w.manager.peerConnection = o.world.manager.peerConnection) : Sound ⟨w, o.resources⟩ := by
  have hConnecting : World.connecting w = World.connecting o.world := World.connecting_congr hState
  refine ⟨hFactory.trans h.factory, ?_, h.threads, h.created, h.fresh, ?_, ?_⟩
  · rw [hPeer]
    exact h.peer
  · rw [hState, hConnecting, hFactory]
    exact h.needed
  · rw [hState, hPeer]
    exact h.ready

/-- A statement that keeps the session and the resources. -/
theorem Sound.of_session {o : Owned σ} (h : Sound o) {w : World σ}
    (hSession : World.session w = World.session o.world) : Sound ⟨w, o.resources⟩ :=
  h.congr (congrArg Session.state hSession) (congrArg Session.peerConnectionFactory hSession)
    (congrArg Session.peerConnection hSession)

/-- `peer_connection_` closes its peer connection. -/
theorem Sound.closed {o : Owned σ} (h : Sound o) :
    Sound ⟨o.world, { o.resources with
      peerConnection := o.resources.peerConnection.map fun peer => { peer with closed := true } }⟩ := by
  refine ⟨h.factory, ?_, h.threads, ?_, h.fresh, h.needed, h.ready⟩
  · simpa using h.peer
  · intro peer hPeer
    obtain ⟨peer', hSome, rfl⟩ := Option.map_eq_some_iff.mp hPeer
    exact h.created peer' hSome

/-- `peer_connection_` gives its peer connection up. -/
theorem Sound.dropped {o : Owned σ} (h : Sound o) {w : World σ}
    (hState : w.stateManager = o.world.stateManager)
    (hManager : w.manager = { o.world.manager with peerConnection := none }) :
    Sound ⟨w, { o.resources with peerConnection := none }⟩ := by
  have hSame : (World.session w).state = (World.session o.world).state :=
    congrArg ConnectorStateManager.state hState
  refine ⟨?_, ?_, h.threads, ?_, h.fresh, ?_, ?_⟩
  · rw [hManager]
    exact h.factory
  · rw [hManager]
    rfl
  · intro peer hPeer
    cases hPeer
  · rw [hSame, World.connecting_congr hSame, hManager]
    exact h.needed
  · intro _
    rw [hManager]

/-- A statement that changes the state. -/
theorem Sound.setState {o : Owned σ} (h : Sound o) {w : World σ} {newState : ConnectorState}
    (hSession : World.session w = { World.session o.world with state := newState })
    (hNeeded : newState = .readyToConnect ∨ newState = .rtcConnected ∨ newState = .rtcConnecting →
      o.world.manager.peerConnectionFactory = true)
    (hReady : newState = .readyToConnect → o.world.manager.peerConnection = none) : Sound ⟨w, o.resources⟩ := by
  have hFactory : w.manager.peerConnectionFactory = o.world.manager.peerConnectionFactory :=
    congrArg Session.peerConnectionFactory hSession
  have hPeer : w.manager.peerConnection = o.world.manager.peerConnection :=
    congrArg Session.peerConnection hSession
  have hState : (World.session w).state = newState := congrArg Session.state hSession
  refine ⟨hFactory.trans h.factory, ?_, h.threads, h.created, h.fresh, ?_, ?_⟩
  · rw [hPeer]
    exact h.peer
  · rw [hFactory, World.connecting_iff, hState]
    exact hNeeded
  · rw [hState, hPeer]
    exact hReady

/-! ## Statements -/

/-- A statement, by how it ends. -/
theorem passes_doing {p : Program (World σ) Unit} {f : Resources → Resources} {o : Owned σ}
    {Q : Unit → Owned σ → Prop} {E : Fault → Owned σ → Prop}
    (hReturns : ∀ w, p.run o.world = .ok () w → Sound ⟨w, f o.resources⟩ ∧ Q () ⟨w, f o.resources⟩)
    (hThrows : ∀ e w, p.run o.world = .error e w → Sound ⟨w, o.resources⟩ ∧ E e ⟨w, o.resources⟩) :
    Passes Sound (doing p f) o Q E := by
  apply passes_statement
  rw [EStateM.run_bind, zoom_run]
  cases hRun : p.run o.world with
  | ok u w => exact hReturns w hRun
  | error e w => exact hThrows e w hRun

/-- An assignment. -/
theorem passes_modify {g : World σ → World σ} {f : Resources → Resources} {o : Owned σ}
    {Q : Unit → Owned σ → Prop} {E : Fault → Owned σ → Prop} (hSound : Sound ⟨g o.world, f o.resources⟩)
    (hQ : Q () ⟨g o.world, f o.resources⟩) : Passes Sound (doing (modify g) f) o Q E := by
  apply passes_doing
  · intro w hRun
    cases hRun
    exact ⟨hSound, hQ⟩
  · intro e w hRun
    cases hRun

/-- A statement that keeps the session and the resources. -/
theorem passes_keeps {p : Program (World σ) Unit} (hKeeps : World.KeepsSession p) {o : Owned σ} (h : Sound o)
    {Q : Unit → Owned σ → Prop} {E : Fault → Owned σ → Prop}
    (hReturns : ∀ w, World.session w = World.session o.world → Q () ⟨w, o.resources⟩)
    (hThrows : ∀ e w, World.session w = World.session o.world → E e ⟨w, o.resources⟩) :
    Passes Sound (doing p id) o Q E := by
  have hSession := hKeeps o.world
  apply passes_doing
  · intro w hRun
    rw [hRun] at hSession
    exact ⟨h.of_session hSession, hReturns w hSession⟩
  · intro e w hRun
    rw [hRun] at hSession
    exact ⟨h.of_session hSession, hThrows e w hSession⟩

/-- A state change. -/
theorem passes_setState {newState : ConnectorState} {o : Owned σ} {Q : Unit → Owned σ → Prop}
    (hSound : ∀ w : World σ, World.session w = { World.session o.world with state := newState } →
      Sound ⟨w, o.resources⟩)
    (hReturns : ∀ w : World σ, World.session w = { World.session o.world with state := newState } →
      (World.setState sc newState).run o.world = .ok () w → Q () ⟨w, o.resources⟩) :
    Passes Sound (doing (World.setState sc newState) id) o Q fun _ => Sound := by
  have hSession := World.session_setState sc newState o.world
  apply passes_doing
  · intro w hRun
    rw [hRun] at hSession
    exact ⟨hSound w hSession, hReturns w hSession hRun⟩
  · intro e w hRun
    rw [hRun] at hSession
    exact ⟨hSound w hSession, hSound w hSession⟩

/-- A state change that ends a routine. -/
theorem passes_setState_last {newState : ConnectorState} {o : Owned σ}
    (hSound : ∀ w : World σ, World.session w = { World.session o.world with state := newState } →
      Sound ⟨w, o.resources⟩) :
    Passes Sound (doing (World.setState sc newState) id) o (fun _ => Sound) fun _ => Sound :=
  passes_setState hSound fun w hSession _ => hSound w hSession

/-- Only a state whose send returns lets `SetState` return. -/
theorem sends_of_setState {newState : ConnectorState} {w w' : World σ}
    (hRun : (World.setState sc newState).run w = .ok () w') : sends sc w newState = true := by
  unfold sends
  cases hClient : w.stateManager.signalingClient with
  | false => rfl
  | true =>
      cases hSend : (sc.sendState newState.stateToInt).run w.signaling with
      | ok u s => rfl
      | error e s => simp [World.setState, World.sendState, hClient, World.onSignaling, zoom_run, hSend] at hRun

theorem setState_of_sends {newState : ConnectorState} {w : World σ} (hSends : sends sc w newState = true) :
    ∃ w', (World.setState sc newState).run w = .ok () w' := by
  unfold sends at hSends
  cases hClient : w.stateManager.signalingClient with
  | false => exact ⟨_, by simp [World.setState, World.sendState, hClient]; rfl⟩
  | true =>
      cases hSend : (sc.sendState newState.stateToInt).run w.signaling with
      | ok u s =>
          exact ⟨_, by simp [World.setState, World.sendState, hClient, World.onSignaling, zoom_run, hSend]; rfl⟩
      | error e s => simp [hClient, hSend] at hSends

/-! ## Closing -/

/-- Outside RTC_CONNECTING and RTC_CONNECTED, closing does nothing. -/
theorem closePeerConnection_idle {o : Owned σ} (hIdle : World.connecting o.world = false)
    (during : Program (Traced (Owned σ)) Unit) (passed : List (Owned σ)) :
    (closePeerConnection sc env during).run ⟨o, passed⟩ = .ok () ⟨o, passed⟩ := by
  unfold closePeerConnection
  rw [EStateM.run_bind, look_run]
  simp [hIdle]

theorem deliver_idle {o : Owned σ} (hIdle : World.connecting o.world = false) (inside : Reentry)
    (passed : List (Owned σ)) : (deliver sc env inside).run ⟨o, passed⟩ = .ok () ⟨o, passed⟩ := by
  induction inside with
  | done => rfl
  | event state inside rest _ ihRest =>
      have hFirst : (onConnectionChange sc env (.ended state) (deliver sc env inside)).run ⟨o, passed⟩ =
          .ok () ⟨o, passed⟩ := by
        cases state <;> exact closePeerConnection_idle hIdle _ _
      show (onConnectionChange sc env (.ended state) (deliver sc env inside) >>= fun _ =>
        deliver sc env rest).run ⟨o, passed⟩ = _
      rw [EStateM.run_bind, hFirst]
      exact ihRest

/-- A routine that does nothing. -/
theorem passes_of_idle {q : Program (Traced (Owned σ)) Unit} {o : Owned σ}
    (hIdle : ∀ passed, q.run ⟨o, passed⟩ = .ok () ⟨o, passed⟩) {P : Owned σ → Prop}
    {Q : Unit → Owned σ → Prop} {E : Fault → Owned σ → Prop} (hQ : Q () o) : Passes P q o Q E := by
  intro passed hPassed
  rw [hIdle passed]
  exact ⟨hPassed, hQ⟩

theorem assignPeerConnection_none_run (w : World σ) :
    ∃ w', (World.assignPeerConnection none).run w = .ok () w' ∧ w'.stateManager = w.stateManager ∧
      w'.manager = { w.manager with peerConnection := none } := by
  let w₁ : World σ := { w with manager := { w.manager with peerConnection := none } }
  cases hPeer : w.manager.peerConnection with
  | none => exact ⟨w₁, by simp [World.assignPeerConnection, hPeer, w₁], rfl, rfl⟩
  | some peer =>
      exact ⟨{ w₁ with webrtc := { w.webrtc with calls := w.webrtc.calls ++ [.release peer] } },
        by simp [World.assignPeerConnection, hPeer, World.rtcCall, w₁], rfl, rfl⟩

theorem passes_dropPeerConnection {o : Owned σ} (h : Sound o) {Q : Unit → Owned σ → Prop}
    {E : Fault → Owned σ → Prop}
    (hQ : ∀ o', Sound o' → o'.world.stateManager = o.world.stateManager →
      o'.world.manager = { o.world.manager with peerConnection := none } →
      o'.resources = { o.resources with peerConnection := none } → Q () o') :
    Passes Sound dropPeerConnection o Q E := by
  obtain ⟨w', hRun, hState, hManager⟩ := assignPeerConnection_none_run o.world
  have hSound := h.dropped hState hManager
  apply passes_doing
  · intro w hRun'
    rw [hRun] at hRun'
    cases hRun'
    exact ⟨hSound, hQ _ hSound hState hManager rfl⟩
  · intro e w hRun'
    rw [hRun] at hRun'
    cases hRun'

/-- Closing and dropping, whatever `Close()` delivers. -/
theorem passes_closeAndDrop {o : Owned σ} (h : Sound o) (hIdle : World.connecting o.world = false)
    (inside : Reentry) {Q : Unit → Owned σ → Prop} {E : Fault → Owned σ → Prop}
    (hQ : ∀ o', Sound o' → o'.world.stateManager = o.world.stateManager →
      o'.world.manager = { o.world.manager with peerConnection := none } → Q () o') :
    Passes Sound (closeAndDrop (deliver sc env inside)) o Q E := by
  apply passes_look
  cases hPeer : o.world.manager.peerConnection with
  | none =>
      apply passes_pure
      apply hQ o h rfl
      rw [← hPeer]
  | some peer =>
      have hClosed := (h.congr (w := { o.world with webrtc :=
        { o.world.webrtc with calls := o.world.webrtc.calls ++ [.close peer] } }) rfl rfl rfl).closed
      apply passes_bind
      apply passes_modify hClosed
      apply passes_bind
      -- What `Close()` delivers finds the state no longer connecting, and does nothing.
      apply passes_of_idle
      · intro passed
        apply deliver_idle
        exact hIdle
      apply passes_dropPeerConnection hClosed
      exact fun o' hSound hState hManager _ => hQ o' hSound hState hManager

/-- The `try` block, when nothing is left to be closed after an exception. -/
theorem passes_closeHandlersAndDrop {o : Owned σ} (h : Sound o) (hIdle : World.connecting o.world = false)
    (hQuiet : o.world.manager.peerConnection.isSome = true →
      env.throwsAmong o.world.callbacks.length (World.closing o.world) = false) (inside : Reentry) :
    let ends (o' : Owned σ) := Sound o' ∧ o'.world.manager.peerConnection = none ∧
      o'.world.manager.peerConnectionFactory = o.world.manager.peerConnectionFactory
    Passes Sound (closeHandlersAndDrop env (deliver sc env inside)) o (fun _ => ends) fun _ => ends := by
  intro ends
  -- From here on the session is that of `o`, until the peer connection is dropped.
  have hRest (w : World σ) (hSession : World.session w = World.session o.world) :
      Passes Sound (do doing World.closeAllDataChannels id; closeAndDrop (deliver sc env inside))
        ⟨w, o.resources⟩ (fun _ => ends) fun _ => ends := by
    have hSound : Sound ⟨w, o.resources⟩ := h.of_session hSession
    apply passes_bind
    apply passes_doing
    · intro w₁ hRun
      have hSession₁ : World.session w₁ = World.session w := by
        have hKeeps := World.keepsSession_closeAllDataChannels w
        rwa [hRun] at hKeeps
      have hSame := hSession₁.trans hSession
      have hSound₁ : Sound ⟨w₁, o.resources⟩ := h.of_session hSame
      refine ⟨hSound₁, passes_closeAndDrop hSound₁ ?_ inside ?_⟩
      · exact (World.connecting_congr (congrArg Session.state hSame)).trans hIdle
      · intro o' hSound' _ hManager
        refine ⟨hSound', by rw [hManager], ?_⟩
        rw [hManager]
        exact congrArg Session.peerConnectionFactory hSame
    · intro e w₁ hRun
      obtain ⟨_, _, hReturns⟩ := World.neverFaults_closeAllDataChannels w
      rw [hReturns] at hRun
      cases hRun
  apply passes_bind
  cases hPeer : o.world.manager.peerConnection with
  | none =>
      apply passes_keeps World.keepsSession_closeAllMediaTracks h
      · exact hRest
      · intro e w hSession
        have hSound : Sound ⟨w, o.resources⟩ := h.of_session hSession
        exact ⟨hSound, (congrArg Session.peerConnection hSession).trans hPeer,
          congrArg Session.peerConnectionFactory hSession⟩
  | some peer =>
      have hReturns := World.run_closeAllMediaTracks env o.world
      rw [hQuiet (by rw [hPeer]; rfl)] at hReturns
      have hSession : World.session (finalState ((World.closeAllMediaTracks env).run o.world)) =
          World.session o.world := World.keepsSession_closeAllMediaTracks o.world
      apply passes_doing
      · intro w hRun
        rw [hRun] at hSession
        exact ⟨h.of_session hSession, hRest w hSession⟩
      · intro e w hRun
        rw [hReturns] at hRun
        cases hRun

/-- **Closing keeps the resources sound** when it is not cut short. -/
theorem passes_closePeerConnection {o : Owned σ} (h : Sound o) (hQuiet : ClosesQuietly sc env o.world)
    (inside : Reentry) :
    Passes Sound (closePeerConnection sc env (deliver sc env inside)) o (fun _ => Sound) fun _ => Sound := by
  cases hConnecting : World.connecting o.world with
  | false => exact passes_of_idle (fun passed => closePeerConnection_idle hConnecting _ passed) h
  | true =>
      have hFactory : o.world.manager.peerConnectionFactory = true := h.needed (.inr hConnecting)
      apply passes_look
      simp only [hConnecting, not_true_eq_false, if_false]
      apply passes_bind
      apply passes_setState
      · exact fun w hSession => h.setState hSession (by simp) (by simp)
      intro w hSession hRun
      have hSound : Sound ⟨w, o.resources⟩ := h.setState hSession (by simp) (by simp)
      have hIdle : World.connecting w = false :=
        World.connecting_eq_false .rtcDisconnecting (congrArg Session.state hSession) (by decide)
      -- The handlers to close are those from before the state change.
      have hHandlers : World.handlerSide (finalState ((World.setState sc .rtcDisconnecting).run o.world)) =
          World.handlerSide o.world := World.keepsHandlers_setState .rtcDisconnecting o.world
      rw [hRun, finalState_ok] at hHandlers
      have hPeer : w.manager.peerConnection = o.world.manager.peerConnection :=
        congrArg Session.peerConnection hSession
      have hTracks : w.manager.peerConnection.isSome = true →
          env.throwsAmong w.callbacks.length (World.closing w) = false := by
        intro hSome
        rw [hPeer] at hSome
        have hCallbacks : w.callbacks = o.world.callbacks := congrArg HandlerSide.callbacks hHandlers
        have hConnector : w.connector = o.world.connector := congrArg HandlerSide.connector hHandlers
        have hReturns := hQuiet hConnecting hSome (sends_of_setState hRun)
        rwa [World.closing, hCallbacks, hConnector]
      apply passes_bind
      apply passes_recover
      -- Whether the block is left by an exception or not, READY_TO_CONNECT is set next.
      have hReady (o' : Owned σ) (hEnds : Sound o' ∧ o'.world.manager.peerConnection = none ∧
          o'.world.manager.peerConnectionFactory = w.manager.peerConnectionFactory) :
          Passes Sound (doing (World.onConnectionDisconnected sc) id) o' (fun _ => Sound) fun _ => Sound := by
        obtain ⟨hSound', hNone, hFactory'⟩ := hEnds
        have hHeld : o'.world.manager.peerConnectionFactory = true :=
          (hFactory'.trans (congrArg Session.peerConnectionFactory hSession)).trans hFactory
        apply passes_setState_last
        exact fun w' hSession' => hSound'.setState hSession' (fun _ => hHeld) fun _ => hNone
      apply (passes_closeHandlersAndDrop hSound hIdle hTracks inside).imp
      · exact fun _ => hReady
      · intro e o' hEnds
        by_cases hCaught : e.isException = true
        · simpa [hCaught] using hReady o' hEnds
        · simpa [hCaught] using hEnds.1

/-! ## Offers -/

/-- With a factory, `CreatePeerConnectionOrError` returns. -/
theorem createPeerConnectionOrError_run {w : World σ} (hFactory : w.manager.peerConnectionFactory = true)
    (hNone : w.manager.peerConnection = none) (created : Bool) :
    ∃ w', (createPeerConnectionOrError created).run w = .ok () w' ∧ w'.stateManager = w.stateManager ∧
      w'.manager = { w.manager with peerConnection := if created then some w.webrtc.created else none } := by
  let servers := w.manager.iceServers.map getIceServer
  cases created with
  | false =>
      refine ⟨{ w with webrtc :=
          { w.webrtc with calls := w.webrtc.calls ++ [.createPeerConnectionOrError servers none] } },
        by simp [createPeerConnectionOrError, hFactory, World.rtcCall, servers], rfl, ?_⟩
      simp [← hNone]
  | true =>
      exact ⟨{ w with
          manager := { w.manager with peerConnection := some w.webrtc.created }
          webrtc :=
            { w.webrtc with
              calls := w.webrtc.calls ++ [.createPeerConnectionOrError servers (some w.webrtc.created)]
              created := w.webrtc.created + 1 } },
        by simp [createPeerConnectionOrError, hFactory, World.rtcCall, World.assignPeerConnection, hNone,
          servers],
        rfl, rfl⟩

/-- A new observer while there is no peer connection. -/
theorem Sound.observed {o : Owned σ} (h : Sound o) (hNone : o.world.manager.peerConnection = none) {w : World σ}
    (hState : w.stateManager = o.world.stateManager)
    (hFactory : w.manager.peerConnectionFactory = o.world.manager.peerConnectionFactory)
    (hPeer : w.manager.peerConnection = o.world.manager.peerConnection) {observer : Option Nat} {made : Nat}
    (hMade : o.resources.made ≤ made) :
    Sound ⟨w, { o.resources with peerConnectionObserver := observer, made := made }⟩ := by
  have hSame : (World.session w).state = (World.session o.world).state :=
    congrArg ConnectorStateManager.state hState
  have hSound := h.congr hSame hFactory hPeer
  have hAbsent : o.resources.peerConnection = none := h.peer_none_iff.mp hNone
  refine ⟨hSound.factory, hSound.peer, h.threads, ?_, ?_, hSound.needed, hSound.ready⟩
  · intro peer hSome
    rw [hAbsent] at hSome
    cases hSome
  · intro n hNetwork
    exact Nat.lt_of_lt_of_le (h.fresh n hNetwork) hMade

/-- A peer connection is made with the factory and the observer that are there. -/
theorem Sound.peerCreated {o : Owned σ} (h : Sound o)
    (hFactory : o.world.manager.peerConnectionFactory = true) (hNone : o.world.manager.peerConnection = none)
    (hState : (World.session o.world).state = .rtcConnecting) {w : World σ}
    (hSame : w.stateManager = o.world.stateManager) {peer : Nat} {created : Bool}
    (hManager : w.manager =
      { o.world.manager with peerConnection := if created then some peer else none }) :
    Sound ⟨w, { o.resources with
      peerConnection :=
        if created then
          o.resources.peerConnectionFactory.map fun threads =>
            { threads := threads, observer := o.resources.peerConnectionObserver }
        else o.resources.peerConnection }⟩ := by
  obtain ⟨threads, hThreads⟩ : ∃ threads, o.resources.peerConnectionFactory = some threads := by
    rw [← Option.isSome_iff_exists, ← h.factory]
    exact hFactory
  have hHeld : w.manager.peerConnectionFactory = true := by
    rw [hManager]
    exact hFactory
  have hConnecting : (World.session w).state = .rtcConnecting :=
    (congrArg ConnectorStateManager.state hSame).trans hState
  refine ⟨hHeld.trans (by rw [hThreads]; rfl), ?_, h.threads, ?_, h.fresh, fun _ => hHeld, ?_⟩
  · rw [hManager]
    cases created with
    | false => simpa [hNone] using h.peer
    | true => simp [hThreads]
  · intro peer' hPeer
    cases created with
    | false => exact h.created peer' hPeer
    | true =>
        simp only [if_true, hThreads, Option.map_some, Option.some.injEq] at hPeer
        subst hPeer
        exact ⟨hThreads, rfl⟩
  · rw [hConnecting]
    simp

/-- Creating the peer connection of an offer. -/
theorem passes_createPeerConnection {o : Owned σ} (h : Sound o)
    (hFactory : o.world.manager.peerConnectionFactory = true) (hNone : o.world.manager.peerConnection = none)
    (hState : (World.session o.world).state = .rtcConnecting) (created : Bool) {E : Fault → Owned σ → Prop} :
    Passes Sound (createPeerConnection created) o (fun _ => Sound) E := by
  have hObserved : Sound ⟨{ o.world with manager := { o.world.manager with peerConnectionObserver := true } },
      { o.resources with
        peerConnectionObserver := some o.resources.made
        made := o.resources.made + 1 }⟩ := by
    apply h.observed hNone
    · rfl
    · rfl
    · rfl
    · exact Nat.le_succ o.resources.made
  apply passes_bind
  apply passes_modify hObserved
  obtain ⟨w', hRun, hSame, hManager⟩ := createPeerConnectionOrError_run
    (w := { o.world with manager := { o.world.manager with peerConnectionObserver := true } }) hFactory hNone
    created
  have hSound := hObserved.peerCreated hFactory hNone hState hSame hManager
  -- The call returns, so the statement has one outcome.
  apply passes_doing
  · intro w hRun'
    rw [hRun] at hRun'
    cases hRun'
    exact ⟨hSound, hSound⟩
  · intro e w hRun'
    rw [hRun] at hRun'
    cases hRun'

theorem passes_acceptOffer {o : Owned σ} (h : Sound o) (sdpOffer : String) (created : Bool) :
    Passes Sound (acceptOffer sc sdpOffer created) o (fun _ => Sound) fun _ => Sound := by
  apply passes_look
  cases hReady : World.isState o.world .readyToConnect with
  | false =>
      simp only [Bool.false_eq_true, not_false_eq_true, if_true]
      exact passes_pure h
  | true =>
      have hState : (World.session o.world).state = .readyToConnect := by
        simpa [World.isState, World.session] using hReady
      have hFactory : o.world.manager.peerConnectionFactory = true := h.needed (.inl hState)
      have hNone : o.world.manager.peerConnection = none := h.ready hState
      simp only [not_true_eq_false, if_false]
      apply passes_bind
      apply passes_setState
      · exact fun w hSession => h.setState hSession (fun _ => hFactory) (by simp)
      intro w hSession _
      have hSound : Sound ⟨w, o.resources⟩ := h.setState hSession (fun _ => hFactory) (by simp)
      apply passes_bind
      apply (passes_createPeerConnection hSound ((congrArg Session.peerConnectionFactory hSession).trans hFactory)
        ((congrArg Session.peerConnection hSession).trans hNone) (congrArg Session.state hSession) created
        (E := fun _ => Sound)).imp
      · intro _ o' hSound'
        apply passes_look
        -- Without a peer connection the offer ends in RTC_FAILED, with one its description is set.
        cases o'.world.manager.peerConnection with
        | none =>
            apply passes_setState_last
            exact fun w' hSession' => hSound'.setState hSession' (by simp) (by simp)
        | some peer =>
            apply passes_modify
            · exact hSound'.congr rfl rfl rfl
            · exact hSound'.congr rfl rfl rfl
      · exact fun _ _ hSound' => hSound'

theorem passes_handleSdpOffer {o : Owned σ} (h : Sound o) (hQuiet : ClosesQuietly sc env o.world)
    (sdpOffer : String) (created : Bool) (inside : Reentry) :
    Passes Sound (handleSdpOffer sc env sdpOffer created inside) o (fun _ => Sound) fun _ => Sound := by
  apply passes_look
  split
  · apply passes_bind
    apply (passes_closePeerConnection h hQuiet inside).imp
    · exact fun _ o' hSound => passes_acceptOffer hSound sdpOffer created
    · exact fun _ _ hSound => hSound
  · exact passes_acceptOffer h sdpOffer created

/-! ## Threads and factory -/

/-- Without a factory nothing depends on the threads. -/
theorem Sound.rethreaded {o : Owned σ} (h : Sound o) (hFactory : o.resources.peerConnectionFactory = none)
    {w : World σ} (hState : (World.session w).state = (World.session o.world).state)
    (hSame : w.manager.peerConnectionFactory = o.world.manager.peerConnectionFactory)
    (hPeer : w.manager.peerConnection = o.world.manager.peerConnection) {threads : Threads} {made : Nat}
    (hFresh : ∀ n, threads.network = some n → n < made) :
    Sound ⟨w, { o.resources with threads := threads, made := made }⟩ := by
  have hSound := h.congr hState hSame hPeer
  refine ⟨hSound.factory, hSound.peer, ?_, h.created, hFresh, hSound.needed, hSound.ready⟩
  intro threads' hSome
  rw [hFactory] at hSome
  cases hSome

theorem passes_createThread {o : Owned σ} (h : Sound o) (hFactory : o.resources.peerConnectionFactory = none)
    {set : PeerConnectionManager → PeerConnectionManager} {assign : Threads → Option Nat → Threads}
    (hSet : ∀ m, (set m).peerConnectionFactory = m.peerConnectionFactory ∧
      (set m).peerConnection = m.peerConnection)
    (hAssign : ∀ threads made n, (assign threads (some made)).network = some n →
      threads.network = some n ∨ n = made) {Q : Unit → Owned σ → Prop} {E : Fault → Owned σ → Prop}
    (hQ : ∀ o', Sound o' → o'.resources.peerConnectionFactory = none → Q () o') :
    Passes Sound (createThread set assign) o Q E := by
  have hSound : Sound ⟨{ o.world with manager := set o.world.manager },
      { o.resources with
        threads := assign o.resources.threads (some o.resources.made)
        made := o.resources.made + 1 }⟩ := by
    refine h.rethreaded hFactory ?_ ?_ ?_ ?_
    · rfl
    · exact (hSet _).1
    · exact (hSet _).2
    intro n hNetwork
    rcases hAssign _ _ _ hNetwork with hOld | rfl
    · exact Nat.lt_succ_of_lt (h.fresh n hOld)
    · exact Nat.lt_succ_self _
  exact passes_modify hSound (hQ _ hSound hFactory)

theorem passes_initializeWebRTC {o : Owned σ} (h : Sound o)
    (hAbsent : o.world.manager.peerConnectionFactory = false) :
    Passes Sound (initializeWebRTC sc true) o (fun _ => Sound) fun _ => Sound := by
  have hFactory : o.resources.peerConnectionFactory = none := by
    rw [h.factory] at hAbsent
    simpa using hAbsent
  apply passes_bind
  apply passes_createThread h hFactory
  · exact fun _ => ⟨rfl, rfl⟩
  · intro threads made n hNetwork
    exact .inr (Option.some.inj hNetwork).symm
  intro o₁ h₁ hFactory₁
  apply passes_bind
  apply passes_createThread h₁ hFactory₁
  · exact fun _ => ⟨rfl, rfl⟩
  · exact fun _ _ _ => .inl
  intro o₂ h₂ hFactory₂
  apply passes_bind
  apply passes_createThread h₂ hFactory₂
  · exact fun _ => ⟨rfl, rfl⟩
  · exact fun _ _ _ => .inl
  intro o₃ h₃ hFactory₃
  have hNoPeer : o₃.resources.peerConnection = none := h₃.no_peer hFactory₃
  have hNone : o₃.world.manager.peerConnection = none := h₃.peer_none_iff.mpr hNoPeer
  -- The factory is created on the three threads that were just made.
  have hSound : Sound ⟨{ o₃.world with manager := { o₃.world.manager with peerConnectionFactory := true } },
      { o₃.resources with peerConnectionFactory := some o₃.resources.threads }⟩ := by
    refine ⟨rfl, h₃.peer, fun threads hSome => Option.some.inj hSome, ?_, h₃.fresh, fun _ => rfl,
      fun _ => hNone⟩
    intro peer hSome
    rw [hNoPeer] at hSome
    cases hSome
  apply passes_bind
  apply passes_modify hSound
  apply passes_setState_last
  exact fun w hSession => hSound.setState hSession (fun _ => rfl) fun _ => hNone

theorem passes_stopThread {o : Owned σ} (h : Sound o) (hFactory : o.resources.peerConnectionFactory = none)
    {thread : RtcThread} {view : PeerConnectionManager → Bool}
    {reset : PeerConnectionManager → PeerConnectionManager} {assign : Threads → Threads}
    (hReset : ∀ m, (reset m).peerConnection = m.peerConnection ∧
      (reset m).peerConnectionFactory = m.peerConnectionFactory)
    (hAssign : ∀ threads n, (assign threads).network = some n → threads.network = some n)
    {Q : Unit → Owned σ → Prop} (hQ : ∀ o', Sound o' → o'.resources.peerConnectionFactory = none → Q () o') :
    Passes Sound (stopThread thread view reset assign) o Q fun _ => Sound := by
  have hSession := World.keepsSession_stopThread thread view reset hReset o.world
  apply passes_doing
  · intro w hRun
    rw [hRun] at hSession
    have hSound : Sound ⟨w, { o.resources with threads := assign o.resources.threads }⟩ :=
      h.rethreaded hFactory (congrArg Session.state hSession) (congrArg Session.peerConnectionFactory hSession)
        (congrArg Session.peerConnection hSession) fun n hNetwork => h.fresh n (hAssign _ n hNetwork)
    exact ⟨hSound, hQ _ hSound hFactory⟩
  · intro e w hRun
    rw [hRun] at hSession
    have hSound : Sound ⟨w, o.resources⟩ := h.of_session hSession
    exact ⟨hSound, hSound⟩

/-- In DISCONNECTED no factory is needed. -/
theorem Sound.factoryDropped {o : Owned σ} (h : Sound o) (hNone : o.world.manager.peerConnection = none)
    (hState : (World.session o.world).state = .disconnected) :
    Sound ⟨{ o.world with manager := { o.world.manager with peerConnectionFactory := false } },
      { o.resources with peerConnectionFactory := none }⟩ := by
  refine ⟨rfl, h.peer, fun threads hSome => (by cases hSome), ?_, h.fresh, ?_, fun _ => hNone⟩
  · intro peer hSome
    rw [h.peer_none_iff.mp hNone] at hSome
    cases hSome
  · rw [World.connecting_iff]
    intro hNeeds
    have hNeeding : (World.session o.world).state = .readyToConnect ∨
        (World.session o.world).state = .rtcConnected ∨
          (World.session o.world).state = .rtcConnecting := hNeeds
    rw [hState] at hNeeding
    simp at hNeeding

/-- **Destroying**: the peer connection, then its observer, then the factory, then the threads. -/
theorem passes_destroyPeerConnectionManager {o : Owned σ} (h : Sound o)
    (hState : o.world.stateManager.state = .disconnected) :
    Passes Sound (destroyPeerConnectionManager) o (fun _ => Sound) fun _ => Sound := by
  apply passes_bind
  apply passes_dropPeerConnection h
  intro o₁ h₁ hState₁ hManager₁ _
  have hNone₁ : o₁.world.manager.peerConnection = none := by rw [hManager₁]
  have hObserved : Sound ⟨{ o₁.world with manager := { o₁.world.manager with peerConnectionObserver := false } },
      { o₁.resources with peerConnectionObserver := none }⟩ := by
    apply h₁.observed hNone₁
    · rfl
    · rfl
    · rfl
    · exact Nat.le_refl o₁.resources.made
  have hDisconnected : (World.session o₁.world).state = .disconnected :=
    (congrArg ConnectorStateManager.state hState₁).trans hState
  have hSound := hObserved.factoryDropped hNone₁ hDisconnected
  apply passes_bind
  apply passes_modify hObserved
  apply passes_bind
  apply passes_modify hSound
  apply passes_bind
  apply passes_stopThread hSound rfl
  · exact fun _ => ⟨rfl, rfl⟩
  · exact fun _ n hNetwork => by cases hNetwork
  intro o₂ h₂ hFactory₂
  apply passes_bind
  apply passes_stopThread h₂ hFactory₂
  · exact fun _ => ⟨rfl, rfl⟩
  · exact fun _ _ => id
  intro o₃ h₃ hFactory₃
  apply passes_stopThread h₃ hFactory₃
  · exact fun _ => ⟨rfl, rfl⟩
  · exact fun _ _ => id
  exact fun o₄ h₄ _ => h₄

theorem passes_shuttingDown {o : Owned σ} (h : Sound o) (inside : Reentry) :
    Passes Sound (shuttingDown sc env inside) o (fun _ => Sound) fun _ => Sound := by
  apply passes_bind
  apply passes_setState
  · exact fun w hSession => h.setState hSession (by simp) (by simp)
  intro w hSession _
  have hSound : Sound ⟨w, o.resources⟩ := h.setState hSession (by simp) (by simp)
  have hState : (World.session w).state = .disconnected := congrArg Session.state hSession
  apply passes_bind
  apply passes_keeps World.keepsSession_stopSignalingServer hSound
  · intro w₁ hSession₁
    have hSound₁ : Sound ⟨w₁, o.resources⟩ := hSound.of_session hSession₁
    have hState₁ : (World.session w₁).state = .disconnected := (congrArg Session.state hSession₁).trans hState
    -- In DISCONNECTED the close does nothing; the resources go with the manager.
    have hIdle : World.connecting w₁ = false := World.connecting_eq_false _ hState₁ (by decide)
    apply passes_bind
    apply passes_of_idle fun passed => closePeerConnection_idle hIdle _ passed
    exact passes_destroyPeerConnectionManager hSound₁ hState₁
  · intro _ w₁ hSession₁
    exact hSound.of_session hSession₁

/-! ## Events -/

/-- **An orderly event** keeps the resources sound, in every state it passes through. -/
theorem passes_handle {o : Owned σ} (h : Sound o) {event : ConnectorEvent}
    (hOrderly : Orderly sc env o.world event) :
    Passes Sound (handle sc env event) o (fun _ => Sound) fun _ => Sound := by
  have hKeeps {p : Program (World σ) Unit} (hKeepsSession : World.KeepsSession p) :
      Passes Sound (doing p id) o (fun _ => Sound) fun _ => Sound := by
    apply passes_keeps hKeepsSession h
    · exact fun _ => h.of_session
    · exact fun _ _ => h.of_session
  cases event with
  | initializeWebRTC factory =>
      obtain ⟨rfl, hAbsent⟩ := hOrderly
      exact passes_initializeWebRTC h hAbsent
  | sdpOffer sdpOffer created inside => exact passes_handleSdpOffer h hOrderly sdpOffer created inside
  | closeMessage inside => exact passes_closePeerConnection h hOrderly inside
  | connectionChange newState inside =>
      apply passes_look
      cases hPeer : o.world.manager.peerConnection with
      | none => exact passes_pure h
      | some peer =>
          have hFactory := h.factory_of_peer (by rw [hPeer]; rfl)
          cases newState with
          | kNew => exact passes_pure h
          | kConnecting => exact passes_pure h
          | kConnected =>
              apply passes_setState_last
              exact fun w hSession => h.setState hSession (fun _ => hFactory) (by simp)
          | ended state =>
              cases state with
              | kFailed => exact passes_closePeerConnection h hOrderly inside
              | kDisconnected => exact passes_closePeerConnection h hOrderly inside
              | kClosed => exact passes_closePeerConnection h hOrderly inside
  | shuttingDown inside => exact passes_shuttingDown h inside
  | addDataChannelHandler label => exact hKeeps World.keepsSession_addDataChannelHandler
  | addMediaTrackHandler trackName handler => exact hKeeps World.keepsSession_addMediaTrackHandler
  | iceCandidateMessage candidate => exact hKeeps World.keepsSession_handleIceCandidate
  | complete completion => exact hKeeps (World.keepsSession_complete completion)
  | iceCandidate candidate => exact hKeeps World.keepsSession_iceCandidate
  | dataChannel label => exact hKeeps World.keepsSession_deliverDataChannel
  | channelState channel state => exact hKeeps (within_modify fun _ => rfl)
  | stateBroadcast => exact hKeeps World.keepsSession_sendState

/-! ## Nothing but orderly events will do -/

/-- Where a routine ends nothing has lost what it needs, if that holds where it passes. -/
theorem outlives_last {q : Program (Traced (Owned σ)) Unit} (hGoes : Within Goes q) {o : Owned σ} (h : Sound o)
    (hVisited : ∀ o' ∈ visited q o, Outlives o') : Outlives (finalState (q.run ⟨o, []⟩)).current := by
  rcases last_mem_visited hGoes o with hSame | hMem
  · rw [hSame]
    exact h.outlives
  · exact hVisited _ hMem

/-- A throwing media track handler makes a close end in READY_TO_CONNECT with all else as it was. -/
theorem session_closePeerConnection_of_throws {w : World σ} (hConnecting : World.connecting w = true)
    (hSends : sends sc w .rtcDisconnecting = true)
    (hThrows : env.throwsAmong w.callbacks.length (World.closing w) = true) (during : Program (World σ) Unit) :
    World.session (finalState ((World.closePeerConnection sc env during).run w)) =
      { World.session w with state := .readyToConnect } := by
  obtain ⟨w₁, hSet⟩ := setState_of_sends hSends
  have hSession := World.session_setState sc .rtcDisconnecting w
  have hHandlers : World.handlerSide (finalState ((World.setState sc .rtcDisconnecting).run w)) =
      World.handlerSide w := World.keepsHandlers_setState .rtcDisconnecting w
  rw [hSet] at hSession hHandlers
  have hCallbacks : w₁.callbacks = w.callbacks := congrArg HandlerSide.callbacks hHandlers
  have hConnector : w₁.connector = w.connector := congrArg HandlerSide.connector hHandlers
  have hThrows₁ : env.throwsAmong w₁.callbacks.length (World.closing w₁) = true := by
    rw [World.closing, hCallbacks, hConnector]
    exact hThrows
  have hTracks := World.run_closeAllMediaTracks env w₁
  rw [hThrows₁, if_pos rfl] at hTracks
  have hTry : (catchException (World.closeHandlersAndDrop env during)).run w₁ =
      .ok () { w₁ with callbacks := w₁.callbacks ++ World.closes env w₁ } := by
    rw [catchException, recover_run, World.closeHandlersAndDrop, EStateM.run_bind, hTracks]
    rfl
  rw [World.closePeerConnection_eq hConnecting, EStateM.run_bind, hSet]
  simp only [EStateM.run_bind, hTry]
  rw [World.onConnectionDisconnected, World.session_setState]
  show { World.session w₁ with state := ConnectorState.readyToConnect } = _
  rw [finalState_ok] at hSession
  rw [hSession]

theorem closesQuietly_of_outlives {o : Owned σ} (h : Sound o) {inside : Reentry}
    (hVisited : ∀ o' ∈ visited (closePeerConnection sc env (deliver sc env inside)) o, Outlives o') :
    ClosesQuietly sc env o.world := by
  intro hConnecting hSome hSends
  by_contra hThrows
  rw [Bool.not_eq_false] at hThrows
  have hErases : Traces (closePeerConnection sc env (deliver sc env inside))
      (World.closePeerConnection sc env (World.deliver sc env inside)) :=
    traces_closePeerConnection (traces_deliver inside)
  have hSession := session_closePeerConnection_of_throws hConnecting hSends hThrows (World.deliver sc env inside)
  rw [← hErases.finalState ⟨o, []⟩] at hSession
  -- The routine ends in READY_TO_CONNECT, in which no peer connection may be left.
  have hLast := outlives_last (goes_closePeerConnection (goes_deliver inside)) h hVisited
  have hNone := (hLast.ready (congrArg Session.state hSession)).2
  have hPeer := congrArg Session.peerConnection hSession
  rw [show o.world.manager.peerConnection = none from hPeer.symm.trans hNone] at hSome
  cases hSome

/-- An `InitializeWebRTC` that leaves the resources alive meets no factory, and makes one. -/
theorem initializeWebRTC_of_outlives {o : Owned σ} (h : Sound o) {factory : Bool}
    (hVisited : ∀ o' ∈ visited (initializeWebRTC sc factory) o, Outlives o') :
    factory = true ∧ o.world.manager.peerConnectionFactory = false := by
  constructor
  · -- It ends in READY_TO_CONNECT, in which there has to be a factory.
    have hErases : Traces (initializeWebRTC sc factory) (World.initializeWebRTC sc factory) :=
      traces_initializeWebRTC factory
    have hSession : World.session (finalState ((World.initializeWebRTC sc factory).run o.world)) =
        { World.session o.world with peerConnectionFactory := factory, state := .readyToConnect } := by
      let w₁ : World σ := { o.world with manager :=
        { o.world.manager with
          networkThread := true
          workerThread := true
          signalingThread := true
          peerConnectionFactory := factory } }
      exact World.session_setState sc .readyToConnect w₁
    rw [← hErases.finalState ⟨o, []⟩] at hSession
    have hLast := outlives_last (goes_initializeWebRTC factory) h hVisited
    exact (congrArg Session.peerConnectionFactory hSession).symm.trans
      (hLast.ready (congrArg Session.state hSession)).1
  · -- The first statement already takes the network thread from a factory.
    have hFirst : Outlives (⟨{ o.world with manager := { o.world.manager with networkThread := true } },
        { o.resources with
          threads := { o.resources.threads with network := some o.resources.made }
          made := o.resources.made + 1 }⟩ : Owned σ) := by
      apply hVisited
      apply mem_visited_bind
      · exact fun _ => within_bind (goes_doing _ _) fun _ => within_bind (goes_doing _ _) fun _ =>
          within_bind (goes_doing _ _) fun _ => goes_doing _ _
      · exact List.mem_singleton_self _
    rw [h.factory]
    cases hFactory : o.resources.peerConnectionFactory with
    | none => rfl
    | some threads =>
        have hReplaced := hFirst.factory threads hFactory
        rw [← h.threads threads hFactory] at hReplaced
        have hOld : o.resources.threads.network = some o.resources.made :=
          (congrArg Threads.network hReplaced).symm
        exact absurd (h.fresh _ hOld) (Nat.lt_irrefl _)

theorem orderly_of_outlives {o : Owned σ} (h : Sound o) {event : ConnectorEvent}
    (hVisited : ∀ o' ∈ visited (handle sc env event) o, Outlives o') : Orderly sc env o.world event := by
  cases event with
  | initializeWebRTC factory => exact initializeWebRTC_of_outlives h hVisited
  | closeMessage inside => exact closesQuietly_of_outlives h hVisited
  | sdpOffer sdpOffer created inside =>
      intro hConnecting hSome
      have hClose : ∀ o' ∈ visited (closePeerConnection sc env (deliver sc env inside)) o, Outlives o' := by
        intro o' hMem
        apply hVisited
        -- The close comes first, and passes through a part of the states of the whole.
        have hSplit : visited (handle sc env (.sdpOffer sdpOffer created inside)) o =
            visited (closePeerConnection sc env (deliver sc env inside) >>= fun _ =>
              acceptOffer sc sdpOffer created) o := by
          show visited (Traced.look >>= _) o = _
          unfold visited
          rw [finalState_bind, look_run]
          simp [hSome]
        rw [hSplit]
        exact mem_visited_bind (fun _ => goes_acceptOffer sdpOffer created) hMem
      exact closesQuietly_of_outlives h hClose hConnecting hSome
  | connectionChange newState inside =>
      cases newState with
      | ended state =>
          intro hConnecting hSome
          -- Over a peer connection the event is the close.
          have hSplit : visited (handle sc env (.connectionChange (.ended state) inside)) o =
              visited (closePeerConnection sc env (deliver sc env inside)) o := by
            obtain ⟨peer, hPeer⟩ := Option.isSome_iff_exists.mp hSome
            show visited (Traced.look >>= _) o = _
            unfold visited
            rw [finalState_bind, look_run]
            simp only [hPeer]
            cases state with
            | kFailed => rfl
            | kDisconnected => rfl
            | kClosed => rfl
          rw [hSplit] at hVisited
          exact closesQuietly_of_outlives h hVisited hConnecting hSome
      | _ => trivial
  | _ => trivial

/-! ## Whole runs -/

theorem sound_wired (signaling : σ) (states : Nat → DataState) (iceServers : List IceServerConfig) :
    Sound (wired signaling states iceServers) where
  factory := rfl
  peer := rfl
  threads _ hSome := by cases hSome
  created _ hSome := by cases hSome
  fresh _ hSome := by cases hSome
  needed hState := by
    rw [World.connecting_iff] at hState
    rcases hState with hReady | hConnected | hConnecting
    · cases hReady
    · cases hConnected
    · cases hConnecting
  ready _ := rfl

variable (sc env) in
/-- **The resources outlive their users**, in every state between two statements of a run, if and only if every
`InitializeWebRTC` finds no factory and makes one, and no media track handler throws while a session is closed. -/
theorem alwaysOutlive_iff (signaling : σ) (states : Nat → DataState) (iceServers : List IceServerConfig)
    (events : List ConnectorEvent) :
    AlwaysOutlive sc env (wired signaling states iceServers) events ↔
      EachStep (World.step sc env) (Orderly sc env) (World.wired signaling states iceServers) events := by
  have hWired := sound_wired signaling states iceServers
  have hStep {o : Owned σ} (h : Sound o) (event : ConnectorEvent) :
      (∀ o' ∈ visited (handle sc env event) o, Outlives o') ↔ Orderly sc env o.world event :=
    ⟨orderly_of_outlives h, fun hOrderly o' hMem => ((passes_handle h hOrderly).visited o' hMem).outlives⟩
  have hRun : EachStep (step sc env) (fun o event => ∀ o' ∈ visited (handle sc env event) o, Outlives o')
      (wired signaling states iceServers) events ↔
      EachStep (step sc env) (fun o event => Orderly sc env o.world event) (wired signaling states iceServers)
        events := by
    apply eachStep_iff (A := fun _ => True) (I := Sound) _ _ hWired fun _ _ => trivial
    · exact fun o event _ h hVisited => (passes_handle h ((hStep h event).mp hVisited)).last
    · exact fun o event _ h => hStep h event
  rw [AlwaysOutlive, and_iff_right hWired.outlives, hRun]
  exact eachStep_view world_step

/-- A second `InitializeWebRTC` replaces the threads under the first factory, and in a session it ends in
READY_TO_CONNECT with the session live; a first one without a factory ends in READY_TO_CONNECT too. -/
theorem initializeWebRTC_again_replaces_threads :
    let start := wired () (fun _ => .kConnecting) []
    let again := step .offline .calm start (.initializeWebRTC true)
    let live := run (step .offline .calm) start
      [.initializeWebRTC true, .sdpOffer "a" true .done, .initializeWebRTC true]
    ¬ AlwaysOutlive .offline .calm start [.initializeWebRTC true, .initializeWebRTC true] ∧
      (∃ o ∈ visited (handle .offline .calm (.initializeWebRTC true)) again,
        o.resources.peerConnectionFactory = some ⟨some 0, some 1, some 2⟩ ∧
          o.resources.threads = ⟨some 3, some 1, some 2⟩) ∧
      live.world.stateManager.state = .readyToConnect ∧ live.world.manager.peerConnection = some 0 ∧
      ¬ AlwaysOutlive .offline .calm start [.initializeWebRTC false] := by
  intro start again live
  have hReplaced : ∃ o ∈ visited (handle .offline .calm (.initializeWebRTC true)) again,
      o.resources.peerConnectionFactory = some ⟨some 0, some 1, some 2⟩ ∧
        o.resources.threads = ⟨some 3, some 1, some 2⟩ :=
    ⟨_, List.mem_cons_self, rfl, rfl⟩
  refine ⟨fun hAlways => ?_, hReplaced, rfl, rfl, fun hAlways => ?_⟩
  · obtain ⟨o, hMem, hFactory, hThreads⟩ := hReplaced
    have hSame := (hAlways.2.2.1 o hMem).factory _ hFactory
    rw [hThreads] at hSame
    exact absurd hSame (by decide)
  · have hLast : step .offline .calm start (.initializeWebRTC false) ∈
        visited (handle .offline .calm (.initializeWebRTC false)) start :=
      List.mem_of_getLast? rfl
    exact absurd ((hAlways.2.1 _ hLast).ready rfl).1 (by decide)

end Owned

end MosaicCore
