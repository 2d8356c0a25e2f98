import MosaicCore.Core.Shutdown
import MosaicCore.Core.Statements

/-!
# Two threads over one peer connection

The WebSocket thread runs `HandleSdpOffer` and `ClosePeerConnection`, the WebRTC signaling thread runs
`ClosePeerConnection` from `OnConnectionChange`; their statements interleave in any order.

A `ClosePeerConnection` checks the state, and calls `peer_connection_->Close()` several statements later.
Each thread carries two marks that its statements never read: how many peer connections had been created
when it passed the check, and whether it was *disturbed* since, that is, whether the other thread closed the
peer connection or changed `peer_connection_`, or whether it was closed already at the check.

`safeClose_iff_undisturbed`: over any run, every `Close()` closes a peer connection that exists, was created
before the check and has not been closed, exactly when no disturbed thread reaches its `Close()`.
-/

namespace MosaicCore

open EffectProgram EventRun

/-- The two threads. -/
inductive Agent
  | webSocket
  | webRtcSignaling
  deriving DecidableEq, Repr

/-- The other thread. -/
def Agent.other : Agent → Agent
  | .webSocket => .webRtcSignaling
  | .webRtcSignaling => .webSocket

/-- A thread, at rest when it has no location. -/
structure Thread where
  routine : Routine := .closePeerConnection
  location : Option Location := none
  /-- The number of peer connections created when the state check was passed. -/
  checked : Nat := 0
  /-- Whether the close that follows the check was disturbed. -/
  disturbed : Bool := false
  deriving DecidableEq

/-- The statements between a passed state check and the `Close()` it guards. -/
def Location.inWindow : Location → Bool
  | .setDisconnecting => true
  | .closeMediaTracks => true
  | .closeDataChannels => true
  | .testPeer => true
  | .closePeer => true
  | _ => false

/-- The object graph and the two threads. -/
structure TwoAgents (σ : Type) where
  world : World σ
  threads : Agent → Thread

/-- What happens next. -/
inductive AgentEvent
  /-- The WebSocket thread starts `HandleSdpOffer`. -/
  | offer (sdpOffer : String) (created : Bool)
  /-- A thread starts `ClosePeerConnection`. -/
  | close (agent : Agent)
  /-- A thread executes its next statement. -/
  | advance (agent : Agent)
  deriving DecidableEq, Repr

namespace World

variable {σ : Type}

/-- `peer_connection_` holds a peer connection that has been closed. -/
def heldClosed (w : World σ) : Bool :=
  match w.manager.peerConnection with
  | some peer => decide (.close peer ∈ w.webrtc.calls)
  | none => false

end World

namespace TwoAgents

variable {σ : Type} (sc : ISignalingClient σ) (env : Environment)

/-- Replace one thread. -/
def setThread (s : TwoAgents σ) (agent : Agent) (t : Thread) : TwoAgents σ :=
  { s with threads := fun a => if a = agent then t else s.threads a }

/-- A thread at rest starts a routine. -/
def start (s : TwoAgents σ) (agent : Agent) (routine : Routine) : TwoAgents σ :=
  if (s.threads agent).location = none then
    s.setThread agent
      { s.threads agent with routine := routine, location := some routine.start }
  else s

/-- The thread after its statement at `location`: a passed state check starts a new close. -/
def advanced (t : Thread) (location : Location) (next : Option Location) (w : World σ) : Thread :=
  if (location = .checkConnected ∨ location = .checkConnecting) ∧ next = some .setDisconnecting then
    { t with location := next, checked := w.webrtc.created, disturbed := w.heldClosed }
  else { t with location := next }

/-- The statement closed the peer connection or changed `peer_connection_`. -/
def disturbs (location : Location) (w w' : World σ) : Bool :=
  location = .closePeer || w'.manager.peerConnection ≠ w.manager.peerConnection

/-- One event. -/
def step (s : TwoAgents σ) : AgentEvent → TwoAgents σ
  | .offer sdpOffer created => s.start .webSocket (.handleSdpOffer sdpOffer created)
  | .close agent => s.start agent .closePeerConnection
  | .advance agent =>
      match (s.threads agent).location with
      | none => s
      | some location =>
          let (next, w') := World.advance sc env (s.threads agent).routine (some location, s.world)
          let other := s.threads agent.other
          { world := w'
            threads := fun a =>
              if a = agent then advanced (s.threads agent) location next s.world
              else { other with disturbed := other.disturbed || disturbs location s.world w' } }

/-- If the event is a `Close()`, the peer connection it closes is there, was created before the state
check that led to it, and has not been closed. -/
def SafeClose (s : TwoAgents σ) : AgentEvent → Prop
  | .advance agent => (s.threads agent).location = some .closePeer →
      ∃ peer, s.world.manager.peerConnection = some peer ∧ peer < (s.threads agent).checked ∧
        .close peer ∉ s.world.webrtc.calls
  | _ => True

instance (s : TwoAgents σ) (event : AgentEvent) : Decidable (SafeClose s event) :=
  match event with
  | .offer _ _ => inferInstanceAs (Decidable True)
  | .close _ => inferInstanceAs (Decidable True)
  | .advance agent =>
      inferInstanceAs (Decidable ((s.threads agent).location = some .closePeer →
        ∃ peer, peer ∈ s.world.manager.peerConnection ∧ (peer < (s.threads agent).checked ∧
          .close peer ∉ s.world.webrtc.calls)))

/-- If the event is a `Close()`, the thread was not disturbed since its state check. -/
def Undisturbed (s : TwoAgents σ) : AgentEvent → Prop
  | .advance agent => (s.threads agent).location = some .closePeer →
      (s.threads agent).disturbed = false
  | _ => True

end TwoAgents

/-! ## What a statement does to the peer connections -/

namespace World

variable {σ α : Type} {sc : ISignalingClient σ} {env : Environment} {routine : Routine}

/-- `peer_connection_`, the number of peer connections, and their lives. -/
def peers (w : World σ) : Option Nat × Nat × List PeerCall :=
  ((session w).peerConnection, (session w).created, (session w).calls)

/-- The routine leaves the peer connections alone, whether it returns or throws. -/
def KeepsPeers (p : Program (World σ) α) : Prop :=
  Within (fun w w' => peers w' = peers w) p

theorem KeepsSession.keepsPeers {p : Program (World σ) α} (h : KeepsSession p) : KeepsPeers p :=
  h.mono fun w w' hSame => by rw [peers, peers, hSame]

theorem keepsPeers_setState (newState : ConnectorState) : KeepsPeers (setState sc newState) := by
  intro w
  rw [peers, session_setState]
  rfl

/-- Every other statement leaves the peer connections alone. -/
theorem keepsPeers_statement {location : Location} (hClose : location ≠ .closePeer)
    (hDrop : location ≠ .dropPeer) (hCreate : location ≠ .createPeer)
    (hDestroy : location ≠ .destroyPeer) : KeepsPeers (statement sc env routine location) := by
  apply within_statement
  · exact keepsPeers_setState
  · exact fun _ => keepsSession_closeAllMediaTracks.keepsPeers
  · exact keepsSession_closeAllDataChannels.keepsPeers
  · exact fun hSame => absurd hSame hClose
  · exact fun hSame => hSame.elim (absurd · hDrop) (absurd · hDestroy)
  · exact fun hSame => absurd hSame hCreate
  · exact fun _ => (keepsSession_rtcCall rfl).keepsPeers
  · exact fun _ => (keepsSession_rtcStart _ _).keepsPeers
  · exact (keepsSession_onSignaling _).keepsPeers
  · exact fun _ => rfl
  · intro _ w
    rw [peers, session_destroyFactoryAndThreads]
    rfl

/-- What one statement does to the peer connections. -/
structure StatementEffect (location : Location) (w w' : World σ) : Prop where
  created_le : w.webrtc.created ≤ w'.webrtc.created
  held : ∀ peer, w'.manager.peerConnection = some peer →
    w.manager.peerConnection = some peer ∨ (w.webrtc.created ≤ peer ∧ peer < w'.webrtc.created)
  closed : ∀ peer, .close peer ∈ w'.webrtc.calls ↔
    .close peer ∈ w.webrtc.calls ∨ (location = .closePeer ∧ w.manager.peerConnection = some peer)

theorem closed_mem_session_iff {w : World σ} {peer : Nat} :
    PeerCall.closed peer ∈ (session w).calls ↔ .close peer ∈ w.webrtc.calls := by
  simp only [session, List.mem_filterMap]
  constructor
  · rintro ⟨call, hMem, hCall⟩
    cases call with
    | close q =>
        cases hCall
        exact hMem
    | createPeerConnectionOrError servers result => cases result <;> cases hCall
    | _ => cases hCall
  · intro hMem
    exact ⟨_, hMem, rfl⟩

/-- A statement that leaves the peer connections alone. -/
theorem StatementEffect.of_peers {location : Location} {w w' : World σ} (hSame : peers w' = peers w)
    (hClose : location ≠ .closePeer) : StatementEffect location w w' where
  created_le := by
    have hCreated : w'.webrtc.created = w.webrtc.created := congrArg (fun p => p.2.1) hSame
    rw [hCreated]
  held := by
    have hHeld : w'.manager.peerConnection = w.manager.peerConnection := congrArg Prod.fst hSame
    intro peer hPeer
    exact .inl (hHeld ▸ hPeer)
  closed := by
    have hCalls : (session w').calls = (session w).calls := congrArg (fun p => p.2.2) hSame
    intro peer
    rw [← closed_mem_session_iff, hCalls, closed_mem_session_iff]
    simp [hClose]

/-- The effect of dropping the reference. -/
theorem statementEffect_drop {location : Location} (hClose : location ≠ .closePeer) (w : World σ) :
    StatementEffect location w (finalState ((assignPeerConnection none).run w)) := by
  have hSession := session_assignPeerConnection_none w
  refine ⟨?_, fun peer hPeer => ?_, fun peer => ?_⟩
  · have hCreated : (finalState ((assignPeerConnection none).run w)).webrtc.created =
        w.webrtc.created := congrArg Session.created hSession
    exact le_of_eq hCreated.symm
  · have hHeld := congrArg Session.peerConnection hSession
    have hPeer' : (session (finalState ((assignPeerConnection none).run w))).peerConnection =
        some peer := hPeer
    rw [hHeld] at hPeer'
    cases hPeer'
  · rw [← closed_mem_session_iff, ← closed_mem_session_iff, hSession]
    simp [hClose]

/-- The effect of creating a peer connection. -/
theorem statementEffect_create (created : Bool) (w : World σ) :
    StatementEffect .createPeer w (finalState ((createPeerConnection created).run w)) := by
  rcases session_createPeerConnection created w with hSame | ⟨rfl, -, hOpened⟩
  · refine StatementEffect.of_peers ?_ (by simp)
    rw [peers, hSame]
    rfl
  · have hCreated : (finalState ((createPeerConnection true).run w)).webrtc.created = w.webrtc.created + 1 :=
      congrArg Session.created hOpened
    refine ⟨?_, fun peer hPeer => .inr ?_, fun peer => ?_⟩
    · omega
    · have hHeld := congrArg Session.peerConnection hOpened
      have hPeer' : some w.webrtc.created = some peer := hHeld.symm.trans hPeer
      cases hPeer'
      omega
    · rw [← closed_mem_session_iff, ← closed_mem_session_iff, hOpened]
      simp [Session.opened]

variable (sc env routine) in
/-- Every statement, whatever it throws. -/
theorem statementEffect (location : Location) (w : World σ) :
    StatementEffect location w (advance sc env routine (some location, w)).2 := by
  rw [advance_snd]
  -- Only four statements touch the peer connection.
  by_cases hClose : location = .closePeer
  · subst hClose
    cases hPeer : w.manager.peerConnection with
    | none =>
        have hRun : (statement sc env routine .closePeer).run w =
            .error (.nullDereference "peer_connection_") w := by
          simp only [statement, EStateM.run_bind, EStateM.run_get, hPeer, dereference_none]
          rfl
        rw [hRun]
        exact ⟨le_refl _, fun peer h => .inl h, by simp [hPeer]⟩
    | some held =>
        have hRun : (statement sc env routine .closePeer).run w = .ok (some .dropPeer)
            { w with webrtc := { w.webrtc with calls := w.webrtc.calls ++ [.close held] } } := by
          simp only [statement, EStateM.run_bind, EStateM.run_get, hPeer, dereference_some,
            EStateM.run_pure]
          rfl
        rw [hRun]
        refine ⟨le_refl _, fun peer h => .inl h, fun peer => ?_⟩
        simp [hPeer, eq_comm]
  by_cases hDrop : location = .dropPeer
  · subst hDrop
    have hRun : finalState ((statement sc env routine .dropPeer).run w) =
        finalState ((assignPeerConnection none).run w) := finalState_bind_pure _ _ w
    rw [hRun]
    exact statementEffect_drop hClose w
  by_cases hDestroy : location = .destroyPeer
  · subst hDestroy
    have hRun : finalState ((statement sc env routine .destroyPeer).run w) =
        finalState ((assignPeerConnection none).run w) := finalState_bind_pure _ _ w
    rw [hRun]
    exact statementEffect_drop hClose w
  by_cases hCreate : location = .createPeer
  · subst hCreate
    have hRun : finalState ((statement sc env routine .createPeer).run w) =
        finalState ((createPeerConnection routine.created).run w) := finalState_bind_pure _ _ w
    rw [hRun]
    exact statementEffect_create _ w
  · exact StatementEffect.of_peers (keepsPeers_statement hClose hDrop hCreate hDestroy w) hClose

variable (sc env routine) in
/-- In the window before its `Close()`, a thread leaves `peer_connection_` alone. -/
theorem held_of_inWindow {location : Location} (hWindow : location.inWindow = true)
    (hClose : location ≠ .closePeer) (w : World σ) :
    (advance sc env routine (some location, w)).2.manager.peerConnection =
      w.manager.peerConnection := by
  rw [advance_snd]
  have hKeeps : KeepsPeers (statement sc env routine location) := by
    refine keepsPeers_statement hClose ?_ ?_ ?_
    · rintro rfl
      simp [Location.inWindow] at hWindow
    · rintro rfl
      simp [Location.inWindow] at hWindow
    · rintro rfl
      simp [Location.inWindow] at hWindow
  exact congrArg Prod.fst (hKeeps w)

/-- A thread enters the window only by a passed state check, and reaches its `Close()` only over a
peer connection. -/
theorem inWindow_next {location next : Location} {w : World σ}
    (hNext : (advance sc env routine (some location, w)).1 = some next)
    (hWindow : next.inWindow = true) :
    ((location = .checkConnected ∨ location = .checkConnecting) ∧ next = .setDisconnecting) ∨
      (location.inWindow = true ∧ location ≠ .closePeer ∧
        (next = .closePeer → w.manager.peerConnection.isSome = true)) := by
  have hAfter : ∀ l : Location, routine.afterClose = some l → l.inWindow = false := by
    intro l hClosed
    cases routine <;> cases hClosed <;> rfl
  have hOutside : ∀ {l : Location}, l.inWindow = false → next ≠ l := by
    rintro l hOut rfl
    rw [hOut] at hWindow
    exact absurd hWindow (by simp)
  have hMem := advance_fst_mem hNext
  -- The two checks enter the window, four statements stay in it, and the others lead elsewhere.
  cases location with
  | checkConnected =>
      simp only [Routine.successors, List.mem_cons, Option.some.injEq, List.not_mem_nil, or_false] at hMem
      rcases hMem with rfl | rfl
      · exact .inl ⟨.inl rfl, rfl⟩
      · exact absurd rfl (hOutside rfl)
  | checkConnecting =>
      simp only [Routine.successors, List.mem_cons, Option.some.injEq, List.not_mem_nil, or_false] at hMem
      rcases hMem with rfl | hClosed
      · exact .inl ⟨.inr rfl, rfl⟩
      · exact absurd rfl (hOutside (hAfter next hClosed.symm))
  | testPeer =>
      refine .inr ⟨rfl, by simp, ?_⟩
      rintro rfl
      simp only [advance, run_testPeer] at hNext
      split_ifs at hNext with hPeer
      · exact hPeer
      · cases hNext
  | setDisconnecting =>
      refine .inr ⟨rfl, by simp, ?_⟩
      rintro rfl
      simp [Routine.successors] at hMem
  | closeMediaTracks =>
      refine .inr ⟨rfl, by simp, ?_⟩
      rintro rfl
      simp [Routine.successors] at hMem
  | closeDataChannels =>
      refine .inr ⟨rfl, by simp, ?_⟩
      rintro rfl
      simp [Routine.successors] at hMem
  | setReady => exact absurd rfl (hOutside (hAfter next (List.mem_singleton.mp hMem).symm))
  | testExisting =>
      simp only [Routine.successors, List.mem_cons, Option.some.injEq, List.not_mem_nil, or_false] at hMem
      rcases hMem with rfl | rfl <;> exact absurd rfl (hOutside rfl)
  | testCreated =>
      simp only [Routine.successors, List.mem_cons, Option.some.injEq, List.not_mem_nil, or_false] at hMem
      rcases hMem with rfl | rfl <;> exact absurd rfl (hOutside rfl)
  | stopSignaling =>
      simp only [Routine.successors, List.mem_cons, Option.some.injEq, List.not_mem_nil, or_false] at hMem
      rcases hMem with rfl | rfl <;> exact absurd rfl (hOutside rfl)
  | checkReady =>
      simp only [Routine.successors, List.mem_cons, Option.some.injEq, reduceCtorEq, List.not_mem_nil,
        or_false] at hMem
      subst hMem
      exact absurd rfl (hOutside rfl)
  | closePeer => cases List.mem_singleton.mp hMem; exact absurd rfl (hOutside rfl)
  | dropPeer => cases List.mem_singleton.mp hMem; exact absurd rfl (hOutside rfl)
  | setConnecting => cases List.mem_singleton.mp hMem; exact absurd rfl (hOutside rfl)
  | createPeer => cases List.mem_singleton.mp hMem; exact absurd rfl (hOutside rfl)
  | setFailed => cases List.mem_singleton.mp hMem
  | setRemote => cases List.mem_singleton.mp hMem
  | setDisconnected => cases List.mem_singleton.mp hMem; exact absurd rfl (hOutside rfl)
  | dropSignaling => cases List.mem_singleton.mp hMem; exact absurd rfl (hOutside rfl)
  | destroyPeer => cases List.mem_singleton.mp hMem; exact absurd rfl (hOutside rfl)
  | destroyRest => cases List.mem_singleton.mp hMem

end World

/-! ## The invariant of the two marks -/

namespace TwoAgents

variable {σ : Type} {sc : ISignalingClient σ} {env : Environment}

/-- What the marks of a thread in its window say about the peer connection held. -/
structure MarkedRight (t : Thread) (w : World σ) : Prop where
  checked_le : t.checked ≤ w.webrtc.created
  undisturbed : t.disturbed = false → ∀ peer, w.manager.peerConnection = some peer →
    peer < t.checked ∧ .close peer ∉ w.webrtc.calls
  atClose : t.disturbed = false → t.location = some .closePeer →
    w.manager.peerConnection.isSome = true
  disturbed : t.disturbed = true → ∀ peer, w.manager.peerConnection = some peer →
    t.checked ≤ peer ∨ .close peer ∈ w.webrtc.calls

/-- The thread is between a passed state check and its `Close()`. -/
def InWindow (t : Thread) : Prop :=
  ∃ location, t.location = some location ∧ location.inWindow = true

/-- The invariant of every run: the peer connection held is one of those created, and the marks of
every thread in its window are right. -/
structure MarksInvariant (s : TwoAgents σ) : Prop where
  held_lt : ∀ peer, s.world.manager.peerConnection = some peer → peer < s.world.webrtc.created
  marked : ∀ agent, InWindow (s.threads agent) → MarkedRight (s.threads agent) s.world

theorem Agent.other_ne (agent : Agent) : agent.other ≠ agent := by
  cases agent <;> simp [Agent.other]

/-- A thread that starts is not in its window. -/
theorem marksInvariant_start {s : TwoAgents σ} (h : MarksInvariant s) (agent : Agent)
    (routine : Routine) : MarksInvariant (s.start agent routine) := by
  rw [start]
  split_ifs with hRest
  · refine ⟨h.held_lt, fun a hWindow => ?_⟩
    by_cases hAgent : a = agent
    · obtain ⟨location, hLocation, hIn⟩ := hWindow
      simp only [setThread, hAgent, if_true, Option.some.injEq] at hLocation
      subst hLocation
      cases routine <;> simp [Routine.start, Location.inWindow] at hIn
    · have hSame : (s.setThread agent
          { s.threads agent with routine := routine, location := some routine.start }).threads a =
          s.threads a := by
        simp [setThread, hAgent]
      rw [hSame] at hWindow ⊢
      exact h.marked a hWindow
  · exact h

/-- The other thread, while one executes a statement. -/
theorem markedRight_other {t : Thread} {location : Location} {w w' : World σ}
    (hEffect : World.StatementEffect location w w') (h : MarkedRight t w) :
    MarkedRight { t with disturbed := t.disturbed || disturbs location w w' } w' where
  checked_le := le_trans h.checked_le hEffect.created_le
  undisturbed := by
    intro hQuiet peer hPeer
    simp only [Bool.or_eq_false_iff, disturbs, decide_eq_false_iff_not, ne_eq, not_not] at hQuiet
    obtain ⟨hBefore, hClose, hSame⟩ := hQuiet
    obtain ⟨hOld, hOpen⟩ := h.undisturbed hBefore peer (hSame ▸ hPeer)
    refine ⟨hOld, fun hMem => ?_⟩
    rcases (hEffect.closed peer).mp hMem with hMem | ⟨hHere, _⟩
    · exact hOpen hMem
    · exact hClose hHere
  atClose := by
    intro hQuiet hLocation
    simp only [Bool.or_eq_false_iff, disturbs, decide_eq_false_iff_not, ne_eq, not_not] at hQuiet
    obtain ⟨hBefore, _, hSame⟩ := hQuiet
    rw [hSame]
    exact h.atClose hBefore hLocation
  disturbed := by
    intro hMark peer hPeer
    rcases hEffect.held peer hPeer with hHeld | ⟨hFresh, _⟩
    · cases hBefore : t.disturbed with
      | true =>
          rcases h.disturbed hBefore peer hHeld with hLater | hClosed
          · exact .inl hLater
          · exact .inr ((hEffect.closed peer).mpr (.inl hClosed))
      | false =>
          -- The mark is new: the statement closed the peer connection, since it did not replace it.
          simp only [hBefore, Bool.false_or, disturbs, Bool.or_eq_true, decide_eq_true_eq, ne_eq] at hMark
          rcases hMark with hClose | hChanged
          · exact .inr ((hEffect.closed peer).mpr (.inr ⟨hClose, hHeld⟩))
          · exact absurd (hPeer.trans hHeld.symm) hChanged
    · exact .inl (le_trans h.checked_le hFresh)

/-- The thread itself, when its statement leads into or along its window. -/
theorem markedRight_advanced {t : Thread} {location next : Location} {w : World σ}
    (hLt : ∀ peer, w.manager.peerConnection = some peer → peer < w.webrtc.created)
    (hLocation : t.location = some location)
    (hMarked : InWindow t → MarkedRight t w)
    (hNext : (World.advance sc env t.routine (some location, w)).1 = some next)
    (hWindow : next.inWindow = true) :
    MarkedRight (advanced t location (some next) w)
      (World.advance sc env t.routine (some location, w)).2 := by
  have hEffect := World.statementEffect sc env t.routine location w
  rcases World.inWindow_next hNext hWindow with ⟨hCheck, rfl⟩ | ⟨hIn, hClose, hPeer⟩
  · -- A passed check: the marks are set from the state it looked at, which it leaves as it is.
    have hSame : (World.advance sc env t.routine (some location, w)).2 = w := by
      rcases hCheck with rfl | rfl
      · rw [World.advance, World.run_checkConnected]
      · rw [World.advance, World.run_checkConnecting]
    rw [hSame, advanced, if_pos ⟨hCheck, rfl⟩]
    refine ⟨le_refl _, fun hOpen peer hHeld => ⟨hLt peer hHeld, ?_⟩, fun _ h => (by cases h), ?_⟩
    · simpa [World.heldClosed, hHeld] using hOpen
    · intro hClosed peer hHeld
      exact .inr (by simpa [World.heldClosed, hHeld] using hClosed)
  · have hNoCheck : ¬ ((location = .checkConnected ∨ location = .checkConnecting) ∧
        some next = some .setDisconnecting) := by
      rintro ⟨rfl | rfl, _⟩
      · simp [Location.inWindow] at hIn
      · simp [Location.inWindow] at hIn
    have hHeld := World.held_of_inWindow sc env t.routine hIn hClose w
    have hClosed : ∀ peer, .close peer ∈ (World.advance sc env t.routine (some location, w)).2.webrtc.calls ↔
        .close peer ∈ w.webrtc.calls := by
      intro peer
      rw [hEffect.closed peer]
      simp [hClose]
    have h := hMarked ⟨location, hLocation, hIn⟩
    rw [advanced, if_neg hNoCheck]
    refine ⟨le_trans h.checked_le hEffect.created_le, ?_, ?_, ?_⟩
    · intro hQuiet peer hPeer'
      rw [hClosed]
      exact h.undisturbed hQuiet peer (hHeld ▸ hPeer')
    · intro _ hAt
      rw [hHeld]
      exact hPeer (Option.some.inj hAt)
    · intro hMark peer hPeer'
      rw [hClosed]
      exact h.disturbed hMark peer (hHeld ▸ hPeer')

theorem threads_step_self {s : TwoAgents σ} {agent : Agent} {location : Location}
    (hLocation : (s.threads agent).location = some location) :
    (step sc env s (.advance agent)).threads agent =
      advanced (s.threads agent) location
        (World.advance sc env (s.threads agent).routine (some location, s.world)).1 s.world := by
  simp [step, hLocation]

theorem threads_step_other {s : TwoAgents σ} {agent : Agent} {location : Location}
    (hLocation : (s.threads agent).location = some location) :
    (step sc env s (.advance agent)).threads agent.other =
      { s.threads agent.other with
        disturbed := (s.threads agent.other).disturbed || disturbs location s.world
          (World.advance sc env (s.threads agent).routine (some location, s.world)).2 } := by
  simp [step, hLocation, Agent.other_ne]

theorem world_step {s : TwoAgents σ} {agent : Agent} {location : Location}
    (hLocation : (s.threads agent).location = some location) :
    (step sc env s (.advance agent)).world =
      (World.advance sc env (s.threads agent).routine (some location, s.world)).2 := by
  simp [step, hLocation]

theorem Agent.eq_or_eq_other (a agent : Agent) : a = agent ∨ a = agent.other := by
  cases a <;> cases agent <;> simp [Agent.other]

/-- Every event keeps the marks right. -/
theorem marksInvariant_step (s : TwoAgents σ) (event : AgentEvent) (h : MarksInvariant s) :
    MarksInvariant (step sc env s event) := by
  cases event with
  | offer sdpOffer created => exact marksInvariant_start h _ _
  | close agent => exact marksInvariant_start h _ _
  | advance agent =>
      cases hLocation : (s.threads agent).location with
      | none =>
          have hStay : step sc env s (.advance agent) = s := by simp [step, hLocation]
          rw [hStay]
          exact h
      | some location =>
          have hEffect := World.statementEffect sc env (s.threads agent).routine location s.world
          refine ⟨fun peer hHeld => ?_, fun a hWindow => ?_⟩
          · rw [world_step hLocation] at hHeld ⊢
            rcases hEffect.held peer hHeld with hOld | ⟨_, hLt⟩
            · exact lt_of_lt_of_le (h.held_lt peer hOld) hEffect.created_le
            · exact hLt
          · rw [world_step hLocation]
            -- The thread that has moved, and the one that has not.
            rcases Agent.eq_or_eq_other a agent with rfl | rfl
            · rw [threads_step_self hLocation] at hWindow ⊢
              obtain ⟨next, hNext, hIn⟩ := hWindow
              have hReached : (World.advance sc env (s.threads a).routine
                  (some location, s.world)).1 = some next := by
                rw [advanced] at hNext
                split_ifs at hNext <;> exact hNext
              rw [hReached]
              exact markedRight_advanced h.held_lt hLocation (h.marked a) hReached hIn
            · rw [threads_step_other hLocation] at hWindow ⊢
              exact markedRight_other hEffect (h.marked agent.other hWindow)

/-- Under the invariant, the safe closes are the undisturbed ones. -/
theorem safeClose_iff {s : TwoAgents σ} (h : MarksInvariant s) (event : AgentEvent) :
    SafeClose s event ↔ Undisturbed s event := by
  cases event with
  | offer sdpOffer created => exact Iff.rfl
  | close agent => exact Iff.rfl
  | advance agent =>
      have hMarked : (s.threads agent).location = some .closePeer →
          MarkedRight (s.threads agent) s.world :=
        fun hLocation => h.marked agent ⟨.closePeer, hLocation, rfl⟩
      constructor
      · intro hSafe hLocation
        obtain ⟨peer, hHeld, hLt, hOpen⟩ := hSafe hLocation
        by_contra hDisturbed
        rcases (hMarked hLocation).disturbed (by simpa using hDisturbed) peer hHeld with hLater | hClosed
        · omega
        · exact hOpen hClosed
      · intro hQuiet hLocation
        have hThread := hMarked hLocation
        obtain ⟨peer, hHeld⟩ := Option.isSome_iff_exists.mp
          (hThread.atClose (hQuiet hLocation) hLocation)
        obtain ⟨hLt, hOpen⟩ := hThread.undisturbed (hQuiet hLocation) peer hHeld
        exact ⟨peer, hHeld, hLt, hOpen⟩

/-- Both threads at rest over an object graph. -/
def atRest (w : World σ) : TwoAgents σ where
  world := w
  threads _ := {}

/-- **When a close never destroys another session.**  After any run of the connector, and over any
interleaving of the two threads' statements, whatever throws: every `Close()` closes a peer connection that
is there, was created before the state check that led to it, and has not been closed, exactly when every
`Close()` is undisturbed. -/
theorem safeClose_iff_undisturbed (signaling : σ) (states : Nat → DataState)
    (iceServers : List IceServerConfig) (before : List ConnectorEvent) (events : List AgentEvent) :
    let s := atRest (run (World.step sc env) (World.wired signaling states iceServers) before)
    EachStep (step sc env) SafeClose s events ↔ EachStep (step sc env) Undisturbed s events := by
  intro s
  have hStart : MarksInvariant s := by
    refine ⟨(World.sound_run signaling states iceServers before).held_lt, fun agent hWindow => ?_⟩
    obtain ⟨location, hLocation, _⟩ := hWindow
    cases hLocation
  exact eachStep_iff (I := MarksInvariant) (A := fun _ => True)
    (fun s event _ h _ => marksInvariant_step s event h)
    (fun s event _ h => safeClose_iff h event) hStart fun _ _ => trivial

/-- The signaling thread passes its check for the first session; an offer closes that session and creates the
next; the signaling thread then closes the next one.  With other interleavings the first session is
closed twice, or `Close()` is called through the null pointer. -/
theorem close_destroys_next_session :
    let s := atRest (run (World.step .offline .calm) (World.wired () (fun _ => .kConnecting) [])
      [.initializeWebRTC true, .sdpOffer "a" true .done])
    let signaling (n : Nat) : List AgentEvent := List.replicate n (.advance .webRtcSignaling)
    let webSocket (n : Nat) : List AgentEvent := List.replicate n (.advance .webSocket)
    let passed : List AgentEvent := .close .webRtcSignaling :: signaling 2
    ¬ EachStep (step .offline .calm) SafeClose s
        (passed ++ .offer "b" true :: webSocket 15 ++ signaling 5) ∧
      ¬ EachStep (step .offline .calm) SafeClose s
        (passed ++ .offer "b" true :: webSocket 3 ++ signaling 5 ++ webSocket 5) ∧
      ¬ EachStep (step .offline .calm) SafeClose s
        (passed ++ .offer "b" true :: webSocket 3 ++ signaling 4 ++ webSocket 6 ++ signaling 1) := by
  decide

end TwoAgents

end MosaicCore
