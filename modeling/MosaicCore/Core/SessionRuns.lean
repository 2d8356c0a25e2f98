import MosaicCore.Core.Lifecycle

/-!
# Sessions over whole runs

Two questions about a connector between `InitializeWebRTC` and `ShuttingDown`:

* does the connector state say whether there is a peer connection, and has every earlier peer connection
  been closed once and in time?  Yes, as long as nothing throws (`state_peerConnection_agree`);
* does one more offer always lead to a session?  No: one failed `CreatePeerConnectionOrError` ends in
  RTC_FAILED, which nothing leaves (`offer_taken_iff`).

Both are read off the lifecycle: its history is `created 0, closed 0, released 0, created 1, ...`, and its
failed phase is absorbing.
-/

namespace MosaicCore

open EffectProgram EventRun

namespace Lifecycle

theorem length_finishedLives (n : Nat) : ((List.range n).flatMap finishedLife).length = 3 * n := by
  induction n with
  | zero => rfl
  | succ n ih =>
      rw [List.range_succ, List.flatMap_append, List.length_append, ih]
      simp [finishedLife]
      omega

theorem closed_mem_finishedLives {peer n : Nat} :
    PeerCall.closed peer ∈ (List.range n).flatMap finishedLife ↔ peer < n := by
  simp [finishedLife]

theorem created_mem_finishedLives {peer n : Nat} :
    PeerCall.created peer ∈ (List.range n).flatMap finishedLife ↔ peer < n := by
  simp [finishedLife]

/-- Every finished peer connection was closed once. -/
theorem count_closed_finishedLives {peer n : Nat} (hPeer : peer < n) :
    ((List.range n).flatMap finishedLife).count (.closed peer) = 1 := by
  induction n with
  | zero => omega
  | succ n ih =>
      rw [List.range_succ, List.flatMap_append, List.count_append]
      by_cases hLast : peer = n
      · subst hLast
        have hBefore : ((List.range peer).flatMap finishedLife).count (.closed peer) = 0 :=
          List.count_eq_zero.mpr fun hMem => absurd (closed_mem_finishedLives.mp hMem) (lt_irrefl _)
        rw [hBefore]
        simp [finishedLife]
      · rw [ih (by omega)]
        have hOther : ¬ n = peer := fun h => hLast h.symm
        simp [finishedLife, hOther]

/-- The close of a finished peer connection comes at its place. -/
theorem idxOf_closed_finishedLives {peer n : Nat} (hPeer : peer < n) :
    ((List.range n).flatMap finishedLife).idxOf (.closed peer) = 3 * peer + 1 := by
  induction n with
  | zero => omega
  | succ n ih =>
      rw [List.range_succ, List.flatMap_append]
      by_cases hLast : peer = n
      · subst hLast
        have hBefore : PeerCall.closed peer ∉ (List.range peer).flatMap finishedLife :=
          fun hMem => absurd (closed_mem_finishedLives.mp hMem) (lt_irrefl _)
        rw [List.idxOf_append_of_notMem hBefore, length_finishedLives]
        simp [finishedLife]
      · have hBefore : PeerCall.closed peer ∈ (List.range n).flatMap finishedLife :=
          closed_mem_finishedLives.mpr (by omega)
        rw [List.idxOf_append_of_mem hBefore, ih (by omega)]

/-- The creation of a peer connection comes after the lives of all before it. -/
theorem le_idxOf_created_history {l : Lifecycle} {peer : Nat} (hPeer : peer ≤ l.finished) :
    3 * peer ≤ l.history.idxOf (.created peer) := by
  obtain ⟨later, hLater⟩ := Nat.exists_eq_add_of_le hPeer
  have hBefore : PeerCall.created peer ∉ (List.range peer).flatMap finishedLife :=
    fun hMem => absurd (created_mem_finishedLives.mp hMem) (lt_irrefl _)
  rw [history, hLater, List.range_add, List.flatMap_append, List.append_assoc,
    List.idxOf_append_of_notMem hBefore, length_finishedLives]
  omega

/-- Every peer connection but the live one was closed once, before the next was created. -/
theorem closedOnce_history {l : Lifecycle} {peer : Nat} (hCreated : PeerCall.created peer ∈ l.history)
    (hPast : l.current ≠ some peer) :
    l.history.count (.closed peer) = 1 ∧
      l.history.idxOf (.closed peer) < l.history.idxOf (.created (peer + 1)) := by
  have hFinished : peer < l.finished := by
    rcases List.mem_append.mp hCreated with hOld | hLive
    · exact created_mem_finishedLives.mp hOld
    · simp only [List.mem_map, Option.mem_toList, PeerCall.created.injEq, exists_eq_right] at hLive
      exact absurd hLive hPast
  have hLast : (l.current.toList.map PeerCall.created).count (.closed peer) = 0 :=
    List.count_eq_zero.mpr fun hMem => by simp at hMem
  constructor
  · rw [history, List.count_append, count_closed_finishedLives hFinished, hLast]
  · have hClose : l.history.idxOf (.closed peer) = 3 * peer + 1 := by
      rw [history, List.idxOf_append_of_mem (closed_mem_finishedLives.mpr hFinished),
        idxOf_closed_finishedLives hFinished]
    have hNext : 3 * (peer + 1) ≤ l.history.idxOf (.created (peer + 1)) :=
      le_idxOf_created_history hFinished
    omega

/-- Only a failed creation leads to the failed phase, and nothing leads out of it. -/
theorem failed_next_iff (l : Lifecycle) (event : LifecycleEvent) :
    (l.next event).phase = .failed ↔ l.phase = .failed ∨ event = .offer false := by
  obtain ⟨finished, phase⟩ := l
  cases event with
  | offer created => cases phase <;> cases created <;> simp [next, finish]
  | close => cases phase <;> simp [next, finish]
  | connected => cases phase <;> simp [next]
  | other => simp [next]

theorem failed_run_iff (l : Lifecycle) (events : List LifecycleEvent) :
    (run next l events).phase = .failed ↔ l.phase = .failed ∨ .offer false ∈ events := by
  induction events generalizing l with
  | nil => simp
  | cons event events ih =>
      rw [run_cons, ih, failed_next_iff, List.mem_cons, or_assoc, eq_comm (a := event)]

end Lifecycle

namespace World

variable {σ : Type} {sc : ISignalingClient σ} {env : Environment}

/-! ## State and peer connection -/

/-- Every peer connection created so far, except the current one, has been closed exactly once, before
the next one was created. -/
def ClosedOnce (w : World σ) : Prop :=
  ∀ peer, PeerCall.created peer ∈ (session w).calls → w.manager.peerConnection ≠ some peer →
    (session w).calls.count (.closed peer) = 1 ∧
      (session w).calls.idxOf (.closed peer) < (session w).calls.idxOf (.created (peer + 1))

/-- The connector state and the peer connections agree. -/
structure Agrees (w : World σ) : Prop where
  held_iff : w.manager.peerConnection.isSome = true ↔
    w.stateManager.state = .rtcConnecting ∨ w.stateManager.state = .rtcConnected
  settled : w.stateManager.state ≠ .rtcDisconnecting
  closedOnce : ClosedOnce w

theorem agrees_of_represents {l : Lifecycle} {w : World σ} (h : Represents l w) : Agrees w where
  held_iff := by
    have hHeld : w.manager.peerConnection = l.current := congrArg Session.peerConnection h
    have hState : w.stateManager.state = l.state := congrArg Session.state h
    rw [hHeld, hState]
    exact l.current_isSome_iff
  settled := by
    have hState : w.stateManager.state = l.state := congrArg Session.state h
    rw [hState]
    exact l.state_ne_rtcDisconnecting
  closedOnce := by
    have hHeld : w.manager.peerConnection = l.current := congrArg Session.peerConnection h
    intro peer hCreated hPast
    rw [h] at hCreated ⊢
    exact Lifecycle.closedOnce_history hCreated (hHeld ▸ hPast)

/-- **State and peer connection agree.**  After `InitializeWebRTC` and before `ShuttingDown`, over any events
during which nothing throws: between two events `peer_connection_` is set exactly in RTC_CONNECTING and
RTC_CONNECTED, the state is never left at RTC_DISCONNECTING, and every earlier peer connection has been
closed exactly once, before the next one was created. -/
theorem state_peerConnection_agree (hSends : sc.NeverFaults) (hHandlers : env.NeverThrows)
    (signaling : σ) (states : Nat → DataState) (iceServers : List IceServerConfig)
    (events : List ConnectorEvent) (hEvents : ∀ event ∈ events, event.InSession) :
    Throughout (step sc env) Agrees (started sc env signaling states iceServers) events := by
  rw [throughout_iff_forall_before]
  intro before after hSplit
  refine agrees_of_represents (represents_run hSends hHandlers (session_started _ _ _) fun event hMem => ?_)
  exact hEvents event (hSplit ▸ List.mem_append_left _ hMem)

/-- Two sessions, the first closed by re-entrant callbacks, the second failing to be created. -/
theorem state_peerConnection_agree_two_offers :
    Throughout (step .offline .calm) Agrees (started .offline .calm () (fun _ => .kConnecting) [])
      [.sdpOffer "a" true .done, .connectionChange .kConnected .done,
        .connectionChange (.ended .kFailed) (.event .kClosed .done (.event .kClosed .done .done)),
        .sdpOffer "b" true .done, .sdpOffer "c" false .done] :=
  state_peerConnection_agree ISignalingClient.neverFaults_offline Environment.neverThrows_calm ()
    (fun _ => .kConnecting) []
    [.sdpOffer "a" true .done, .connectionChange .kConnected .done,
      .connectionChange (.ended .kFailed) (.event .kClosed .done (.event .kClosed .done .done)),
      .sdpOffer "b" true .done, .sdpOffer "c" false .done]
    (by simp [ConnectorEvent.InSession])

/-! ## One more offer -/

/-- Handling an offer has led from `w` to RTC_CONNECTING with a new peer connection that was given the
offer. -/
def OfferTaken (w : World σ) (sdpOffer : String) (w' : World σ) : Prop :=
  w'.stateManager.state = .rtcConnecting ∧
    w'.manager.peerConnection = some w.webrtc.created ∧
    w'.webrtc.created = w.webrtc.created + 1 ∧
    .setRemoteDescription w.webrtc.created sdpOffer ∈ w'.webrtc.calls

instance (w : World σ) (sdpOffer : String) (w' : World σ) : Decidable (OfferTaken w sdpOffer w') :=
  inferInstanceAs (Decidable (_ ∧ _ ∧ _ ∧ _))

/-- The states in which an offer is taken: ready, or with a session that `HandleSdpOffer` can close. -/
def TakesOffers (w : World σ) : Prop :=
  w.stateManager.state = .readyToConnect ∨
    (w.manager.peerConnection.isSome = true ∧ connecting w = true)

/-- When `ClosePeerConnection` has something to do and returns, the state is READY_TO_CONNECT. -/
theorem closePeerConnection_returns {w w' : World σ} (hConnecting : connecting w = true)
    {inside : Reentry}
    (hRun : (closePeerConnection sc env (deliver sc env inside)).run w = .ok () w') :
    (session w').state = .readyToConnect ∧ w'.webrtc.created = w.webrtc.created := by
  have hCases := session_closePeerConnection sc env hConnecting inside
  rw [hRun, finalState_ok] at hCases
  constructor
  · rw [closePeerConnection_eq hConnecting] at hRun
    obtain ⟨_, w₁, _, hRest⟩ := run_bind_eq_ok.mp hRun
    obtain ⟨_, w₂, _, hLast⟩ := run_bind_eq_ok.mp hRest
    have hSet := session_setState sc .readyToConnect w₂
    have hLast' : (setState sc .readyToConnect).run w₂ = .ok () w' := hLast
    rw [hLast', finalState_ok] at hSet
    rw [hSet]
  · have hCreated : (session w').created = (session w).created := by
      rcases hCases with h | h | h
      · rw [h]
      · rw [h]
      · rw [h]
        rfl
    exact hCreated

/-- A ready connector takes an offer, if handling it returns. -/
theorem acceptOffer_returns {w w' : World σ} (hReady : (session w).state = .readyToConnect)
    {sdpOffer : String} (hRun : (acceptOffer sc sdpOffer true).run w = .ok () w') :
    OfferTaken w sdpOffer w' := by
  rw [acceptOffer_ready hReady] at hRun
  obtain ⟨_, w₁, hSet, hRest⟩ := run_bind_eq_ok.mp hRun
  obtain ⟨_, w₂, hCreate, hOffer⟩ := run_bind_eq_ok.mp hRest
  have hConnecting := session_setState sc .rtcConnecting w
  rw [hSet, finalState_ok] at hConnecting
  have hFactory : (session w₁).peerConnectionFactory = true := by
    by_contra hMissing
    have hAbsent : w₁.manager.peerConnectionFactory = false := Bool.not_eq_true _ ▸ hMissing
    simp [createPeerConnection, hAbsent] at hCreate
  obtain ⟨_, w₃, hCreate', hOpened⟩ := createPeerConnection_ends hFactory true
  rw [hCreate] at hCreate'
  cases hCreate'
  simp only [if_true, hConnecting] at hOpened
  have hPeer : (session w₂).peerConnection = some w.webrtc.created := by rw [hOpened]; rfl
  rw [setRemoteDescription_some hPeer] at hOffer
  cases hOffer
  have hCreated : (session w₂).created = w.webrtc.created + 1 := by rw [hOpened]; rfl
  have hState : (session w₂).state = .rtcConnecting := by rw [hOpened]; rfl
  exact ⟨hState, hPeer, hCreated, by simp [offered]⟩

/-- With no session in the way, an offer is taken exactly in READY_TO_CONNECT. -/
theorem acceptOffer_taken_iff {w w' : World σ} {sdpOffer : String}
    (hRun : (acceptOffer sc sdpOffer true).run w = .ok () w') :
    OfferTaken w sdpOffer w' ↔ w.stateManager.state = .readyToConnect := by
  constructor
  · rintro ⟨_, _, hCreated, _⟩
    by_contra hNotReady
    rw [acceptOffer_refused (w := w) hNotReady] at hRun
    cases hRun
    omega
  · intro hReady
    exact acceptOffer_returns hReady hRun

/-- **When one more offer is taken.**  Whatever has thrown before, an offer whose handling returns and
whose peer connection can be created is taken exactly in the states of `TakesOffers`. -/
theorem handleSdpOffer_taken_iff {w w' : World σ} {sdpOffer : String} {inside : Reentry}
    (hRun : (handleSdpOffer sc env sdpOffer true inside).run w = .ok () w') :
    OfferTaken w sdpOffer w' ↔ TakesOffers w := by
  cases hPeer : w.manager.peerConnection with
  | none =>
      rw [handleSdpOffer_none hPeer] at hRun
      rw [acceptOffer_taken_iff hRun]
      simp [TakesOffers, hPeer]
  | some peer =>
      rw [handleSdpOffer_some (by rw [hPeer]; rfl)] at hRun
      obtain ⟨_, w₁, hClose, hAccept⟩ := run_bind_eq_ok.mp hRun
      cases hConnecting : connecting w with
      | true =>
          obtain ⟨hReady, hSame⟩ := closePeerConnection_returns hConnecting hClose
          have hTaken : OfferTaken w₁ sdpOffer w' := acceptOffer_returns hReady hAccept
          refine iff_of_true ?_ (.inr ⟨by rw [hPeer]; rfl, hConnecting⟩)
          rwa [OfferTaken, hSame] at hTaken
      | false =>
          rw [closePeerConnection_idle hConnecting] at hClose
          cases hClose
          rw [acceptOffer_taken_iff hAccept]
          simp [TakesOffers, hConnecting]

/-- Without faults the connector takes offers until a creation has failed. -/
theorem takesOffers_iff_of_represents {l : Lifecycle} {w : World σ} (h : Represents l w) :
    TakesOffers w ↔ l.phase ≠ .failed := by
  have hHeld : w.manager.peerConnection = l.current := congrArg Session.peerConnection h
  have hState : w.stateManager.state = l.state := congrArg Session.state h
  rw [TakesOffers, h.connecting, hHeld, hState]
  obtain ⟨finished, phase⟩ := l
  cases phase with
  | ready => simp [Lifecycle.state]
  | live connected => simp [Lifecycle.current]
  | failed => simp [Lifecycle.state, Lifecycle.current]

/-- Some offer of the run met a failing `CreatePeerConnectionOrError`. -/
def CreationFailed (events : List ConnectorEvent) : Prop :=
  ∃ sdpOffer inside, ConnectorEvent.sdpOffer sdpOffer false inside ∈ events

theorem offer_false_mem_iff {events : List ConnectorEvent} :
    LifecycleEvent.offer false ∈ events.map ConnectorEvent.lifecycleEvent ↔ CreationFailed events := by
  rw [List.mem_map]
  constructor
  · rintro ⟨event, hMem, hOffer⟩
    cases event with
    | sdpOffer sdpOffer created inside =>
        cases hOffer
        exact ⟨sdpOffer, inside, hMem⟩
    | connectionChange newState inside => cases newState <;> cases hOffer
    | _ => cases hOffer
  · rintro ⟨sdpOffer, inside, hMem⟩
    exact ⟨_, hMem, rfl⟩

/-- **When the connector is wedged.**  After any events between `InitializeWebRTC` and `ShuttingDown`,
one more offer whose peer connection can be created is taken, if its handling returns, exactly in the
states of `TakesOffers`; and over a run in which nothing throws, its handling returns, and it is taken
exactly if no earlier offer met a failing `CreatePeerConnectionOrError`. -/
theorem offer_taken_iff (signaling : σ) (states : Nat → DataState) (iceServers : List IceServerConfig)
    (events : List ConnectorEvent) (hEvents : ∀ event ∈ events, event.InSession)
    (sdpOffer : String) (inside : Reentry) :
    let w := run (step sc env) (started sc env signaling states iceServers) events
    (∀ w', (handleSdpOffer sc env sdpOffer true inside).run w = .ok () w' →
        (OfferTaken w sdpOffer w' ↔ TakesOffers w)) ∧
      (sc.NeverFaults → env.NeverThrows →
        Ends (handleSdpOffer sc env sdpOffer true inside) w fun _ w' =>
          (OfferTaken w sdpOffer w' ↔ ¬ CreationFailed events)) := by
  intro w
  refine ⟨fun w' hRun => handleSdpOffer_taken_iff hRun, fun hSends hHandlers => ?_⟩
  have hLife : Represents (run Lifecycle.next {} (events.map ConnectorEvent.lifecycleEvent)) w :=
    represents_run hSends hHandlers (session_started _ _ _) hEvents
  obtain ⟨_, w', hRun, _⟩ := represents_offer hSends hHandlers hLife sdpOffer true inside
  refine ⟨(), w', hRun, ?_⟩
  show OfferTaken w sdpOffer w' ↔ ¬ CreationFailed events
  rw [handleSdpOffer_taken_iff hRun, takesOffers_iff_of_represents hLife, Ne, Lifecycle.failed_run_iff,
    offer_false_mem_iff]
  simp

/-- An offer after a closed session. -/
theorem offer_taken_iff_after_close :
    let events : List ConnectorEvent := [.sdpOffer "a" true .done, .closeMessage .done]
    let w := run (step .offline .calm) (started .offline .calm () (fun _ => .kConnecting) []) events
    Ends (handleSdpOffer .offline .calm "b" true .done) w fun _ w' =>
      (OfferTaken w "b" w' ↔ ¬ CreationFailed events) :=
  (offer_taken_iff () (fun _ => .kConnecting) [] [.sdpOffer "a" true .done, .closeMessage .done]
    (by simp [ConnectorEvent.InSession]) "b" .done).2
    ISignalingClient.neverFaults_offline Environment.neverThrows_calm

/-- After one failed creation, an offer that could be served is refused, and so is every later one. -/
theorem offer_refused_after_failed_creation :
    let start := started .offline .calm () (fun _ => .kConnecting) []
    let w := run (step .offline .calm) start [.sdpOffer "a" false .done]
    ¬ OfferTaken w "b" (step .offline .calm w (.sdpOffer "b" true .done)) ∧
      (step .offline .calm w (.sdpOffer "b" true .done)).stateManager.state = .rtcFailed := by
  decide

end World

end MosaicCore
