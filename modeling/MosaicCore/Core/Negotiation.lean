import MosaicCore.Core.AfterShutdown
import MosaicCore.Core.PeerCalls

/-!
# The negotiation with a peer connection

A connector answers: it sets the offer as the remote description, adds its tracks, asks for an answer, and sets the
answer as the local description.  Each of the three operations completes later, and the completion starts the next.

`negotiation` is this order as a protocol.  That a run follows it rests on one fact about the state: no peer
connection is held in READY_TO_CONNECT, so an offer never meets one that has had an offer.  The fact holds as long
as no `Close` of a handler throws (`ClosesCalmly`) and `InitializeWebRTC`, which goes to READY_TO_CONNECT from any
state, is not called in the middle of a session (`InitializesUnheld`); before a session and between two it may be
called any number of times.  Whether sends or other callbacks throw does not matter.  As in all runs of a connector, a
completion is one of the peer connection held (`World.fromPeer`).
-/

namespace MosaicCore

open EffectProgram EventRun Typestate

/-- The stages of a negotiation. -/
inductive NegotiationStage
  | absent
  | created
  | offered
  | answering
  | answered
  | closed
  | released
  deriving DecidableEq, Repr

namespace NegotiationStage

/-- Between the offer and the end. -/
def isOpen : NegotiationStage → Bool
  | .offered => true
  | .answering => true
  | .answered => true
  | _ => false

/-- What may be called in a stage; the local description has to be an answer that the peer connection itself gave. -/
def next (stage : NegotiationStage) (call : RtcCall) : Option NegotiationStage :=
  match call with
  | .createPeerConnectionOrError _ _ => if stage = .absent then some .created else none
  | .setRemoteDescription _ _ => if stage = .created then some .offered else none
  | .addTrack _ _ => if stage = .offered then some .offered else none
  | .createAnswer _ => if stage = .offered then some .answering else none
  | .setLocalDescription peer desc => if stage = .answering ∧ desc.peer = peer then some .answered else none
  | .addIceCandidate _ _ => if stage.isOpen then some stage else none
  | .close _ => if stage.isOpen then some .closed else none
  | .release _ => if stage.isOpen ∨ stage = .closed then some .released else none
  | .createVideoTrack _ => none
  | .stopThread _ => none

end NegotiationStage

/-- The order of the calls on a peer connection. -/
def negotiation : Protocol Nat NegotiationStage RtcCall where
  about := RtcCall.peer
  start := .absent
  next := NegotiationStage.next

namespace Peers

/-- The completions that a peer connection in a stage still owes. -/
def Owes (awaiting : List (Nat × Operation)) (peer : Nat) : NegotiationStage → Prop
  | .offered => ∀ operation, (peer, operation) ∈ awaiting → operation = .setRemoteDescription
  | .answering => ∀ operation, (peer, operation) ∈ awaiting → operation = .createAnswer
  | .answered => ∀ operation, (peer, operation) ∈ awaiting →
      operation ≠ .setRemoteDescription ∧ operation ≠ .createAnswer
  | _ => False

theorem Owes.mono {awaiting awaiting' : List (Nat × Operation)} {peer : Nat} {stage : NegotiationStage}
    (h : Owes awaiting peer stage)
    (hLess : ∀ operation, (peer, operation) ∈ awaiting' → (peer, operation) ∈ awaiting) :
    Owes awaiting' peer stage := by
  cases stage with
  | offered => exact fun operation hMem => h operation (hLess operation hMem)
  | answering => exact fun operation hMem => h operation (hLess operation hMem)
  | answered => exact fun operation hMem => h operation (hLess operation hMem)
  | _ => exact h

theorem Owes.isOpen {awaiting : List (Nat × Operation)} {peer : Nat} {stage : NegotiationStage}
    (h : Owes awaiting peer stage) : stage.isOpen = true := by
  cases stage <;> first | rfl | exact absurd h id

/-- Only after an offer is its completion owed. -/
theorem Owes.offered {awaiting : List (Nat × Operation)} {peer : Nat} {stage : NegotiationStage}
    (h : Owes awaiting peer stage) (hOwed : (peer, .setRemoteDescription) ∈ awaiting) : stage = .offered := by
  cases stage with
  | offered => rfl
  | answering => exact absurd (h _ hOwed) (by simp)
  | answered => exact absurd rfl (h _ hOwed).1
  | _ => exact absurd h id

/-- Only while an answer is made is its completion owed. -/
theorem Owes.answering {awaiting : List (Nat × Operation)} {peer : Nat} {stage : NegotiationStage}
    (h : Owes awaiting peer stage) (hOwed : (peer, .createAnswer) ∈ awaiting) : stage = .answering := by
  cases stage with
  | answering => rfl
  | offered => exact absurd (h _ hOwed) (by simp)
  | answered => exact absurd rfl (h _ hOwed).2
  | _ => exact absurd h id

/-- The stages that go with what is held and what is owed. -/
def Matches (held : Option Nat) (webrtc : WebRtc) (peer : Nat) (stage : NegotiationStage) : Prop :=
  (webrtc.created ≤ peer → stage = .absent) ∧ (held = some peer → Owes webrtc.awaiting peer stage)

/-- Every call came in its turn, and the completions owed are those of the stages. -/
structure Negotiates (p : Peers) : Prop where
  held_lt : ∀ peer, p.held = some peer → peer < p.webrtc.created
  owed_lt : ∀ owed ∈ p.webrtc.awaiting, owed.1 < p.webrtc.created
  owed_once : p.webrtc.awaiting.Nodup
  staged : negotiation.Staged (Matches p.held p.webrtc) p.webrtc.calls

/-- Calls about nothing but the peer connection held, each of which leaves every stage it may be in as it is. -/
theorem Negotiates.asked {p : Peers} (h : p.Negotiates) {more : List RtcCall}
    (hAbout : ∀ call ∈ more, ∀ peer, call.peer = some peer → p.held = some peer)
    (hStay : ∀ peer stage, p.held = some peer → Owes p.webrtc.awaiting peer stage →
      negotiation.follow stage (negotiation.callsOn peer more) = some stage) : (p.asked more).Negotiates where
  held_lt := h.held_lt
  owed_lt := h.owed_lt
  owed_once := h.owed_once
  staged := by
    refine h.staged.append fun peer stage hMatches => ⟨stage, ?_, hMatches⟩
    by_cases hHeld : p.held = some peer
    · exact hStay peer stage hHeld (hMatches.2 hHeld)
    · have hNone : negotiation.callsOn peer more = [] := by
        refine List.eq_nil_iff_forall_not_mem.mpr fun call hCall => hHeld ?_
        obtain ⟨hMem, hPeer⟩ := Protocol.mem_callsOn_iff.mp hCall
        exact hAbout call hMem peer hPeer
      rw [hNone]
      rfl

/-- Calls about no peer connection. -/
theorem Negotiates.asked_none {p : Peers} (h : p.Negotiates) {call : RtcCall} (hCall : call.peer = none) :
    (p.asked [call]).Negotiates := by
  refine h.asked (fun other hOther peer hPeer => ?_) fun peer stage _ _ => ?_
  · rw [List.mem_singleton.mp hOther, hCall] at hPeer
    cases hPeer
  · have hNot : negotiation.about call ≠ some peer := by
      show call.peer ≠ some peer
      rw [hCall]
      simp
    rw [Protocol.callsOn_singleton, if_neg hNot]
    rfl

/-- A completion has come. -/
theorem Negotiates.settled {p : Peers} (h : p.Negotiates) (peer : Nat) (operation : Operation) :
    (p.settled peer operation).Negotiates where
  held_lt := h.held_lt
  owed_lt owed hMem := h.owed_lt owed (List.mem_of_mem_erase hMem)
  owed_once := h.owed_once.erase _
  staged := by
    intro other
    obtain ⟨stage, hStage, hMatches⟩ := h.staged other
    refine ⟨stage, hStage, hMatches.1, fun hHeld => (hMatches.2 hHeld).mono fun _ hMem => ?_⟩
    exact List.mem_of_mem_erase hMem

/-- The next operation, once the one before it has completed. -/
theorem Negotiates.advance {p : Peers} (h : p.Negotiates) {peer : Nat} {done operation : Operation}
    {more : List RtcCall} (stage stage' : NegotiationStage) (hHeld : p.held = some peer)
    (hStage : ∀ stage₁, Owes p.webrtc.awaiting peer stage₁ → stage₁ = stage)
    (hOnly : Owes p.webrtc.awaiting peer stage → ∀ other, (peer, other) ∈ p.webrtc.awaiting → other = done)
    (hAbout : ∀ call ∈ more, ∀ other, call.peer = some other → other = peer)
    (hFollow : negotiation.follow stage (negotiation.callsOn peer more) = some stage')
    (hOwes : Owes [(peer, operation)] peer stage') :
    (((p.settled peer done).asked more).started peer operation).Negotiates := by
  -- The one completed was the only one owed.
  have hOwed : ∀ other, (peer, other) ∈ p.webrtc.awaiting → other = done := by
    obtain ⟨stage₁, -, hMatches⟩ := h.staged peer
    have hOwes₁ := hMatches.2 hHeld
    rw [hStage stage₁ hOwes₁] at hOwes₁
    exact hOnly hOwes₁
  have hLeft : ∀ other, (peer, other) ∉ p.webrtc.awaiting.erase (peer, done) := by
    intro other hMem
    obtain ⟨hOther, hMem'⟩ := h.owed_once.mem_erase_iff.mp hMem
    exact hOther (by rw [hOwed other hMem'])
  refine ⟨h.held_lt, ?_, ?_, ?_⟩
  · intro owed hMem
    rcases List.mem_append.mp hMem with hOld | hLast
    · exact h.owed_lt owed (List.mem_of_mem_erase hOld)
    · rw [List.mem_singleton.mp hLast]
      exact h.held_lt peer hHeld
  · refine List.nodup_append.mpr ⟨h.owed_once.erase _, by simp, fun owed hOld other hLast hSame => ?_⟩
    rw [List.mem_singleton.mp hLast] at hSame
    rw [hSame] at hOld
    exact hLeft operation hOld
  · refine h.staged.append fun other stage₁ hMatches => ?_
    by_cases hSame : other = peer
    · subst hSame
      rw [hStage stage₁ (hMatches.2 hHeld)]
      refine ⟨stage', hFollow, fun hLater => absurd (h.held_lt _ hHeld) (Nat.not_lt.mpr hLater), fun _ => ?_⟩
      refine hOwes.mono fun op hMem => ?_
      rcases List.mem_append.mp hMem with hOld | hLast
      · exact absurd hOld (hLeft op)
      · exact hLast
    · have hNone : negotiation.callsOn other more = [] := by
        refine List.eq_nil_iff_forall_not_mem.mpr fun call hCall => hSame ?_
        obtain ⟨hMem, hPeer⟩ := Protocol.mem_callsOn_iff.mp hCall
        exact hAbout call hMem other hPeer
      rw [hNone]
      refine ⟨stage₁, rfl, hMatches.1, fun hOther => absurd ?_ hSame⟩
      exact Option.some.inj (hOther.symm.trans hHeld)

/-- Giving up the peer connection held. -/
theorem Negotiates.ended {p : Peers} (h : p.Negotiates) (ending : Nat → List RtcCall)
    (hAbout : ∀ peer, ∀ call ∈ ending peer, call.peer = some peer)
    (hEnding : ∀ peer stage, stage.isOpen = true → negotiation.follow stage (ending peer) = some .released) :
    Negotiates ⟨none, { p.webrtc with calls := p.webrtc.calls ++ p.held.toList.flatMap ending }⟩ where
  held_lt _ hHeld := by simp at hHeld
  owed_lt := h.owed_lt
  owed_once := h.owed_once
  staged := by
    refine h.staged.append fun peer stage hMatches => ?_
    rw [Protocol.callsOn_toList hAbout]
    by_cases hHeld : p.held = some peer
    · rw [if_pos hHeld]
      refine ⟨.released, hEnding peer stage (hMatches.2 hHeld).isOpen, fun hLater => ?_, by simp⟩
      exact absurd (h.held_lt peer hHeld) (Nat.not_lt.mpr hLater)
    · rw [if_neg hHeld]
      exact ⟨stage, rfl, hMatches.1, by simp⟩

theorem Negotiates.closed {p : Peers} (h : p.Negotiates) : p.closed.Negotiates := by
  refine h.ended (fun peer => [.close peer, .release peer]) (by simp [RtcCall.peer]) ?_
  intro peer stage hOpen
  simp [Protocol.follow, negotiation, NegotiationStage.next, hOpen]

theorem Negotiates.dropped {p : Peers} (h : p.Negotiates) : p.dropped.Negotiates := by
  have hEnded := h.ended (fun peer => [.release peer]) (by simp [RtcCall.peer]) ?_
  · rwa [← List.map_eq_flatMap] at hEnded
  · intro peer stage hOpen
    simp [Protocol.follow, negotiation, NegotiationStage.next, hOpen]

/-- A new peer connection, and the offer set on it. -/
theorem Negotiates.accepted {p : Peers} (h : p.Negotiates) (servers : List IceServer) (sdpOffer : String) :
    (((p.opened servers).asked [.setRemoteDescription p.webrtc.created sdpOffer]).started
      p.webrtc.created .setRemoteDescription).Negotiates := by
  have hFresh : ∀ operation, (p.webrtc.created, operation) ∉ p.webrtc.awaiting :=
    fun operation hMem => Nat.lt_irrefl _ (h.owed_lt _ hMem)
  have hNotHeld : p.held ≠ some p.webrtc.created := fun hHeld => Nat.lt_irrefl _ (h.held_lt _ hHeld)
  refine ⟨fun peer hHeld => ?_, fun owed hMem => ?_, ?_, ?_⟩
  · cases hHeld
    exact Nat.lt_succ_self _
  · rcases List.mem_append.mp hMem with hOld | hLast
    · exact Nat.lt_succ_of_lt (h.owed_lt owed hOld)
    · rw [List.mem_singleton.mp hLast]
      exact Nat.lt_succ_self _
  · refine List.nodup_append.mpr ⟨h.owed_once, by simp, fun owed hOld other hLast hSame => ?_⟩
    rw [hSame, List.mem_singleton.mp hLast] at hOld
    exact hFresh _ hOld
  · have hCalls : (((p.opened servers).asked [.setRemoteDescription p.webrtc.created sdpOffer]).started
        p.webrtc.created .setRemoteDescription).webrtc.calls = p.webrtc.calls ++
          ([.createPeerConnectionOrError servers (some p.webrtc.created)] ++
            (p.held.toList.flatMap fun peer => [.release peer]) ++
              [.setRemoteDescription p.webrtc.created sdpOffer]) := by
      simp [Peers.started, Peers.asked, Peers.opened, List.map_eq_flatMap]
    rw [hCalls]
    refine h.staged.append fun peer stage hMatches => ?_
    rw [Protocol.callsOn_append, Protocol.callsOn_append, Protocol.callsOn_singleton,
      Protocol.callsOn_singleton, Protocol.callsOn_toList (by simp [negotiation, RtcCall.peer])]
    by_cases hNew : peer = p.webrtc.created
    · subst hNew
      rw [hMatches.1 (Nat.le_refl _), if_neg hNotHeld]
      refine ⟨.offered, by simp [Protocol.follow, negotiation, NegotiationStage.next, RtcCall.peer], ?_, ?_⟩
      · exact fun hLater => absurd hLater (Nat.not_succ_le_self _)
      · intro _ operation hMem
        rcases List.mem_append.mp hMem with hOld | hLast
        · exact absurd hOld (hFresh operation)
        · simpa using hLast
    · have hOther : p.webrtc.created ≠ peer := fun hSame => hNew hSame.symm
      by_cases hHeld : p.held = some peer
      · refine ⟨.released, ?_, fun hLater => ?_, fun hSome => absurd (Option.some.inj hSome) hOther⟩
        · have hOpen := (hMatches.2 hHeld).isOpen
          simp [Protocol.follow, negotiation, NegotiationStage.next, RtcCall.peer, hOther, hHeld, hOpen]
        · exact absurd (Nat.lt_succ_of_lt (h.held_lt peer hHeld)) (Nat.not_lt.mpr hLater)
      · refine ⟨stage, ?_, fun hLater => hMatches.1 (Nat.le_of_succ_le hLater),
          fun hSome => absurd (Option.some.inj hSome) hOther⟩
        simp [Protocol.follow, negotiation, RtcCall.peer, hOther, hHeld]

/-- Tracks may be added while an offer waits for its answer. -/
theorem follow_trackCalls {peer : Nat} {entries : List (String × MediaTrackHandler)} {more : List RtcCall}
    (hMore : ∀ call ∈ more, call ∈ trackCalls peer entries) :
    negotiation.follow .offered (negotiation.callsOn peer more) = some .offered := by
  induction more with
  | nil => rfl
  | cons call more ih =>
      have hRest := ih fun other hOther => hMore other (List.mem_cons_of_mem _ hOther)
      obtain ⟨e, -, hMem⟩ := List.mem_flatMap.mp (hMore call List.mem_cons_self)
      rw [← List.singleton_append, Protocol.callsOn_append, Protocol.follow_append, Protocol.callsOn_singleton]
      split at hMem
      · rcases List.mem_cons.mp hMem with rfl | hAdd
        · exact hRest
        · split at hAdd
          · cases List.mem_singleton.mp hAdd
            simpa [Protocol.follow, negotiation, NegotiationStage.next, RtcCall.peer] using hRest
          · simp at hAdd
      · simp at hMem

/-- **Every move but an offer to a peer connection that was kept keeps to the order of the negotiation.** -/
theorem Negotiates.move {entries : List (String × MediaTrackHandler)} {p p' : Peers} (h : p.Negotiates)
    (hMove : Move False entries p p') : p'.Negotiates := by
  cases hMove with
  | accept servers sdpOffer => exact h.accepted servers sdpOffer
  | createFailed servers => exact h.asked_none rfl
  | reoffer hKept => exact absurd hKept id
  | candidate peer hHeld candidate =>
      refine h.asked (fun call hCall other hOther => ?_) fun other stage hOther hOwes => ?_
      · cases List.mem_singleton.mp hCall
        exact hHeld.trans hOther
      · cases hHeld.symm.trans hOther
        simp [Protocol.callsOn_singleton, Protocol.follow, negotiation, NegotiationStage.next, RtcCall.peer,
          hOwes.isOpen]
  | settle peer hHeld operation hOwed => exact h.settled _ _
  | tracks peer hHeld hOwed more hMore =>
      -- The tracks are added first here, which no later step can tell.
      have hAdded : (p.asked more).Negotiates := by
        refine h.asked (fun call hCall other hOther => ?_) fun other stage hOther hOwes => ?_
        · exact hHeld.trans (congrArg some (trackCalls_uses call (hMore.subset hCall) other hOther).1)
        · cases hHeld.symm.trans hOther
          rw [hOwes.offered hOwed]
          exact follow_trackCalls fun call hCall => hMore.subset hCall
      exact hAdded.settled peer .setRemoteDescription
  | answer peer hHeld hOwed =>
      refine h.advance .offered .answering hHeld
        (fun stage hOwes => hOwes.offered hOwed) (fun hOwes => hOwes) (fun call hCall other hOther => ?_) ?_ ?_
      · rcases List.mem_append.mp hCall with hTrack | hAnswer
        · exact (trackCalls_uses call hTrack other hOther).1.symm
        · cases List.mem_singleton.mp hAnswer
          exact (Option.some.inj hOther).symm
      · rw [Protocol.callsOn_append, Protocol.follow_append, follow_trackCalls fun _ hCall => hCall,
          Protocol.callsOn_singleton]
        simp [Protocol.follow, negotiation, NegotiationStage.next, RtcCall.peer]
      · simp [Owes]
  | setLocal peer hHeld hOwed sdp =>
      refine h.advance .answering .answered hHeld
        (fun stage hOwes => hOwes.answering hOwed) (fun hOwes => hOwes) (fun call hCall other hOther => ?_) ?_ ?_
      · cases List.mem_singleton.mp hCall
        exact (Option.some.inj hOther).symm
      · simp [Protocol.callsOn_singleton, Protocol.follow, negotiation, NegotiationStage.next, RtcCall.peer]
      · simp [Owes]
  | close => exact h.closed
  | drop => exact h.dropped
  | stopThread thread => exact h.asked_none rfl

theorem Negotiates.moves {entries : List (String × MediaTrackHandler)} {p p' : Peers} (h : p.Negotiates)
    (hMoves : Relation.ReflTransGen (Move False entries) p p') : p'.Negotiates := by
  induction hMoves with
  | refl => exact h
  | tail _ hMove ih => exact ih.move hMove

end Peers

/-- The `Close` of a media track handler does not throw; the library's `CloseDataChannel` never does. -/
def Environment.ClosesCalmly (env : Environment) : Prop :=
  ∀ trackName n, env.throws (.closeMediaTrack trackName) n = false

theorem Environment.NeverThrows.closesCalmly {env : Environment} (h : env.NeverThrows) : env.ClosesCalmly :=
  fun _ _ => h _ _

namespace World

variable {σ : Type} {sc : ISignalingClient σ} {env : Environment}

/-! ## Nothing is held in READY_TO_CONNECT -/

theorem neverFaults_closeMediaTracks (hCloses : env.ClosesCalmly) :
    NeverFaults (closeAllMediaTracks env : Program (World σ) Unit) := by
  refine neverFaults_bind neverFaults_get fun _ => neverFaults_forM (fun trackName => ?_) _
  refine neverFaults_bind neverFaults_get fun w => neverFaults_bind (neverFaults_modify _) fun _ => ?_
  rw [hCloses]
  exact neverFaults_pure _

variable (sc) in
/-- The body of the `try` block drops the peer connection. -/
theorem closeHandlersAndDrop_drops (hCloses : env.ClosesCalmly) {w : World σ} (hIdle : connecting w = false)
    (inside : Reentry) :
    Ends (closeHandlersAndDrop env (deliver sc env inside)) w fun _ w' => w'.manager.peerConnection = none := by
  have hMedia := (neverFaults_closeMediaTracks hCloses).ends keepsSession_closeAllMediaTracks w
  refine ends_bind (hMedia.imp fun _ w₁ hFirst => ?_)
  have hData := neverFaults_closeAllDataChannels.ends keepsSession_closeAllDataChannels w₁
  refine ends_bind (hData.imp fun _ w₂ hSecond => ?_)
  have hIdle₂ : connecting w₂ = false := (connecting_congr (by rw [hSecond, hFirst])).trans hIdle
  refine ⟨(), dropped w₂, closeAndDrop_run _ _ hIdle₂ inside, ?_⟩
  cases hHeld : w₂.manager.peerConnection <;> simp [dropped, hHeld]

theorem not_heldWhenReady_of_state {w : World σ} (hState : (session w).state ≠ .readyToConnect) :
    ¬ HeldWhenReady w :=
  fun h => hState h.1

theorem not_heldWhenReady_of_none {w : World σ} (hNone : w.manager.peerConnection = none) :
    ¬ HeldWhenReady w := by
  intro h
  rw [HeldWhenReady, hNone] at h
  exact absurd h.2 (by simp)

theorem not_heldWhenReady_congr {w w' : World σ} (hSame : session w' = session w) (h : ¬ HeldWhenReady w) :
    ¬ HeldWhenReady w' := by
  have hHeld : w'.manager.peerConnection = w.manager.peerConnection := congrArg Session.peerConnection hSame
  rwa [HeldWhenReady, hSame, hHeld]

variable (sc) in
/-- Setting a state that is not READY_TO_CONNECT. -/
theorem not_heldWhenReady_setState {state : ConnectorState} (hState : state ≠ .readyToConnect) (w : World σ) :
    ¬ HeldWhenReady (finalState ((setState sc state).run w)) := by
  refine not_heldWhenReady_of_state ?_
  rw [session_setState]
  exact hState

variable (sc) in
/-- `ClosePeerConnection` goes to READY_TO_CONNECT with nothing held. -/
theorem not_heldWhenReady_close (hCloses : env.ClosesCalmly) {w : World σ} (h : ¬ HeldWhenReady w)
    (inside : Reentry) :
    ¬ HeldWhenReady (finalState ((closePeerConnection sc env (deliver sc env inside)).run w)) := by
  cases hConnecting : connecting w with
  | false =>
      rw [closePeerConnection_idle hConnecting]
      exact h
  | true =>
      have hSet := session_setState sc .rtcDisconnecting w
      rw [closePeerConnection_eq hConnecting, finalState_bind]
      cases hRun : (setState sc .rtcDisconnecting).run w with
      | error e w₁ =>
          -- A throwing send leaves the connector in RTC_DISCONNECTING.
          rw [hRun] at hSet
          refine not_heldWhenReady_of_state ?_
          rw [finalState_error] at hSet
          simp [hSet]
      | ok _ w₁ =>
          rw [hRun, finalState_ok] at hSet
          have hIdle : connecting w₁ = false :=
            connecting_eq_false .rtcDisconnecting (congrArg Session.state hSet) (by decide)
          have hTried : Ends (catchException (closeHandlersAndDrop env (deliver sc env inside))) w₁
              fun _ w' => w'.manager.peerConnection = none :=
            ends_recover (closeHandlersAndDrop_drops sc hCloses hIdle inside)
          obtain ⟨_, w₂, hTry, hNone⟩ := hTried
          have hLast : peerSide (finalState ((setState sc .readyToConnect).run w₂)) = peerSide w₂ :=
            leavesPeers_setState .readyToConnect w₂
          dsimp only
          rw [finalState_bind, hTry]
          exact not_heldWhenReady_of_none ((congrArg Peers.held hLast).trans hNone)

/-- An offer leads to RTC_CONNECTING or RTC_FAILED, or changes nothing. -/
theorem not_heldWhenReady_acceptOffer {w : World σ} (h : ¬ HeldWhenReady w) (sdpOffer : String) (created : Bool) :
    ¬ HeldWhenReady (finalState ((acceptOffer sc sdpOffer created).run w)) := by
  by_cases hState : (session w).state = .readyToConnect
  · rw [acceptOffer_ready hState, finalState_bind]
    have hSet : ¬ HeldWhenReady (finalState ((setState sc .rtcConnecting).run w)) :=
      not_heldWhenReady_setState sc (by simp) w
    cases hRun : (setState sc .rtcConnecting).run w with
    | error e w₁ =>
        rw [hRun] at hSet
        exact hSet
    | ok _ w₁ =>
        have hConnecting : (session w₁).state = .rtcConnecting := by
          have hSession := session_setState sc .rtcConnecting w
          rw [hRun, finalState_ok] at hSession
          rw [hSession]
        dsimp only
        refine not_heldWhenReady_of_state ?_
        -- Creating a peer connection keeps the state, and a failed offer sets RTC_FAILED.
        have hCreate : Within (fun w w' : World σ => (session w').state = (session w).state)
            (createPeerConnection created) := by
          intro w
          rcases session_createPeerConnection created w with hSame | ⟨-, -, hOpened⟩
          · rw [hSame]
          · rw [hOpened]
            rfl
        have hBoth : Within (fun w w' : World σ => (session w).state ≠ .readyToConnect →
            (session w').state ≠ .readyToConnect)
            (createPeerConnection created >>= fun _ => setRemoteDescription sc sdpOffer) := by
          apply within_bind
          · exact hCreate.mono fun w w' hSame hNot => by rwa [hSame]
          intro _
          refine within_setRemoteDescription (fun w _ => ?_) (fun _ => ?_) fun _ => ?_
          · rw [session_setState]
            simp
          · exact (keepsSession_rtcCall rfl).mono fun w w' hSame hNot => by rwa [hSame]
          · exact (keepsSession_rtcStart _ _).mono fun w w' hSame hNot => by rwa [hSame]
        exact hBoth w₁ (by simp [hConnecting])
  · rw [acceptOffer_refused hState]
    exact h

/-- `InitializeWebRTC` is not called while a peer connection is held. -/
def InitializesUnheld (w : World σ) : ConnectorEvent → Prop
  | .initializeWebRTC _ => w.manager.peerConnection = none
  | _ => True

/-- Nothing is held in READY_TO_CONNECT, after any event. -/
theorem not_heldWhenReady_step (hCloses : env.ClosesCalmly) {w : World σ} {event : ConnectorEvent}
    (hEvent : InitializesUnheld w event) (h : ¬ HeldWhenReady w) : ¬ HeldWhenReady (step sc env w event) := by
  cases event with
  | initializeWebRTC factory =>
      have hPeers : peerSide (step sc env w (.initializeWebRTC factory)) = peerSide w :=
        leavesPeers_initializeWebRTC factory w
      exact not_heldWhenReady_of_none ((congrArg Peers.held hPeers).trans hEvent)
  | addDataChannelHandler label => exact not_heldWhenReady_congr (keepsSession_addDataChannelHandler w) h
  | addMediaTrackHandler trackName handler =>
      exact not_heldWhenReady_congr (keepsSession_addMediaTrackHandler w) h
  | sdpOffer sdpOffer created inside =>
      cases hHeld : w.manager.peerConnection with
      | none =>
          have hRun : step sc env w (.sdpOffer sdpOffer created inside) =
              finalState ((acceptOffer sc sdpOffer created).run w) :=
            congrArg finalState (handleSdpOffer_none hHeld sdpOffer created inside)
          rw [hRun]
          exact not_heldWhenReady_acceptOffer h _ _
      | some peer =>
          have hRun : step sc env w (.sdpOffer sdpOffer created inside) =
              finalState ((closePeerConnection sc env (deliver sc env inside) >>= fun _ =>
                acceptOffer sc sdpOffer created).run w) :=
            congrArg finalState (handleSdpOffer_some (by rw [hHeld]; rfl) sdpOffer created inside)
          have hClosed := not_heldWhenReady_close sc hCloses h inside
          rw [hRun, finalState_bind]
          cases hAfter : (closePeerConnection sc env (deliver sc env inside)).run w with
          | error e w₁ =>
              rw [hAfter] at hClosed
              exact hClosed
          | ok _ w₁ =>
              rw [hAfter] at hClosed
              exact not_heldWhenReady_acceptOffer hClosed _ _
  | closeMessage inside => exact not_heldWhenReady_close sc hCloses h inside
  | iceCandidateMessage candidate => exact not_heldWhenReady_congr (keepsSession_handleIceCandidate w) h
  | complete completion => exact not_heldWhenReady_congr (keepsSession_complete completion w) h
  | connectionChange newState inside =>
      refine within_fromPeer (R := fun w w' => ¬ HeldWhenReady w → ¬ HeldWhenReady w') (fun _ => ?_) w h
      exact within_onConnectionChange (fun w _ => not_heldWhenReady_setState sc (by simp) w)
        fun w hBefore => not_heldWhenReady_close sc hCloses hBefore inside
  | iceCandidate candidate => exact not_heldWhenReady_congr (keepsSession_iceCandidate w) h
  | dataChannel label => exact not_heldWhenReady_congr (keepsSession_deliverDataChannel w) h
  | channelState channel state => exact h
  | stateBroadcast => exact not_heldWhenReady_congr (keepsSession_sendState w) h
  | shuttingDown inside =>
      refine within_shuttingDown (R := fun w w' => ¬ HeldWhenReady w → ¬ HeldWhenReady w') ?_ ?_ ?_ ?_ ?_ w h
      · exact fun w _ => not_heldWhenReady_setState sc (by simp) w
      · exact keepsSession_stopSignalingServer.mono fun _ _ hSame => not_heldWhenReady_congr hSame
      · exact fun w hBefore => not_heldWhenReady_close sc hCloses hBefore inside
      · intro w _
        refine not_heldWhenReady_of_none ?_
        exact congrArg Session.peerConnection (session_assignPeerConnection_none w)
      · intro w hBefore hAfter
        rw [HeldWhenReady, session_destroyFactoryAndThreads] at hAfter
        refine hBefore ⟨hAfter.1, ?_⟩
        have hHeld := congrArg Session.peerConnection (session_destroyFactoryAndThreads w)
        exact (congrArg Option.isSome hHeld).symm.trans hAfter.2

/-! ## Runs -/

/-- What holds of a connector between two events. -/
structure InOrder (w : World σ) : Prop where
  negotiates : (peerSide w).Negotiates
  ready : ¬ HeldWhenReady w

theorem inOrder_wired (signaling : σ) (states : Nat → DataState) (iceServers : List IceServerConfig) :
    InOrder (wired signaling states iceServers) := by
  refine ⟨?_, not_heldWhenReady_of_none rfl⟩
  refine ⟨fun peer hHeld => ?_, fun owed hMem => ?_, List.nodup_nil,
    Protocol.staged_nil fun peer => ⟨fun _ => rfl, fun hHeld => ?_⟩⟩
  · cases hHeld
  · cases hMem
  · cases hHeld

theorem inOrder_step (hCloses : env.ClosesCalmly) {w : World σ} {event : ConnectorEvent}
    (hEvent : InitializesUnheld w event) (h : InOrder w) : InOrder (step sc env w event) where
  negotiates := h.negotiates.moves (moves_step w event h.ready fun inside =>
    not_heldWhenReady_close sc hCloses h.ready inside)
  ready := not_heldWhenReady_step hCloses hEvent h.ready

theorem inOrder_run (hCloses : env.ClosesCalmly) (signaling : σ) (states : Nat → DataState)
    (iceServers : List IceServerConfig) {events : List ConnectorEvent}
    (hEvents : EachStep (step sc env) InitializesUnheld (wired signaling states iceServers) events) :
    InOrder (run (step sc env) (wired signaling states iceServers) events) :=
  hEvents.keeps (fun _ _ h hEvent => inOrder_step hCloses hEvent h) (inOrder_wired signaling states iceServers)

/-- **Every peer connection is negotiated with once and in order**: one offer, the tracks, one answer, and that
answer as the local description; candidates from the offer on, and nothing after the close but the release.
`InitializeWebRTC` may be called whenever no peer connection is held.  Sends and other callbacks may throw; only the
`Close` of a handler must not. -/
theorem negotiated_in_order (hCloses : env.ClosesCalmly) (signaling : σ) (states : Nat → DataState)
    (iceServers : List IceServerConfig) {events : List ConnectorEvent}
    (hEvents : EachStep (step sc env) InitializesUnheld (wired signaling states iceServers) events) :
    negotiation.Obeys (run (step sc env) (wired signaling states iceServers) events).webrtc.calls :=
  (inOrder_run hCloses signaling states iceServers hEvents).negotiates.staged.obeys

/-- A connector that is initialized twice, a negotiation, and a second one that replaces it. -/
theorem negotiated_in_order_twice :
    negotiation.Obeys
      (run (step .offline .calm) (wired () (fun _ => .kOpen) [])
        [.initializeWebRTC true, .initializeWebRTC true, .addMediaTrackHandler "camera" {}, .sdpOffer "v=0" true .done,
          .complete (.setRemoteDescription true), .complete (.createAnswer (some "v=1")),
          .sdpOffer "v=2" true .done]).webrtc.calls :=
  negotiated_in_order Environment.neverThrows_calm.closesCalmly () (fun _ => .kOpen) []
    ⟨rfl, rfl, trivial, trivial, trivial, trivial, trivial, trivial⟩

end World

end MosaicCore
