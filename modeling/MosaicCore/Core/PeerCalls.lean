import MosaicCore.Core.PeerMoves
import MosaicCore.Library.Typestate

/-!
# In which order a peer connection is called

What libwebrtc is asked to do with a peer connection follows two protocols (`Typestate.Protocol`):

* `peerLife` — created once, used while it lives, closed at most once, released once; never touched afterwards.
  Every run of the connector follows it, whatever throws.
* `negotiation` — one offer, the tracks, one answer, and the answer set as the local description, in this order.
  A run follows it as long as no `Close` of a handler throws; otherwise an offer may be made to a peer connection
  that has had one.
-/

namespace MosaicCore

open EffectProgram EventRun Typestate

/-! ## The life of a peer connection -/

/-- The stages in the life of a peer connection. -/
inductive PeerStage
  | absent
  | live
  | closed
  | released
  deriving DecidableEq, Repr

/-- What may be called in a stage. -/
def PeerStage.next : PeerStage → RtcCall → Option PeerStage
  | .absent, .createPeerConnectionOrError _ _ => some .live
  | .live, .createPeerConnectionOrError _ _ => none
  | .live, .close _ => some .closed
  | .live, .release _ => some .released
  | .live, _ => some .live
  | .closed, .release _ => some .released
  | _, _ => none

/-- The life of a peer connection. -/
def peerLife : Protocol Nat PeerStage RtcCall where
  about := RtcCall.peer
  start := .absent
  next := PeerStage.next

/-- The call neither begins nor ends the life of a peer connection. -/
def RtcCall.isUse : RtcCall → Bool
  | .createPeerConnectionOrError _ _ => false
  | .close _ => false
  | .release _ => false
  | _ => true

theorem peerStage_next_use {call : RtcCall} (hUse : call.isUse = true) :
    PeerStage.next .live call = some .live := by
  cases call <;> simp_all [PeerStage.next, RtcCall.isUse]

/-- Only a live peer connection is used or closed. -/
theorem peerStage_live_of_next {stage stage' : PeerStage} {call : RtcCall} {peer : Nat}
    (hCall : call.isUse = true ∨ call = .close peer) (hNext : PeerStage.next stage call = some stage') :
    stage = .live := by
  cases stage with
  | live => rfl
  | absent => cases call <;> simp_all [PeerStage.next, RtcCall.isUse]
  | closed => cases call <;> simp_all [PeerStage.next, RtcCall.isUse]
  | released => cases call <;> simp_all [PeerStage.next]

/-- Uses keep a live peer connection live. -/
theorem follow_uses {more : List RtcCall} (hMore : ∀ call ∈ more, call.isUse = true) :
    peerLife.follow .live more = some .live := by
  induction more with
  | nil => rfl
  | cons call more ih =>
      have hFirst : peerLife.next .live call = some .live := peerStage_next_use (hMore call List.mem_cons_self)
      rw [Protocol.follow, hFirst]
      exact ih fun other hOther => hMore other (List.mem_cons_of_mem _ hOther)

namespace Peers

/-- The stages that go with what is held: the peer connection held is live, those to come are absent. -/
def Fits (held : Option Nat) (created peer : Nat) (stage : PeerStage) : Prop :=
  (created ≤ peer → stage = .absent) ∧ (held = some peer → stage = .live)

/-- Every call was allowed, and the stages go with what is held. -/
structure Lives (p : Peers) : Prop where
  held_lt : ∀ peer, p.held = some peer → peer < p.webrtc.created
  staged : peerLife.Staged (Fits p.held p.webrtc.created) p.webrtc.calls

/-- The peer connection held is used, or calls are made that are about none. -/
theorem Lives.asked {p : Peers} (h : p.Lives) {more : List RtcCall}
    (hMore : ∀ call ∈ more, ∀ peer, call.peer = some peer → p.held = some peer ∧ call.isUse = true) :
    (p.asked more).Lives where
  held_lt := h.held_lt
  staged := by
    refine h.staged.append fun peer stage hFits => ⟨stage, ?_, hFits⟩
    by_cases hHeld : p.held = some peer
    · rw [hFits.2 hHeld]
      refine follow_uses fun call hCall => ?_
      obtain ⟨hMem, hAbout⟩ := Protocol.mem_callsOn_iff.mp hCall
      exact (hMore call hMem peer hAbout).2
    · have hNone : peerLife.callsOn peer more = [] := by
        refine List.eq_nil_iff_forall_not_mem.mpr fun call hCall => hHeld ?_
        obtain ⟨hMem, hAbout⟩ := Protocol.mem_callsOn_iff.mp hCall
        exact (hMore call hMem peer hAbout).1
      rw [hNone]
      rfl

theorem Lives.started {p : Peers} (h : p.Lives) (peer : Nat) (operation : Operation) :
    (p.started peer operation).Lives :=
  ⟨h.held_lt, h.staged⟩

theorem Lives.settled {p : Peers} (h : p.Lives) (peer : Nat) (operation : Operation) :
    (p.settled peer operation).Lives :=
  ⟨h.held_lt, h.staged⟩

/-- The calls that end the peer connection held, from the stage they find each peer connection in. -/
theorem follow_ending {held : Option Nat} {created peer : Nat} {stage : PeerStage}
    (hFits : Fits held created peer stage) {ending : Nat → List RtcCall}
    (hAbout : ∀ peer, ∀ call ∈ ending peer, call.peer = some peer)
    (hEnding : ∀ peer, peerLife.follow .live (ending peer) = some .released) :
    peerLife.follow stage (peerLife.callsOn peer (held.toList.flatMap ending)) =
      some (if held = some peer then .released else stage) := by
  rw [Protocol.callsOn_toList hAbout]
  by_cases hHeld : held = some peer
  · rw [if_pos hHeld, if_pos hHeld, hFits.2 hHeld]
    exact hEnding peer
  · rw [if_neg hHeld, if_neg hHeld]
    rfl

/-- Giving up the peer connection held, by calls that end it. -/
theorem Lives.ended {p : Peers} (h : p.Lives) (ending : Nat → List RtcCall)
    (hAbout : ∀ peer, ∀ call ∈ ending peer, call.peer = some peer)
    (hEnding : ∀ peer, peerLife.follow .live (ending peer) = some .released) :
    Lives ⟨none, { p.webrtc with calls := p.webrtc.calls ++ p.held.toList.flatMap ending }⟩ where
  held_lt _ hHeld := by simp at hHeld
  staged := by
    refine h.staged.append fun peer stage hFits => ⟨_, follow_ending hFits hAbout hEnding, ?_, by simp⟩
    intro hLater
    rw [if_neg fun hHeld => absurd (h.held_lt peer hHeld) (Nat.not_lt.mpr hLater)]
    exact hFits.1 hLater

theorem Lives.closed {p : Peers} (h : p.Lives) : p.closed.Lives := by
  exact h.ended (fun peer => [.close peer, .release peer]) (by simp [RtcCall.peer]) fun _ => rfl

theorem Lives.dropped {p : Peers} (h : p.Lives) : p.dropped.Lives := by
  have hEnded := h.ended (fun peer => [.release peer]) (by simp [RtcCall.peer]) fun _ => rfl
  rwa [← List.map_eq_flatMap] at hEnded

/-- A new peer connection over whatever was held. -/
theorem Lives.opened {p : Peers} (h : p.Lives) (servers : List IceServer) : (p.opened servers).Lives where
  held_lt peer hHeld := by
    cases hHeld
    exact Nat.lt_succ_self _
  staged := by
    have hCreated : peerLife.Staged
        (fun peer stage => Fits p.held (p.webrtc.created + 1) peer stage ∧
          (peer = p.webrtc.created → stage = .live))
        (p.webrtc.calls ++ [.createPeerConnectionOrError servers (some p.webrtc.created)]) := by
      refine h.staged.append fun peer stage hFits => ?_
      rw [Protocol.callsOn_singleton]
      by_cases hNew : peer = p.webrtc.created
      · subst hNew
        have hAbout : peerLife.about (.createPeerConnectionOrError servers (some p.webrtc.created)) =
            some p.webrtc.created := rfl
        rw [hFits.1 (Nat.le_refl _), if_pos hAbout]
        exact ⟨.live, rfl, ⟨fun hLater => absurd hLater (Nat.not_succ_le_self _), fun _ => rfl⟩, fun _ => rfl⟩
      · have hOther : peerLife.about (.createPeerConnectionOrError servers (some p.webrtc.created)) ≠ some peer :=
          fun hAbout => hNew (Option.some.inj hAbout).symm
        rw [if_neg hOther]
        exact ⟨stage, rfl, ⟨fun hLater => hFits.1 (Nat.le_of_succ_le hLater), hFits.2⟩,
          fun hSame => absurd hSame hNew⟩
    have hReleased : peerLife.Staged (Fits (some p.webrtc.created) (p.webrtc.created + 1))
        (p.webrtc.calls ++ [.createPeerConnectionOrError servers (some p.webrtc.created)] ++
          p.held.toList.flatMap fun peer => [.release peer]) := by
      refine hCreated.append fun peer stage hFits => ?_
      have hEnding : peerLife.follow stage (peerLife.callsOn peer (p.held.toList.flatMap fun peer => [.release peer])) =
          some (if p.held = some peer then .released else stage) :=
        follow_ending hFits.1 (by simp [RtcCall.peer]) fun _ => rfl
      refine ⟨_, hEnding, fun hLater => ?_, fun hNew => ?_⟩
      · have hNotHeld : p.held ≠ some peer := fun hHeld =>
          absurd (Nat.lt_succ_of_lt (h.held_lt peer hHeld)) (Nat.not_lt.mpr hLater)
        rw [if_neg hNotHeld]
        exact hFits.1.1 hLater
      · have hSame : peer = p.webrtc.created := (Option.some.inj hNew).symm
        have hNotHeld : p.held ≠ some peer := fun hHeld =>
          absurd (h.held_lt peer hHeld) (by rw [hSame]; exact Nat.lt_irrefl _)
        rw [if_neg hNotHeld]
        exact hFits.2 hSame
    rwa [List.append_assoc, ← List.map_eq_flatMap] at hReleased

/-- The calls of `CreateAllMediaTracks` are uses of the peer connection. -/
theorem trackCalls_uses {peer : Nat} {entries : List (String × MediaTrackHandler)} :
    ∀ call ∈ trackCalls peer entries, ∀ other, call.peer = some other → peer = other ∧ call.isUse = true := by
  intro call hCall other hOther
  obtain ⟨e, -, hMem⟩ := List.mem_flatMap.mp hCall
  split at hMem
  · rcases List.mem_cons.mp hMem with rfl | hAdd
    · simp [RtcCall.peer] at hOther
    · split at hAdd
      · cases List.mem_singleton.mp hAdd
        exact ⟨Option.some.inj hOther, rfl⟩
      · simp at hAdd
  · simp at hMem

/-- **Every move keeps to the life of the peer connections.** -/
theorem Lives.move {kept : Prop} {entries : List (String × MediaTrackHandler)} {p p' : Peers} (h : p.Lives)
    (hMove : Move kept entries p p') : p'.Lives := by
  cases hMove with
  | accept servers sdpOffer =>
      refine ((h.opened servers).asked fun call hCall peer hPeer => ?_).started _ _
      cases List.mem_singleton.mp hCall
      exact ⟨hPeer, rfl⟩
  | createFailed servers =>
      refine h.asked fun call hCall peer hPeer => ?_
      cases List.mem_singleton.mp hCall
      cases hPeer
  | reoffer hKept peer hHeld servers sdpOffer =>
      refine (h.asked fun call hCall other hOther => ?_).started _ _
      rcases List.mem_pair.mp hCall with rfl | rfl
      · cases hOther
      · exact ⟨hHeld.trans hOther, rfl⟩
  | candidate peer hHeld candidate =>
      refine h.asked fun call hCall other hOther => ?_
      cases List.mem_singleton.mp hCall
      exact ⟨hHeld.trans hOther, rfl⟩
  | settle peer hHeld operation hOwed => exact h.settled _ _
  | tracks peer hHeld hOwed more hMore =>
      refine (h.settled _ _).asked fun call hCall other hOther => ?_
      obtain ⟨hSame, hUse⟩ := trackCalls_uses call (hMore.subset hCall) other hOther
      exact ⟨hHeld.trans (congrArg some hSame), hUse⟩
  | answer peer hHeld hOwed =>
      refine ((h.settled _ _).asked fun call hCall other hOther => ?_).started _ _
      rcases List.mem_append.mp hCall with hTrack | hAnswer
      · obtain ⟨hSame, hUse⟩ := trackCalls_uses call hTrack other hOther
        exact ⟨hHeld.trans (congrArg some hSame), hUse⟩
      · cases List.mem_singleton.mp hAnswer
        exact ⟨hHeld.trans hOther, rfl⟩
  | setLocal peer hHeld hOwed sdp =>
      refine ((h.settled _ _).asked fun call hCall other hOther => ?_).started _ _
      cases List.mem_singleton.mp hCall
      exact ⟨hHeld.trans hOther, rfl⟩
  | close => exact h.closed
  | drop => exact h.dropped
  | stopThread thread =>
      refine h.asked fun call hCall peer hPeer => ?_
      cases List.mem_singleton.mp hCall
      cases hPeer

theorem Lives.moves {kept : Prop} {entries : List (String × MediaTrackHandler)} {p p' : Peers} (h : p.Lives)
    (hMoves : Relation.ReflTransGen (Move kept entries) p p') : p'.Lives := by
  induction hMoves with
  | refl => exact h
  | tail _ hMove ih => exact ih.move hMove

end Peers

/-- The peer connection was created. -/
def CreatedIn (calls : List RtcCall) (peer : Nat) : Prop :=
  ∃ servers, .createPeerConnectionOrError servers (some peer) ∈ calls

/-- Each call came in the life of its peer connection. -/
structure UsedWhileLive (calls : List RtcCall) : Prop where
  created : ∀ before after servers peer,
    calls = before ++ .createPeerConnectionOrError servers (some peer) :: after →
      ∀ call ∈ before, call.peer ≠ some peer
  used : ∀ before after call peer, calls = before ++ call :: after → call.peer = some peer →
    (call.isUse = true ∨ call = .close peer) →
      CreatedIn before peer ∧ .close peer ∉ before ∧ .release peer ∉ before
  released : ∀ before after peer, calls = before ++ .release peer :: after →
    CreatedIn before peer ∧ .release peer ∉ before

/-- What a stage says about the calls on a peer connection. -/
def PeerStage.Past (peer : Nat) (calls : List RtcCall) : PeerStage → Prop
  | .absent => calls = []
  | .live => CreatedIn calls peer ∧ .close peer ∉ calls ∧ .release peer ∉ calls
  | .closed => CreatedIn calls peer ∧ .release peer ∉ calls
  | .released => CreatedIn calls peer

theorem CreatedIn.append {calls : List RtcCall} {peer : Nat} (h : CreatedIn calls peer) (more : List RtcCall) :
    CreatedIn (calls ++ more) peer := by
  obtain ⟨servers, hMem⟩ := h
  exact ⟨servers, List.mem_append_left _ hMem⟩

theorem peerStage_past {calls : List RtcCall} {peer : Nat} {stage : PeerStage}
    (hStage : peerLife.stage calls peer = some stage) : stage.Past peer (peerLife.callsOn peer calls) := by
  refine Protocol.stage_induction (P := peerLife) (F := fun calls stage => PeerStage.Past peer calls stage) rfl ?_
    hStage
  intro calls stage call stage' hAbout hPast hNext
  cases stage with
  | absent =>
      cases call with
      | createPeerConnectionOrError servers result =>
          have hNone : calls = [] := hPast
          have hResult : result = some peer := hAbout
          cases hNext
          rw [hNone, hResult]
          exact ⟨⟨servers, by simp⟩, by simp, by simp⟩
      | _ => cases hNext
  | live =>
      obtain ⟨hCreated, hClose, hRelease⟩ := hPast
      cases call with
      | createPeerConnectionOrError servers result => cases hNext
      | close other =>
          cases hNext
          exact ⟨hCreated.append _, by simpa using hRelease⟩
      | release other =>
          cases hNext
          exact hCreated.append _
      | _ =>
          cases hNext
          exact ⟨hCreated.append _, by simpa using hClose, by simpa using hRelease⟩
  | closed =>
      cases call with
      | release other =>
          cases hNext
          exact hPast.1.append _
      | _ => cases hNext
  | released => cases call <;> cases hNext

/-- A log that follows `peerLife` uses the peer connections while they live. -/
theorem usedWhileLive_of_obeys {calls : List RtcCall} (h : peerLife.Obeys calls) : UsedWhileLive calls := by
  have hCreatedIn {before : List RtcCall} {peer : Nat} (hCreated : CreatedIn (peerLife.callsOn peer before) peer) :
      CreatedIn before peer := by
    obtain ⟨servers, hMem⟩ := hCreated
    exact ⟨servers, (Protocol.mem_callsOn_iff.mp hMem).1⟩
  have hNotIn {before : List RtcCall} {peer : Nat} {call : RtcCall} (hPeer : call.peer = some peer)
      (hNot : call ∉ peerLife.callsOn peer before) : call ∉ before :=
    fun hMem => hNot (Protocol.mem_callsOn_iff.mpr ⟨hMem, hPeer⟩)
  refine ⟨fun before after servers peer hCalls => ?_, fun before after call peer hCalls hPeer hCall => ?_,
    fun before after peer hCalls => ?_⟩
  · rw [hCalls] at h
    have hAbout : RtcCall.peer (.createPeerConnectionOrError servers (some peer)) = some peer := rfl
    obtain ⟨stage, stage', hStage, hNext⟩ := h.allowed hAbout
    -- Only an absent peer connection is created, and nothing has been called on it.
    cases stage with
    | absent =>
        have hNone : peerLife.callsOn peer before = [] := peerStage_past hStage
        intro call hMem hPeer
        have hCall : call ∈ peerLife.callsOn peer before := Protocol.mem_callsOn_iff.mpr ⟨hMem, hPeer⟩
        rw [hNone] at hCall
        cases hCall
    | _ => cases hNext
  · rw [hCalls] at h
    obtain ⟨stage, stage', hStage, hNext⟩ := h.allowed hPeer
    obtain rfl := peerStage_live_of_next hCall hNext
    obtain ⟨hCreated, hClose, hRelease⟩ := peerStage_past hStage
    exact ⟨hCreatedIn hCreated, hNotIn rfl hClose, hNotIn rfl hRelease⟩
  · rw [hCalls] at h
    have hAbout : RtcCall.peer (.release peer) = some peer := rfl
    obtain ⟨stage, stage', hStage, hNext⟩ := h.allowed hAbout
    have hPast := peerStage_past hStage
    cases stage with
    | absent => cases hNext
    | live => exact ⟨hCreatedIn hPast.1, hNotIn rfl hPast.2.2⟩
    | closed => exact ⟨hCreatedIn hPast.1, hNotIn rfl hPast.2⟩
    | released => cases hNext

namespace World

variable {σ : Type} {sc : ISignalingClient σ} {env : Environment}

theorem lives_run (signaling : σ) (states : Nat → DataState) (iceServers : List IceServerConfig)
    (events : List ConnectorEvent) :
    (peerSide (run (step sc env) (wired signaling states iceServers) events)).Lives := by
  refine run_invariant (I := fun w => (peerSide w).Lives) (A := fun _ => True) (fun w event _ h => ?_) ?_
    fun _ _ => trivial
  · have hMoves : Moves True w.connector.mediaTrackHandlersDict.entries w (step sc env w event) :=
      moves_step w event (fun _ => trivial) fun _ _ => trivial
    exact h.moves hMoves
  · refine ⟨fun peer hHeld => ?_, Protocol.staged_nil fun peer => ⟨fun _ => rfl, fun hHeld => ?_⟩⟩
    · cases hHeld
    · cases hHeld

/-- **No peer connection is used before it is created, or after it was closed or released**, and none is released
twice: in any run of the connector, whatever throws in it. -/
theorem peers_used_while_live (signaling : σ) (states : Nat → DataState) (iceServers : List IceServerConfig)
    (events : List ConnectorEvent) :
    UsedWhileLive (run (step sc env) (wired signaling states iceServers) events).webrtc.calls :=
  usedWhileLive_of_obeys (lives_run signaling states iceServers events).staged.obeys

end World

end MosaicCore
