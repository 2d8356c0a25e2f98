import MosaicCore.Core.MediaTracks

/-!
# The video sources of the handlers

Each negotiation asks every media track handler for a source (`CreateVideoTrackSource`), and each close calls its
`Close`.  `sourceUse` is the order in which a handler may rely on the two: it is asked again only after a `Close`.
Every run keeps to it as long as no `Close` throws and `InitializeWebRTC` is called neither in the middle of a session
nor after a shutdown (`sources_alternate`), because a source is in use only while a peer connection is held whose
tracks have been started, or after a shutdown, which closes no handler and after which nothing is asked any more
(`TracksStarted`).
-/

namespace MosaicCore

open EffectProgram EventRun Typestate

/-- Whether a handler has been asked for a source since its last `Close`. -/
inductive SourceStage
  | idle
  | asked
  deriving DecidableEq, Repr

/-- `CreateVideoTrackSource` only after a `Close`; `Close` at any time. -/
def SourceStage.next : SourceStage → Callback → Option SourceStage
  | .idle, .createVideoTrackSource _ _ => some .asked
  | .asked, .createVideoTrackSource _ _ => none
  | _, .closeMediaTrack _ => some .idle
  | _, .afterCreate _ => none

/-- The media track handler that a callback is made on. -/
def Callback.mediaTrack : Callback → Option String
  | .createVideoTrackSource trackName _ => some trackName
  | .closeMediaTrack trackName => some trackName
  | .afterCreate _ => none

/-- How the sources of a media track handler are used. -/
def sourceUse : Protocol String SourceStage Callback where
  about := Callback.mediaTrack
  start := .idle
  next := SourceStage.next

/-- The callbacks by which `CreateAllMediaTracks` asks for the sources. -/
def asking (entries : List (String × MediaTrackHandler)) : List Callback :=
  entries.map fun e => .createVideoTrackSource e.1 e.2.videoSource

/-- `Close` of some handlers. -/
theorem follow_closes (trackName : String) (stage : SourceStage) (names : List String) :
    sourceUse.follow stage (sourceUse.callsOn trackName (names.map .closeMediaTrack)) =
      some (if trackName ∈ names then .idle else stage) := by
  induction names generalizing stage with
  | nil => rfl
  | cons name names ih =>
      rw [List.map_cons, ← List.singleton_append, Protocol.callsOn_append, Protocol.callsOn_singleton,
        Protocol.follow_append]
      by_cases hSame : name = trackName
      · subst hSame
        have hAbout : sourceUse.about (.closeMediaTrack name) = some name := rfl
        have hNext : sourceUse.follow stage [.closeMediaTrack name] = some .idle := by
          cases stage <;> rfl
        rw [if_pos hAbout, hNext, Option.bind_some, ih]
        simp
      · have hAbout : sourceUse.about (.closeMediaTrack name) ≠ some trackName :=
          fun h => hSame (Option.some.inj h)
        have hOther : ¬ trackName = name := fun h => hSame h.symm
        rw [if_neg hAbout, Protocol.follow, Option.bind_some, ih]
        simp [hOther]

theorem callsOn_asking_eq_nil {trackName : String} {entries : List (String × MediaTrackHandler)}
    (hNone : trackName ∉ entries.map Prod.fst) : sourceUse.callsOn trackName (asking entries) = [] := by
  refine List.eq_nil_iff_forall_not_mem.mpr fun callback hCallback => hNone ?_
  obtain ⟨hMem, hAbout⟩ := Protocol.mem_callsOn_iff.mp hCallback
  obtain ⟨e, hEntry, rfl⟩ := List.mem_map.mp hMem
  have hName : e.1 = trackName := Option.some.inj hAbout
  rw [← hName]
  exact List.mem_map_of_mem hEntry

/-- Asking each handler once. -/
theorem follow_asking (trackName : String) {entries : List (String × MediaTrackHandler)}
    (hOnce : (entries.map Prod.fst).Nodup) :
    sourceUse.follow .idle (sourceUse.callsOn trackName (asking entries)) =
      some (if trackName ∈ entries.map Prod.fst then .asked else .idle) := by
  induction entries with
  | nil => rfl
  | cons e entries ih =>
      obtain ⟨hNew, hRest⟩ := List.nodup_cons.mp hOnce
      have hAsking : asking (e :: entries) =
          [.createVideoTrackSource e.1 e.2.videoSource] ++ asking entries := rfl
      rw [hAsking, Protocol.callsOn_append, Protocol.callsOn_singleton, Protocol.follow_append]
      by_cases hSame : e.1 = trackName
      · subst hSame
        have hAbout : sourceUse.about (.createVideoTrackSource e.1 e.2.videoSource) = some e.1 := rfl
        rw [if_pos hAbout, callsOn_asking_eq_nil hNew]
        simp [Protocol.follow, sourceUse, SourceStage.next]
      · have hAbout : sourceUse.about (.createVideoTrackSource e.1 e.2.videoSource) ≠ some trackName :=
          fun h => hSame (Option.some.inj h)
        have hOther : ¬ trackName = e.1 := fun h => hSame h.symm
        rw [if_neg hAbout, Protocol.follow, Option.bind_some, ih hRest]
        simp only [List.map_cons, List.mem_cons, hOther, false_or]

/-- With calm handlers, all are closed. -/
theorem Environment.ClosesCalmly.made {env : Environment} (h : env.ClosesCalmly) (names : List String) (place : Nat) :
    env.made place (names.map .closeMediaTrack) = names.map .closeMediaTrack ∧
      env.throwsAmong place (names.map .closeMediaTrack) = false := by
  induction names generalizing place with
  | nil => exact ⟨rfl, rfl⟩
  | cons name names ih =>
      obtain ⟨hMade, hThrows⟩ := ih (place + 1)
      have hCalm := h name place
      exact ⟨by simp [Environment.made, hCalm, hMade], by simp [Environment.throwsAmong, hCalm, hThrows]⟩

namespace World

variable {σ : Type} {sc : ISignalingClient σ} {env : Environment}

/-- The completion that starts the tracks has come, or nothing can come any more. -/
def TracksStarted (w : World σ) : Prop :=
  (∃ peer, w.manager.peerConnection = some peer ∧ (peer, .setRemoteDescription) ∉ w.webrtc.awaiting) ∨
    (w.manager.peerConnection = none ∧ (session w).state = .disconnected)

/-- Sources were asked for in turn, and those in use are of registered handlers, under a condition. -/
def AskedIf (P : Prop) (w : World σ) : Prop :=
  sourceUse.Staged (fun trackName stage =>
    stage = .asked → trackName ∈ w.connector.mediaTrackHandlersDict.keys ∧ P) w.callbacks

/-- The sources in use, between two events. -/
def SourcesInOrder (w : World σ) : Prop := AskedIf (TracksStarted w) w

theorem AskedIf.imp {P Q : Prop} {w : World σ} (h : AskedIf P w) (hPQ : P → Q) : AskedIf Q w := by
  intro trackName
  obtain ⟨stage, hStage, hAsked⟩ := h trackName
  exact ⟨stage, hStage, fun hUse => ⟨(hAsked hUse).1, hPQ (hAsked hUse).2⟩⟩

/-- What the media track handlers see, and what decides when they are asked. -/
theorem AskedIf.congr {P : Prop} {w w' : World σ} (h : AskedIf P w)
    (hCallbacks : ∀ trackName, sourceUse.callsOn trackName w'.callbacks = sourceUse.callsOn trackName w.callbacks)
    (hStay : HandlersStay w w') : AskedIf P w' := by
  intro trackName
  obtain ⟨stage, hStage, hAsked⟩ := h trackName
  refine ⟨stage, ?_, fun hUse => ⟨?_, (hAsked hUse).2⟩⟩
  · rw [Protocol.stage, hCallbacks]
    exact hStage
  · exact (hStay.map Prod.fst).subset (hAsked hUse).1

theorem AskedIf.of_handlerSide {P : Prop} {w w' : World σ} (h : AskedIf P w)
    (hSame : handlerSide w' = handlerSide w) : AskedIf P w' := by
  refine h.congr (fun trackName => ?_) (OpensOnly.of_handlerSide hSame : OpensOnly [] w w').handlersStay
  have hCallbacks : w'.callbacks = w.callbacks := congrArg HandlerSide.callbacks hSame
  rw [hCallbacks]

/-- `CloseAllMediaTracks` leaves no source in use. -/
theorem AskedIf.closes {P : Prop} {w : World σ} (h : AskedIf P w) :
    AskedIf False { w with callbacks := w.callbacks ++ closing w } := by
  refine Protocol.Staged.append h fun trackName stage hAsked => ⟨_, follow_closes trackName stage _, fun hUse => ?_⟩
  split_ifs at hUse with hMem
  exact absurd (hAsked hUse).1 hMem

/-- With no source in use. -/
theorem sourcesInOrder_of_idle {w : World σ} (h : AskedIf False w) : SourcesInOrder w :=
  h.imp False.elim

/-- A source is in use only while a peer connection is held, or when the connector has been shut down. -/
theorem SourcesInOrder.idle {w : World σ} (h : SourcesInOrder w) (hNone : w.manager.peerConnection = none)
    (hState : (session w).state ≠ .disconnected) : AskedIf False w := by
  refine h.imp fun hStarted => ?_
  rcases hStarted with ⟨peer, hHeld, -⟩ | ⟨-, hDisconnected⟩
  · rw [hNone] at hHeld
    cases hHeld
  · exact hState hDisconnected

/-- What keeps the handlers and what is held; nothing more is waited for, and a shut down connector stays so. -/
theorem SourcesInOrder.congr {w w' : World σ} (h : SourcesInOrder w)
    (hCallbacks : ∀ trackName, sourceUse.callsOn trackName w'.callbacks = sourceUse.callsOn trackName w.callbacks)
    (hStay : HandlersStay w w') (hHeld : w'.manager.peerConnection = w.manager.peerConnection)
    (hAwaiting : ∀ peer, (peer, .setRemoteDescription) ∈ w'.webrtc.awaiting →
      (peer, .setRemoteDescription) ∈ w.webrtc.awaiting)
    (hState : w.manager.peerConnection = none → (session w).state = .disconnected →
      (session w').state = .disconnected) : SourcesInOrder w' := by
  refine (AskedIf.congr h hCallbacks hStay).imp fun hStarted => ?_
  rcases hStarted with ⟨peer, hPeer, hOwed⟩ | ⟨hNone, hDisconnected⟩
  · exact .inl ⟨peer, hHeld.trans hPeer, fun hMem => hOwed (hAwaiting peer hMem)⟩
  · exact .inr ⟨hHeld.trans hNone, hState hNone hDisconnected⟩

/-- What keeps the callbacks, the handlers, the peer connection held, what is waited for, and the state. -/
theorem SourcesInOrder.of_eq {w w' : World σ} (h : SourcesInOrder w) (hCallbacks : w'.callbacks = w.callbacks)
    (hDict : w'.connector.mediaTrackHandlersDict = w.connector.mediaTrackHandlersDict)
    (hHeld : w'.manager.peerConnection = w.manager.peerConnection)
    (hAwaiting : w'.webrtc.awaiting = w.webrtc.awaiting) (hState : w'.stateManager = w.stateManager) :
    SourcesInOrder w' := by
  refine SourcesInOrder.congr h (fun trackName => by rw [hCallbacks]) ?_ hHeld (fun peer hMem => ?_) fun _ hDown => ?_
  · rw [HandlersStay, mediaTrackHandlers, mediaTrackHandlers, hDict]
  · rwa [hAwaiting] at hMem
  · have hSame : (session w').state = (session w).state := congrArg ConnectorStateManager.state hState
    exact hSame.trans hDown

/-- What touches neither the handlers, nor the peer connections, nor the session. -/
theorem SourcesInOrder.keeps {w w' : World σ} (h : SourcesInOrder w) (hHandlers : handlerSide w' = handlerSide w)
    (hPeers : peerSide w' = peerSide w) (hSession : session w' = session w) : SourcesInOrder w' := by
  refine SourcesInOrder.congr h (fun trackName => ?_)
    (OpensOnly.of_handlerSide hHandlers : OpensOnly [] w w').handlersStay (congrArg Peers.held hPeers)
    (fun peer hMem => ?_) fun _ hDisconnected => by rw [hSession]; exact hDisconnected
  · have hCallbacks : w'.callbacks = w.callbacks := congrArg HandlerSide.callbacks hHandlers
    rw [hCallbacks]
  · have hWebRtc : w'.webrtc = w.webrtc := congrArg Peers.webrtc hPeers
    rwa [hWebRtc] at hMem

variable (sc) in
/-- Setting a state while a peer connection is held, or DISCONNECTED. -/
theorem SourcesInOrder.setState {w : World σ} (h : SourcesInOrder w) (newState : ConnectorState)
    (hNew : w.manager.peerConnection = none → (session w).state = .disconnected → newState = .disconnected) :
    SourcesInOrder (finalState ((setState sc newState).run w)) := by
  have hHandlers : handlerSide (finalState ((World.setState sc newState).run w)) = handlerSide w :=
    keepsHandlers_setState newState w
  have hPeers : peerSide (finalState ((World.setState sc newState).run w)) = peerSide w :=
    leavesPeers_setState newState w
  refine SourcesInOrder.congr h (fun trackName => ?_)
    (OpensOnly.of_handlerSide hHandlers : OpensOnly [] _ _).handlersStay (congrArg Peers.held hPeers)
    (fun peer hMem => ?_) fun hNone hDisconnected => ?_
  · have hCallbacks := congrArg HandlerSide.callbacks hHandlers
    exact congrArg (sourceUse.callsOn trackName) hCallbacks
  · have hAwaiting := congrArg (fun p : Peers => p.webrtc.awaiting) hPeers
    exact hAwaiting ▸ hMem
  · rw [session_setState]
    exact hNew hNone hDisconnected

variable (sc) in
/-- The body of the `try` block leaves no source in use. -/
theorem closeHandlersAndDrop_idle (hCloses : env.ClosesCalmly) {w : World σ} (hIdle : connecting w = false)
    (h : SourcesInOrder w) (inside : Reentry) :
    Ends (closeHandlersAndDrop env (deliver sc env inside)) w fun _ w' => AskedIf False w' := by
  have hClosed : (closeAllMediaTracks env).run w = .ok () { w with callbacks := w.callbacks ++ closing w } := by
    obtain ⟨hMade, hThrows⟩ := hCloses.made w.connector.mediaTrackHandlersDict.keys w.callbacks.length
    rw [run_closeAllMediaTracks, closes, closing, hMade, hThrows]
    rfl
  refine ends_bind ⟨(), _, hClosed, ?_⟩
  have hData := (closeAllDataChannels_ends { w with callbacks := w.callbacks ++ closing w }).and_within
    keepsSession_closeAllDataChannels
  refine ends_bind (hData.imp fun _ w₂ hUnbound => ?_)
  obtain ⟨⟨_, hCallbacks, hMedia⟩, hSession⟩ := hUnbound
  have hIdle₂ : connecting w₂ = false := (connecting_congr (by rw [hSession]; rfl)).trans hIdle
  refine ⟨(), _, closeAndDrop_run _ _ hIdle₂ inside, AskedIf.of_handlerSide ?_ (handlerSide_dropped w₂)⟩
  refine (AskedIf.closes h).congr (fun trackName => by rw [hCallbacks]) ?_
  rw [HandlersStay, mediaTrackHandlers, mediaTrackHandlers, hMedia]

variable (sc) in
/-- `ClosePeerConnection` closes every handler, or throws before it has touched one. -/
theorem sourcesInOrder_closePeerConnection (hCloses : env.ClosesCalmly) {w : World σ} (h : SourcesInOrder w)
    (inside : Reentry) :
    SourcesInOrder (finalState ((closePeerConnection sc env (deliver sc env inside)).run w)) := by
  cases hConnecting : connecting w with
  | false =>
      rw [closePeerConnection_idle hConnecting]
      exact h
  | true =>
      have hNotDown : (session w).state ≠ .disconnected := by
        intro hDown
        rw [connecting_eq_false .disconnected hDown (by decide)] at hConnecting
        cases hConnecting
      have hFirst := h.setState sc .rtcDisconnecting fun _ hDown => absurd hDown hNotDown
      have hSession := session_setState sc .rtcDisconnecting w
      rw [closePeerConnection_eq hConnecting, finalState_bind]
      cases hSet : (setState sc .rtcDisconnecting).run w with
      | error e w₁ =>
          rw [hSet] at hFirst
          exact hFirst
      | ok _ w₁ =>
          rw [hSet, finalState_ok] at hFirst hSession
          have hIdle : connecting w₁ = false :=
            connecting_eq_false .rtcDisconnecting (congrArg Session.state hSession) (by decide)
          have hTried : Ends (catchException (closeHandlersAndDrop env (deliver sc env inside))) w₁
              fun _ w' => AskedIf False w' := ends_recover (closeHandlersAndDrop_idle sc hCloses hIdle hFirst inside)
          obtain ⟨_, w₂, hTry, hUnused⟩ := hTried
          have hLast : handlerSide (finalState ((setState sc .readyToConnect).run w₂)) = handlerSide w₂ :=
            keepsHandlers_setState .readyToConnect w₂
          dsimp only
          rw [finalState_bind, hTry]
          exact sourcesInOrder_of_idle (hUnused.of_handlerSide hLast)

/-- An offer finds no source in use, or is refused. -/
theorem sourcesInOrder_acceptOffer {w : World σ} (h : SourcesInOrder w) (hReady : ¬ HeldWhenReady w)
    (sdpOffer : String) (created : Bool) :
    SourcesInOrder (finalState ((acceptOffer sc sdpOffer created).run w)) := by
  by_cases hState : (session w).state = .readyToConnect
  · have hNone : w.manager.peerConnection = none := by
      cases hHeld : w.manager.peerConnection with
      | none => rfl
      | some peer => exact absurd ⟨hState, by rw [hHeld]; rfl⟩ hReady
    have hUnused := h.idle hNone (by simp [hState])
    exact sourcesInOrder_of_idle (hUnused.of_handlerSide (keepsHandlers_acceptOffer sdpOffer created w))
  · rw [acceptOffer_refused hState]
    exact h

/-! ## Asking for the sources -/

variable (env) in
/-- One handler is asked, and then its track is added or not. -/
theorem callbacks_createMediaTrack (trackName : String) (handler : MediaTrackHandler) (w : World σ) :
    (finalState ((createMediaTrack env trackName handler).run w)).callbacks =
      w.callbacks ++ [.createVideoTrackSource trackName handler.videoSource] := by
  have hCreate : KeepsHandlers (createVideoTrack trackName handler : Program (World σ) Bool) := by
    apply within_get_bind
    intro _
    refine within_ite ?_ (within_throw _)
    exact within_bind (keepsHandlers_rtcCall _) fun _ => within_pure _
  have hAdd : KeepsHandlers (addTrack trackName : Program (World σ) Unit) := by
    apply within_get_bind
    intro _
    exact within_bind (within_dereference _ _) fun _ => keepsHandlers_rtcCall _
  have hRest : KeepsHandlers (if ¬ handler.videoSource then pure ()
      else createVideoTrack trackName handler >>= fun created =>
        if created then addTrack trackName else pure () : Program (World σ) Unit) :=
    within_ite (within_pure _) (within_bind hCreate fun _ => within_ite hAdd (within_pure _))
  rw [createMediaTrack, finalState_bind, run_invoke]
  split
  next _ w₁ hRun =>
    split_ifs at hRun
    cases hRun
    exact congrArg HandlerSide.callbacks (hRest _)
  next _ w₁ hRun =>
    split_ifs at hRun
    cases hRun
    rfl

variable (env) in
/-- The handlers are asked one after the other, up to one that throws. -/
theorem callbacks_createMediaTracks (tracks : List (String × MediaTrackHandler)) (w : World σ) :
    ∃ n, (finalState ((tracks.forM fun e => createMediaTrack env e.1 e.2).run w)).callbacks =
      w.callbacks ++ asking (tracks.take n) := by
  induction tracks generalizing w with
  | nil => exact ⟨0, (List.append_nil _).symm⟩
  | cons track tracks ih =>
      have hFirst := callbacks_createMediaTrack env track.1 track.2 w
      have hLoop : finalState (((track :: tracks).forM fun e => createMediaTrack env e.1 e.2).run w) =
          finalState ((createMediaTrack env track.1 track.2 >>= fun _ =>
            tracks.forM fun e => createMediaTrack env e.1 e.2).run w) := rfl
      rw [hLoop, finalState_bind]
      cases hRun : (createMediaTrack env track.1 track.2).run w with
      | error e w₁ =>
          rw [hRun] at hFirst
          exact ⟨1, hFirst⟩
      | ok _ w₁ =>
          rw [hRun, finalState_ok] at hFirst
          obtain ⟨n, hRest⟩ := ih w₁
          refine ⟨n + 1, ?_⟩
          dsimp only
          rw [hRest, hFirst, List.append_assoc]
          rfl

variable (env) in
/-- From no source in use, `CreateAllMediaTracks` asks each registered handler at most once. -/
theorem askedIf_createAllMediaTracks {w : World σ} (h : AskedIf False w) :
    AskedIf True (finalState ((createAllMediaTracks env).run w)) := by
  have hOpens : Within (OpensOnly w.connector.mediaTrackHandlersDict.keys)
      (w.connector.mediaTrackHandlersDict.entries.forM fun e => createMediaTrack env e.1 e.2 :
        Program (World σ) Unit) :=
    within_forM fun e hMem => opensOnly_createMediaTrack (List.mem_map_of_mem hMem) e.2
  have hStay : HandlersStay w (finalState ((createAllMediaTracks env).run w)) := (hOpens w).handlersStay
  obtain ⟨n, hCallbacks⟩ := callbacks_createMediaTracks env w.connector.mediaTrackHandlersDict.entries w
  have hAsked : (finalState ((createAllMediaTracks env).run w)).callbacks =
      w.callbacks ++ asking (w.connector.mediaTrackHandlersDict.entries.take n) := hCallbacks
  rw [AskedIf, hAsked]
  refine Protocol.Staged.append h fun trackName stage hUnused => ?_
  have hIdle : stage = .idle := by
    cases stage with
    | idle => rfl
    | asked => exact absurd (hUnused rfl).2 id
  have hTake : ((w.connector.mediaTrackHandlersDict.entries.take n).map Prod.fst).Sublist
      w.connector.mediaTrackHandlersDict.keys := (List.take_sublist _ _).map _
  rw [hIdle]
  refine ⟨_, follow_asking trackName (w.connector.mediaTrackHandlersDict.keys_nodup.sublist hTake), fun hUse => ?_⟩
  split_ifs at hUse with hMem
  exact ⟨(hStay.map Prod.fst).subset (hTake.subset hMem), trivial⟩

/-- The routine keeps the sources in order. -/
def KeepsOrder (w w' : World σ) : Prop :=
  SourcesInOrder w → SourcesInOrder w'

instance isPreorder_keepsOrder : IsPreorder (World σ) KeepsOrder := isPreorder_invariant SourcesInOrder

theorem keepsOrder_rtcCall (call : RtcCall) : Within KeepsOrder (rtcCall call : Program (World σ) Unit) :=
  within_modify fun _ h =>
    SourcesInOrder.of_eq h rfl rfl rfl rfl rfl

/-- Any operation but the one that starts the tracks. -/
theorem keepsOrder_rtcStart (peer : Nat) {operation : Operation} (hOther : operation ≠ .setRemoteDescription) :
    Within KeepsOrder (rtcStart peer operation : Program (World σ) Unit) := by
  refine within_modify fun w h => SourcesInOrder.congr h (fun _ => rfl) (List.Sublist.refl _) rfl (fun other hMem => ?_)
    fun _ hDown => hDown
  rcases List.mem_append.mp hMem with hOld | hLast
  · exact hOld
  · exact absurd (congrArg Prod.snd (List.mem_singleton.mp hLast)).symm hOther

theorem keepsOrder_keeps {p : Program (World σ) Unit} (hHandlers : KeepsHandlers p) (hPeers : LeavesPeers p)
    (hSession : KeepsSession p) : Within KeepsOrder p :=
  fun w h => h.keeps (hHandlers w) (hPeers w) (hSession w)

theorem sourcesInOrder_paid {w : World σ} (h : SourcesInOrder w) (peer : Nat) (completion : Completion) :
    SourcesInOrder (paid w peer completion) :=
  SourcesInOrder.congr h (fun _ => rfl) (List.Sublist.refl _) rfl (fun _ hMem => List.mem_of_mem_erase hMem)
    fun _ hDown => hDown

/-- The completion that starts the tracks finds no source in use. -/
theorem sourcesInOrder_afterSetSessionDescription {w : World σ} {peer : Nat} (hUnused : AskedIf False w)
    (hHeld : w.manager.peerConnection = some peer) (hPaid : (peer, .setRemoteDescription) ∉ w.webrtc.awaiting) :
    SourcesInOrder (finalState ((afterSetSessionDescription env).run w)) := by
  have hAsked := askedIf_createAllMediaTracks env hUnused
  have hKeeps : Within (fun w w' : World σ => (w'.manager, w'.webrtc.awaiting) = (w.manager, w.webrtc.awaiting))
      (w.connector.mediaTrackHandlersDict.entries.forM fun e => createMediaTrack env e.1 e.2) :=
    within_forM fun _ _ => within_createMediaTrack (within_invoke fun _ => rfl) (within_modify fun _ => rfl)
      fun _ => within_modify fun _ => rfl
  have hSame : ((finalState ((createAllMediaTracks env).run w)).manager,
      (finalState ((createAllMediaTracks env).run w)).webrtc.awaiting) = (w.manager, w.webrtc.awaiting) := hKeeps w
  obtain ⟨hManager, hAwaiting⟩ := Prod.mk.inj hSame
  have hOrder : SourcesInOrder (finalState ((createAllMediaTracks env).run w)) := by
    refine hAsked.imp fun _ => .inl ⟨peer, ?_, ?_⟩
    · rw [hManager]
      exact hHeld
    · rw [hAwaiting]
      exact hPaid
  rw [afterSetSessionDescription, finalState_bind]
  cases hRun : (createAllMediaTracks env).run w with
  | error e w₁ =>
      rw [hRun] at hOrder
      exact hOrder
  | ok _ w₁ =>
      rw [hRun, finalState_ok] at hOrder
      have hAnswer : Within KeepsOrder (do
          let peer ← dereference "peer_connection_" (← get).manager.peerConnection
          rtcCall (.createAnswer peer)
          rtcStart peer .createAnswer : Program (World σ) Unit) := by
        apply within_get_bind
        intro _
        apply within_dereference_bind
        intro _
        apply within_bind
        · exact keepsOrder_rtcCall _
        intro _
        exact keepsOrder_rtcStart _ (by simp)
      exact hAnswer w₁ hOrder

variable (sc env) in
/-- A completion asks for the sources only when it is the one that starts the tracks. -/
theorem sourcesInOrder_complete (completion : Completion) {w : World σ} (hOnce : w.webrtc.awaiting.Nodup)
    (h : SourcesInOrder w) : SourcesInOrder (finalState ((complete sc env completion).run w)) := by
  cases hOwed : owes w completion with
  | false =>
      rw [complete_idle hOwed]
      exact h
  | true =>
      obtain ⟨peer, hHeld, hRun⟩ := complete_owed sc env hOwed
      have hMem : (peer, completion.operation) ∈ w.webrtc.awaiting := by
        simpa [owes, hHeld] using hOwed
      have hPaid := sourcesInOrder_paid h peer completion
      rw [hRun]
      cases completion with
      | setRemoteDescription ok =>
          cases ok with
          | false => exact hPaid
          | true =>
              have hUnused : AskedIf False w := by
                refine AskedIf.imp h fun hStarted => ?_
                rcases hStarted with ⟨other, hOther, hNotOwed⟩ | ⟨hNone, -⟩
                · rw [hHeld] at hOther
                  cases hOther
                  exact hNotOwed hMem
                · rw [hHeld] at hNone
                  cases hNone
              have hSettled : (peer, .setRemoteDescription) ∉
                  (paid w peer (.setRemoteDescription true)).webrtc.awaiting := fun hStill =>
                (hOnce.mem_erase_iff.mp hStill).1 rfl
              exact sourcesInOrder_afterSetSessionDescription
                (AskedIf.congr hUnused (fun _ => rfl) (List.Sublist.refl _)) hHeld hSettled
      | createAnswer sdp =>
          cases sdp with
          | none => exact hPaid
          | some sdp =>
              have hAnswer : Within KeepsOrder (afterCreateSdpAnswer ⟨peer, sdp⟩ : Program (World σ) Unit) :=
                within_afterCreateSdpAnswer (fun _ => keepsOrder_rtcCall _) fun _ => keepsOrder_rtcStart _ (by simp)
              exact hAnswer _ hPaid
      | setLocalDescription desc ok =>
          cases ok with
          | false => exact hPaid
          | true =>
              have hSent : Within KeepsOrder (afterSetLocalDescription sc desc) :=
                keepsOrder_keeps (keepsHandlers_callSignaling _) (leavesPeers_callSignaling _)
                  (keepsSession_callSignaling _)
              exact hSent _ hPaid

/-! ## Every event -/

/-- The sources are in order, and the connector is down. -/
def DownInOrder (w : World σ) : Prop :=
  (session w).state = .disconnected ∧ SourcesInOrder w

theorem sourcesInOrder_shuttingDown {w : World σ} (h : SourcesInOrder w) (inside : Reentry) :
    SourcesInOrder (finalState ((shuttingDown sc env inside).run w)) := by
  have hFirst := h.setState sc .disconnected fun _ _ => rfl
  have hSession := session_setState sc .disconnected w
  rw [shuttingDown, finalState_bind]
  cases hSet : (setState sc .disconnected).run w with
  | error e w₁ =>
      rw [hSet] at hFirst
      exact hFirst
  | ok _ w₁ =>
      rw [hSet, finalState_ok] at hFirst hSession
      -- From here on the state is DISCONNECTED, so that nothing is closed.
      have hRest : Within (fun w w' : World σ => DownInOrder w → DownInOrder w')
          (stopSignalingServer sc >>= fun _ => closePeerConnection sc env (deliver sc env inside) >>= fun _ =>
            destroyPeerConnectionManager) := by
        apply within_bind
        · intro w₂ hDown
          refine ⟨?_, keepsOrder_keeps keepsHandlers_stopSignalingServer leavesPeers_stopSignalingServer
            keepsSession_stopSignalingServer w₂ hDown.2⟩
          rw [keepsSession_stopSignalingServer w₂]
          exact hDown.1
        intro _
        apply within_bind
        · intro w₂ hDown
          rw [closePeerConnection_idle (connecting_eq_false .disconnected hDown.1 (by decide))]
          exact hDown
        intro _
        apply within_bind
        · intro w₂ hDown
          have hDropped := session_assignPeerConnection_none w₂
          have hState : (session (finalState ((assignPeerConnection none).run w₂))).state = .disconnected := by
            rw [hDropped]
            exact hDown.1
          refine ⟨hState, (AskedIf.of_handlerSide (P := True) ?_ (keepsHandlers_assignPeerConnection none w₂)).imp
            fun _ => .inr ⟨congrArg Session.peerConnection hDropped, hState⟩⟩
          exact AskedIf.imp hDown.2 fun _ => trivial
        intro _
        refine within_destroyFactoryAndThreads (fun thread => within_modify fun w₂ hDown => ⟨hDown.1, ?_⟩)
          fun w₂ manager hHeld _ hDown => ⟨hDown.1, ?_⟩
        · exact SourcesInOrder.of_eq hDown.2 rfl rfl rfl rfl rfl
        · exact SourcesInOrder.of_eq hDown.2 rfl rfl hHeld rfl rfl
      exact (hRest w₁ ⟨by rw [hSession], hFirst⟩).2

/-- `InitializeWebRTC` is not called while a peer connection is held, nor after a shutdown. -/
def InitializesUnused (w : World σ) : ConnectorEvent → Prop
  | .initializeWebRTC _ => w.manager.peerConnection = none ∧ w.stateManager.state ≠ .disconnected
  | _ => True

theorem InitializesUnused.unheld {w : World σ} {event : ConnectorEvent} (h : InitializesUnused w event) :
    InitializesUnheld w event := by
  cases event with
  | initializeWebRTC factory => exact h.1
  | _ => trivial

variable (sc) in
/-- **Every event keeps the sources in order.** -/
theorem sourcesInOrder_step (hCloses : env.ClosesCalmly) {w : World σ} {event : ConnectorEvent}
    (hEvent : InitializesUnused w event) (hInOrder : InOrder w) (h : SourcesInOrder w) :
    SourcesInOrder (step sc env w event) := by
  have hClose (inside : Reentry) : Within KeepsOrder (closePeerConnection sc env (deliver sc env inside)) :=
    fun _ hBefore => sourcesInOrder_closePeerConnection sc hCloses hBefore inside
  cases event with
  | initializeWebRTC factory =>
      have hHandlers : handlerSide (step sc env w (.initializeWebRTC factory)) = handlerSide w :=
        keepsHandlers_initializeWebRTC factory w
      exact sourcesInOrder_of_idle ((h.idle hEvent.1 hEvent.2).of_handlerSide hHandlers)
  | addDataChannelHandler label =>
      have hAdd : Within KeepsOrder (addDataChannelHandler label : Program (World σ) Unit) :=
        within_addDataChannelHandler fun _ hBefore => SourcesInOrder.of_eq hBefore rfl rfl rfl rfl rfl
      exact hAdd w h
  | addMediaTrackHandler trackName handler =>
      have hAdd : Within KeepsOrder (addMediaTrackHandler trackName handler : Program (World σ) Unit) :=
        within_addMediaTrackHandler fun w hBefore => SourcesInOrder.congr hBefore (fun _ => rfl)
          (w.connector.mediaTrackHandlersDict.sublist_insert _ _) rfl (fun _ hMem => hMem) fun _ hDown => hDown
      exact hAdd w h
  | sdpOffer sdpOffer created inside =>
      cases hHeld : w.manager.peerConnection with
      | none =>
          have hRun : step sc env w (.sdpOffer sdpOffer created inside) =
              finalState ((acceptOffer sc sdpOffer created).run w) :=
            congrArg finalState (handleSdpOffer_none hHeld sdpOffer created inside)
          rw [hRun]
          exact sourcesInOrder_acceptOffer h hInOrder.ready _ _
      | some peer =>
          have hRun : step sc env w (.sdpOffer sdpOffer created inside) =
              finalState ((closePeerConnection sc env (deliver sc env inside) >>= fun _ =>
                acceptOffer sc sdpOffer created).run w) :=
            congrArg finalState (handleSdpOffer_some (by rw [hHeld]; rfl) sdpOffer created inside)
          have hClosed := hClose inside w h
          have hReady := not_heldWhenReady_close sc hCloses hInOrder.ready inside
          rw [hRun, finalState_bind]
          cases hAfter : (closePeerConnection sc env (deliver sc env inside)).run w with
          | error e w₁ =>
              rw [hAfter] at hClosed
              exact hClosed
          | ok _ w₁ =>
              rw [hAfter, finalState_ok] at hClosed hReady
              exact sourcesInOrder_acceptOffer hClosed hReady _ _
  | closeMessage inside => exact hClose inside w h
  | iceCandidateMessage candidate => exact within_handleIceCandidate (fun _ => keepsOrder_rtcCall _) w h
  | complete completion => exact sourcesInOrder_complete sc env completion hInOrder.negotiates.owed_once h
  | connectionChange newState inside =>
      cases hHeld : w.manager.peerConnection with
      | none =>
          have hStay : step sc env w (.connectionChange newState inside) = w :=
            congrArg finalState (fromPeer_none hHeld _)
          rw [hStay]
          exact h
      | some peer =>
          have hRun : step sc env w (.connectionChange newState inside) =
              finalState ((onConnectionChange sc env newState (deliver sc env inside)).run w) :=
            congrArg finalState (fromPeer_some hHeld _)
          rw [hRun]
          cases newState with
          | kNew => exact h
          | kConnecting => exact h
          | kConnected =>
              refine h.setState sc .rtcConnected fun hNone _ => ?_
              rw [hHeld] at hNone
              cases hNone
          | ended state => cases state <;> exact hClose inside w h
  | iceCandidate candidate =>
      have hSend : Within KeepsOrder (handle sc env (.iceCandidate candidate)) :=
        within_iceCandidate fun _ _ _ => keepsOrder_keeps (keepsHandlers_callSignaling _)
          (leavesPeers_callSignaling _) (keepsSession_callSignaling _)
      exact hSend w h
  | dataChannel label =>
      have hChannel : Within KeepsOrder (deliverDataChannel env label : Program (World σ) Unit) := by
        refine within_deliverDataChannel (fun _ hBefore => SourcesInOrder.of_eq hBefore rfl rfl rfl rfl rfl)
          fun channel => within_onDataChannel (fun p => within_onDataChannelHandler fun _ _ hBefore => ?_)
              (within_invoke fun w hBefore => ?_)
        · exact SourcesInOrder.of_eq hBefore rfl rfl rfl rfl rfl
        · refine SourcesInOrder.congr hBefore (fun trackName => ?_) (List.Sublist.refl _) rfl (fun _ hMem => hMem)
            fun _ hDown => hDown
          have hAbout : sourceUse.about (.afterCreate label) ≠ some trackName := by
            simp [sourceUse, Callback.mediaTrack]
          rw [Protocol.callsOn_append, Protocol.callsOn_singleton, if_neg hAbout, List.append_nil]
      exact hChannel w h
  | channelState channel state =>
      exact SourcesInOrder.of_eq h rfl rfl rfl rfl rfl
  | stateBroadcast =>
      exact keepsOrder_keeps keepsHandlers_sendState leavesPeers_sendState keepsSession_sendState w h
  | shuttingDown inside => exact sourcesInOrder_shuttingDown h inside

theorem sourcesInOrder_wired (signaling : σ) (states : Nat → DataState) (iceServers : List IceServerConfig) :
    SourcesInOrder (wired signaling states iceServers) :=
  sourcesInOrder_of_idle (Protocol.staged_nil fun trackName hUse => by cases hUse)

/-- **A handler is asked for a source again only after its `Close`**: in any run in which no `Close` of a handler
throws, whatever else does, and `InitializeWebRTC` is not called while a peer connection is held, nor after a
shutdown. -/
theorem sources_alternate (hCloses : env.ClosesCalmly) (signaling : σ) (states : Nat → DataState)
    (iceServers : List IceServerConfig) {events : List ConnectorEvent}
    (hEvents : EachStep (step sc env) InitializesUnused (wired signaling states iceServers) events) :
    sourceUse.Obeys (run (step sc env) (wired signaling states iceServers) events).callbacks := by
  have hBoth := hEvents.keeps (I := fun w => InOrder w ∧ SourcesInOrder w)
    (fun _ _ h hEvent =>
      ⟨inOrder_step hCloses hEvent.unheld h.1, sourcesInOrder_step sc hCloses hEvent h.1 h.2⟩)
    ⟨inOrder_wired signaling states iceServers, sourcesInOrder_wired signaling states iceServers⟩
  exact Protocol.Staged.obeys hBoth.2

/-- Two sessions with one camera, on a connector initialized twice, and a shutdown. -/
theorem sources_alternate_two_sessions :
    sourceUse.Obeys
      (run (step .offline .calm) (wired () (fun _ => .kOpen) [])
        [.initializeWebRTC true, .initializeWebRTC true, .addMediaTrackHandler "camera" {}, .sdpOffer "v=0" true .done,
          .complete (.setRemoteDescription true), .sdpOffer "v=1" true .done, .complete (.setRemoteDescription true),
          .shuttingDown .done]).callbacks :=
  sources_alternate Environment.neverThrows_calm.closesCalmly () (fun _ => .kOpen) []
    ⟨⟨rfl, by decide⟩, ⟨rfl, by decide⟩, trivial, trivial, trivial, trivial, trivial, trivial, trivial⟩

end World

end MosaicCore
