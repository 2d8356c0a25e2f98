import Mathlib.Data.List.Induction
import MosaicCore.Core.Session

/-!
# What the routines do to the handlers

`HandlerSide` is the part of the object graph that handlers see: the callbacks made on them, their channels
and the two dictionaries.  State changes, sends and peer connections do not touch it (`KeepsHandlers`).  What
does touch it:

* `CreateAllMediaTracks` opens sources of registered handlers only (`OpensOnly`);
* `CloseAllMediaTracks` calls `Close` on every registered handler, `CloseAllDataChannels` unbinds every
  registered one, so that after both the handler side is `Tidy`.
-/

namespace MosaicCore

open EffectProgram

/-- The callbacks made, the channels and the dictionaries. -/
structure HandlerSide where
  callbacks : List Callback
  channels : Channels DataBuffer
  connector : MosaicConnector

/-- The callbacks that a loop over handlers makes, the first at the given place: one that throws is the
last. -/
def Environment.made (env : Environment) : Nat → List Callback → List Callback
  | _, [] => []
  | place, callback :: callbacks =>
      if env.throws callback place then [callback]
      else callback :: env.made (place + 1) callbacks

/-- One of the callbacks of a loop throws. -/
def Environment.throwsAmong (env : Environment) : Nat → List Callback → Bool
  | _, [] => false
  | place, callback :: callbacks =>
      env.throws callback place || env.throwsAmong (place + 1) callbacks

theorem Environment.NeverThrows.made {env : Environment} (h : env.NeverThrows) (place : Nat)
    (callbacks : List Callback) : env.made place callbacks = callbacks := by
  induction callbacks generalizing place with
  | nil => rfl
  | cons callback callbacks ih => simp [Environment.made, h callback place, ih]

theorem Environment.NeverThrows.throwsAmong {env : Environment} (h : env.NeverThrows) (place : Nat)
    (callbacks : List Callback) : env.throwsAmong place callbacks = false := by
  induction callbacks generalizing place with
  | nil => rfl
  | cons callback callbacks ih => simp [Environment.throwsAmong, h callback place, ih]

/-- Calling `Close` on the handlers of some tracks closes their sources and no others. -/
theorem sourceOpen_append_close (trackName : String) (callbacks : List Callback)
    (trackNames : List String) :
    sourceOpen trackName (callbacks ++ trackNames.map .closeMediaTrack) =
      if trackName ∈ trackNames then false else sourceOpen trackName callbacks := by
  induction trackNames using List.reverseRecOn with
  | nil => simp
  | append_singleton trackNames last ih =>
      rw [List.map_append, ← List.append_assoc, List.map_singleton, sourceOpen_append_singleton, ih]
      by_cases hLast : last = trackName
      · simp [hLast]
      · have hLast' : ¬ trackName = last := fun h => hLast h.symm
        simp [hLast, hLast']

namespace World

variable {σ α : Type}

/-- The handlers' part of the object graph. -/
def handlerSide (w : World σ) : HandlerSide where
  callbacks := w.callbacks
  channels := w.channels
  connector := w.connector

/-- The routine does not touch the handlers' part. -/
def KeepsHandlers (p : Program (World σ) α) : Prop :=
  Within (fun w w' => handlerSide w' = handlerSide w) p

/-- No source is open and no registered handler has a channel. -/
structure Tidy (w : World σ) : Prop where
  sources : ∀ trackName, sourceOpen trackName w.callbacks = false
  channels : ∀ label impl, w.connector.dataChannelHandlersDict.find? label = some impl →
    impl.dcInterface = none

/-- Only registered handlers have open sources. -/
def Registered (w : World σ) : Prop :=
  ∀ trackName, sourceOpen trackName w.callbacks = true →
    trackName ∈ w.connector.mediaTrackHandlersDict.keys

theorem Tidy.congr {w w' : World σ} (hSame : handlerSide w' = handlerSide w) (h : Tidy w) : Tidy w' where
  sources := by
    have hCallbacks : w'.callbacks = w.callbacks := congrArg HandlerSide.callbacks hSame
    rw [hCallbacks]
    exact h.sources
  channels := by
    have hConnector : w'.connector = w.connector := congrArg HandlerSide.connector hSame
    rw [hConnector]
    exact h.channels

theorem Registered.congr {w w' : World σ} (hSame : handlerSide w' = handlerSide w)
    (h : Registered w) : Registered w' := by
  have hCallbacks : w'.callbacks = w.callbacks := congrArg HandlerSide.callbacks hSame
  have hConnector : w'.connector = w.connector := congrArg HandlerSide.connector hSame
  rw [Registered, hCallbacks, hConnector]
  exact h

theorem Tidy.registered {w : World σ} (h : Tidy w) : Registered w := by
  intro trackName hOpen
  rw [h.sources trackName] at hOpen
  exact absurd hOpen (by simp)

variable {sc : ISignalingClient σ} {env : Environment}

/-! ## Routines that do not touch the handlers -/

theorem keepsHandlers_onSignaling (p : Program σ Unit) : KeepsHandlers (onSignaling p) :=
  within_zoom (S := fun _ _ => True) (fun _ => trivial) fun _ _ _ => rfl

theorem keepsHandlers_rtcCall (call : RtcCall) : KeepsHandlers (rtcCall call : Program (World σ) Unit) :=
  within_modify fun _ => rfl

theorem keepsHandlers_rtcStart (peer : Nat) (operation : Operation) :
    KeepsHandlers (rtcStart peer operation : Program (World σ) Unit) :=
  within_modify fun _ => rfl

theorem keepsHandlers_sendState : KeepsHandlers (sendState sc) :=
  within_sendState fun _ => keepsHandlers_onSignaling _

theorem keepsHandlers_setState (newState : ConnectorState) : KeepsHandlers (setState sc newState) :=
  within_setState (fun _ => rfl) keepsHandlers_sendState

theorem keepsHandlers_assignPeerConnection (peer : Option Nat) :
    KeepsHandlers (assignPeerConnection peer : Program (World σ) Unit) :=
  within_assignPeerConnection (fun _ => keepsHandlers_rtcCall _) fun _ => rfl

theorem keepsHandlers_createPeerConnection (created : Bool) :
    KeepsHandlers (createPeerConnection created : Program (World σ) Unit) :=
  within_createPeerConnection (fun _ => rfl) (fun _ _ => keepsHandlers_rtcCall _) (fun _ => rfl)
    fun _ => keepsHandlers_assignPeerConnection _

theorem keepsHandlers_setRemoteDescription (sdpOffer : String) :
    KeepsHandlers (setRemoteDescription sc sdpOffer) :=
  within_setRemoteDescription (keepsHandlers_setState _) (fun _ => keepsHandlers_rtcCall _)
    fun _ => keepsHandlers_rtcStart _ _

theorem keepsHandlers_acceptOffer (sdpOffer : String) (created : Bool) :
    KeepsHandlers (acceptOffer sc sdpOffer created) :=
  within_acceptOffer (keepsHandlers_setState _) (keepsHandlers_createPeerConnection _)
    (keepsHandlers_setRemoteDescription _)

theorem keepsHandlers_callSignaling (p : Program σ Unit) : KeepsHandlers (callSignaling p) :=
  within_callSignaling (keepsHandlers_onSignaling _)

theorem keepsHandlers_initializeWebRTC (factory : Bool) :
    KeepsHandlers (initializeWebRTC sc factory) := by
  apply within_bind
  · exact within_modify fun _ => rfl
  intro _
  exact keepsHandlers_setState _

theorem keepsHandlers_handleIceCandidate (candidate : CandidateInit) :
    KeepsHandlers (handleIceCandidateFromSignaling candidate : Program (World σ) Unit) :=
  within_handleIceCandidate fun _ => keepsHandlers_rtcCall _

theorem keepsHandlers_iceCandidate (candidate : Option CandidateInit) :
    KeepsHandlers (handle sc env (.iceCandidate candidate)) :=
  within_iceCandidate fun _ _ _ => keepsHandlers_callSignaling _

theorem keepsHandlers_stopSignalingServer : KeepsHandlers (stopSignalingServer sc) :=
  within_stopSignalingServer (keepsHandlers_onSignaling _) fun _ => rfl

theorem keepsHandlers_destroyFactoryAndThreads :
    KeepsHandlers (destroyFactoryAndThreads : Program (World σ) Unit) :=
  within_destroyFactoryAndThreads (fun _ => keepsHandlers_rtcCall _) fun _ _ _ _ => rfl

theorem handlerSide_dropped (w : World σ) : handlerSide (dropped w) = handlerSide w := by
  cases hPeer : w.manager.peerConnection with
  | none => simp [dropped, hPeer]
  | some peer => simp [dropped, hPeer, handlerSide]

/-! ## Callbacks -/

variable (env) in
theorem run_invoke (callback : Callback) (w : World σ) : (invoke env callback).run w =
    if env.throws callback w.callbacks.length then
      .error (.exception "handler") { w with callbacks := w.callbacks ++ [callback] }
    else .ok () { w with callbacks := w.callbacks ++ [callback] } := by
  by_cases hThrows : env.throws callback w.callbacks.length = true
  · simp [invoke, hThrows]
  · simp [invoke, hThrows]

/-- A callback is made whether it then throws or not. -/
theorem finalState_invoke (callback : Callback) (w : World σ) :
    finalState ((invoke env callback).run w) = { w with callbacks := w.callbacks ++ [callback] } := by
  rw [run_invoke]
  split_ifs <;> rfl

/-- A loop of callbacks ends early exactly if one of them throws. -/
theorem run_forM_invoke (callbacks : List Callback) (w : World σ) :
    (callbacks.forM (invoke env)).run w =
      if env.throwsAmong w.callbacks.length callbacks then
        .error (.exception "handler")
          { w with callbacks := w.callbacks ++ env.made w.callbacks.length callbacks }
      else .ok () { w with callbacks := w.callbacks ++ env.made w.callbacks.length callbacks } := by
  induction callbacks generalizing w with
  | nil => simp [Environment.made, Environment.throwsAmong]
  | cons callback callbacks ih =>
      show (invoke env callback >>= fun _ => callbacks.forM (invoke env)).run w = _
      rw [EStateM.run_bind, run_invoke]
      by_cases hThrows : env.throws callback w.callbacks.length = true
      · simp [Environment.made, Environment.throwsAmong, hThrows]
      · simp only [hThrows, Bool.false_eq_true, if_false, Environment.made, Environment.throwsAmong,
          Bool.false_or]
        rw [ih, List.length_append, List.append_assoc]
        rfl

/-- The callbacks by which `CloseAllMediaTracks` closes the registered handlers. -/
def closing (w : World σ) : List Callback :=
  w.connector.mediaTrackHandlersDict.keys.map .closeMediaTrack

/-- The callbacks it makes. -/
def closes (env : Environment) (w : World σ) : List Callback :=
  env.made w.callbacks.length (closing w)

variable (env) in
/-- `CloseAllMediaTracks` makes the callbacks `closes` and touches nothing else. -/
theorem run_closeAllMediaTracks (w : World σ) : (closeAllMediaTracks env).run w =
    if env.throwsAmong w.callbacks.length (closing w) then
      .error (.exception "handler") { w with callbacks := w.callbacks ++ closes env w }
    else .ok () { w with callbacks := w.callbacks ++ closes env w } := by
  rw [closes, ← run_forM_invoke]
  show (w.connector.mediaTrackHandlersDict.keys.forM fun trackName =>
    invoke env (.closeMediaTrack trackName)).run w = _
  rw [closing, List.forM_eq_forM, List.forM_eq_forM, List.forM_map]

theorem closeAllMediaTracks_run (hHandlers : env.NeverThrows) (w : World σ) :
    (closeAllMediaTracks env).run w = .ok () { w with callbacks := w.callbacks ++ closing w } := by
  rw [run_closeAllMediaTracks, hHandlers.throwsAmong, closes, hHandlers.made]
  rfl

/-- The media track handlers stay, and no sources open but those of the named tracks. -/
def OpensOnly (trackNames : List String) (w w' : World σ) : Prop :=
  w'.connector.mediaTrackHandlersDict = w.connector.mediaTrackHandlersDict ∧
    ∀ trackName, sourceOpen trackName w'.callbacks = true →
      sourceOpen trackName w.callbacks = true ∨ trackName ∈ trackNames

instance (trackNames : List String) : IsPreorder (World σ) (OpensOnly trackNames) where
  refl _ := ⟨rfl, fun _ hOpen => .inl hOpen⟩
  trans _ _ _ hFirst hSecond := by
    refine ⟨hSecond.1.trans hFirst.1, fun trackName hOpen => ?_⟩
    rcases hSecond.2 trackName hOpen with hBefore | hNamed
    · exact hFirst.2 trackName hBefore
    · exact .inr hNamed

theorem OpensOnly.of_handlerSide {trackNames : List String} {w w' : World σ}
    (hSame : handlerSide w' = handlerSide w) : OpensOnly trackNames w w' := by
  have hCallbacks : w'.callbacks = w.callbacks := congrArg HandlerSide.callbacks hSame
  have hConnector : w'.connector = w.connector := congrArg HandlerSide.connector hSame
  refine ⟨by rw [hConnector], fun trackName hOpen => .inl ?_⟩
  rwa [hCallbacks] at hOpen

theorem KeepsHandlers.opensOnly {p : Program (World σ) α} (h : KeepsHandlers p)
    (trackNames : List String) : Within (OpensOnly trackNames) p :=
  h.mono fun _ _ => OpensOnly.of_handlerSide

theorem opensOnly_createMediaTrack {trackName : String} {trackNames : List String}
    (hNamed : trackName ∈ trackNames) (handler : MediaTrackHandler) :
    Within (OpensOnly trackNames)
      (createMediaTrack env trackName handler : Program (World σ) Unit) := by
  have hSource : Within (OpensOnly trackNames)
      (invoke env (.createVideoTrackSource trackName handler.videoSource) : Program (World σ) Unit) := by
    intro w
    rw [finalState_invoke]
    refine ⟨rfl, fun other hOpen => ?_⟩
    rw [sourceOpen_append_singleton] at hOpen
    by_cases hOther : other = trackName
    · exact .inr (hOther ▸ hNamed)
    · have hOther' : ¬ trackName = other := fun h => hOther h.symm
      simp only [Callback.createVideoTrackSource.injEq, hOther', false_and, if_false,
        reduceCtorEq] at hOpen
      exact .inl hOpen
  exact within_createMediaTrack hSource ((keepsHandlers_rtcCall _).opensOnly _)
    fun _ => (keepsHandlers_rtcCall _).opensOnly _

/-- `AfterSetSessionDescription` opens sources of registered handlers only, whatever throws. -/
theorem afterSetSessionDescription_opensOnly (w : World σ) :
    OpensOnly w.connector.mediaTrackHandlersDict.keys w
      (finalState ((afterSetSessionDescription env).run w)) := by
  have hLoop : Within (OpensOnly w.connector.mediaTrackHandlersDict.keys)
      (w.connector.mediaTrackHandlersDict.entries.forM fun e => createMediaTrack env e.1 e.2 :
        Program (World σ) Unit) :=
    within_forM fun e hMem => opensOnly_createMediaTrack (List.mem_map_of_mem hMem) e.2
  have hRest : Within (OpensOnly w.connector.mediaTrackHandlersDict.keys) (do
      let peer ← dereference "peer_connection_" (← get).manager.peerConnection
      rtcCall (.createAnswer peer)
      rtcStart peer .createAnswer : Program (World σ) Unit) :=
    by
    apply within_get_bind
    intro _
    apply within_dereference_bind
    intro _
    apply within_bind
    · exact (keepsHandlers_rtcCall _).opensOnly _
    intro _
    exact (keepsHandlers_rtcStart _ _).opensOnly _
  exact within_bind hLoop (fun _ => hRest) w

theorem opensOnly_onDataChannelHandler (label : String) (p : Program (Endpoint DataBuffer) Unit) :
    Within (OpensOnly []) (onDataChannelHandler label p : Program (World σ) Unit) :=
  within_onDataChannelHandler fun _ _ => ⟨rfl, fun _ hOpen => .inl hOpen⟩

/-- A callback other than `CreateVideoTrackSource` opens no source. -/
theorem opensOnly_invoke {callback : Callback}
    (hOther : ∀ trackName, callback ≠ .createVideoTrackSource trackName true) :
    Within (OpensOnly []) (invoke env callback : Program (World σ) Unit) := by
  intro w
  rw [finalState_invoke]
  refine ⟨rfl, fun trackName hOpen => .inl ?_⟩
  rw [sourceOpen_append_singleton, if_neg (hOther trackName)] at hOpen
  by_cases hClose : callback = .closeMediaTrack trackName
  · simp [hClose] at hOpen
  · simpa [hClose] using hOpen

/-- A delivered data channel opens no source. -/
theorem deliverDataChannel_opensOnly (label : String) :
    Within (OpensOnly []) (deliverDataChannel env label : Program (World σ) Unit) := by
  apply within_deliverDataChannel
  · exact fun _ => ⟨rfl, fun _ hOpen => .inl hOpen⟩
  intro channel
  exact within_onDataChannel (fun _ => opensOnly_onDataChannelHandler _ _) (opensOnly_invoke (by simp))

/-- A close opens no source, whatever throws in it. -/
theorem opensOnly_closePeerConnection {during : Program (World σ) Unit}
    (hDuring : Within (OpensOnly []) during) :
    Within (OpensOnly []) (closePeerConnection sc env during) := by
  apply within_closePeerConnection
  · exact fun _ => (keepsHandlers_setState _).opensOnly _
  · exact within_closeAllMediaTracks fun _ => opensOnly_invoke (by simp)
  · exact within_closeAllDataChannels fun _ => opensOnly_onDataChannelHandler _ _
  · exact within_closeAndDrop (fun _ => (keepsHandlers_rtcCall _).opensOnly _) hDuring
      ((keepsHandlers_assignPeerConnection _).opensOnly _)

theorem opensOnly_deliver (reentry : Reentry) : Within (OpensOnly []) (deliver sc env reentry) :=
  within_deliver (fun _ => opensOnly_closePeerConnection) reentry

theorem Registered.opensOnly {w w' : World σ} (h : Registered w) {trackNames : List String}
    (hNames : ∀ trackName ∈ trackNames, trackName ∈ w.connector.mediaTrackHandlersDict.keys)
    (hOpens : OpensOnly trackNames w w') : Registered w' := by
  intro trackName hOpen
  rw [hOpens.1]
  rcases hOpens.2 trackName hOpen with hBefore | hNamed
  · exact h trackName hBefore
  · exact hNames trackName hNamed

/-- A completion opens sources of registered handlers only. -/
theorem registered_complete (completion : Completion) {w : World σ} (h : Registered w) :
    Registered (finalState ((complete sc env completion).run w)) := by
  cases hOwed : owes w completion with
  | false =>
      rw [complete_idle hOwed]
      exact h
  | true =>
      obtain ⟨peer, _, hRun⟩ := complete_owed sc env hOwed
      rw [hRun]
      have hSame : Registered (paid w peer completion) := h
      cases completion with
      | setRemoteDescription ok =>
          cases ok with
          | true => exact hSame.opensOnly (fun _ => id) (afterSetSessionDescription_opensOnly _)
          | false => exact hSame
      | createAnswer sdp =>
          cases sdp with
          | none => exact hSame
          | some sdp =>
              have hAnswer : KeepsHandlers (afterCreateSdpAnswer ⟨peer, sdp⟩ : Program (World σ) Unit) :=
                within_afterCreateSdpAnswer (fun _ => keepsHandlers_rtcCall _)
                  fun _ => keepsHandlers_rtcStart _ _
              exact hSame.congr (hAnswer _)
      | setLocalDescription desc ok =>
          cases ok with
          | true => exact hSame.congr (keepsHandlers_callSignaling _ _)
          | false => exact hSame

/-- Registering another handler. -/
theorem registered_addMediaTrackHandler (trackName : String) (handler : MediaTrackHandler) {w : World σ}
    (h : Registered w) : Registered (finalState ((addMediaTrackHandler trackName handler).run w)) := by
  cases hFind : w.connector.mediaTrackHandlersDict.find? trackName with
  | some old =>
      have hRun : finalState ((addMediaTrackHandler trackName handler).run w) = w := by
        simp [addMediaTrackHandler, hFind]
      rw [hRun]
      exact h
  | none =>
      have hRun : finalState ((addMediaTrackHandler trackName handler).run w) =
          { w with connector :=
              { w.connector with
                mediaTrackHandlersDict := w.connector.mediaTrackHandlersDict.insert trackName handler } } := by
        simp [addMediaTrackHandler, hFind]
      rw [hRun]
      intro other hOpen
      have hOld := OrderedMap.mem_keys_iff.mp (h other hOpen)
      rw [OrderedMap.mem_keys_iff, OrderedMap.find?_insert]
      split_ifs
      · rfl
      · exact hOld

variable (sc env) in
/-- **Only registered handlers have open sources**, whatever throws. -/
theorem registered_step {w : World σ} (h : Registered w) (event : ConnectorEvent) :
    Registered (step sc env w event) := by
  have hNoNames : ∀ {p : Program (World σ) Unit}, Within (OpensOnly []) p →
      Registered (finalState (p.run w)) := fun hp => h.opensOnly (by simp) (hp w)
  cases event with
  | addMediaTrackHandler trackName handler => exact registered_addMediaTrackHandler trackName handler h
  | complete completion => exact registered_complete completion h
  | initializeWebRTC factory => exact h.congr (keepsHandlers_initializeWebRTC factory w)
  | iceCandidateMessage candidate => exact h.congr (keepsHandlers_handleIceCandidate candidate w)
  | iceCandidate candidate => exact h.congr (keepsHandlers_iceCandidate candidate w)
  | stateBroadcast => exact h.congr (keepsHandlers_sendState w)
  | channelState channel state => exact h
  | dataChannel label => exact hNoNames (deliverDataChannel_opensOnly label)
  | closeMessage inside => exact hNoNames (opensOnly_closePeerConnection (opensOnly_deliver inside))
  | addDataChannelHandler label =>
      refine hNoNames (within_bind within_get fun _ => within_ite (within_pure _) ?_)
      exact within_modify fun _ => ⟨rfl, fun _ hOpen => .inl hOpen⟩
  | sdpOffer sdpOffer created inside =>
      have hAccept : Within (OpensOnly []) (acceptOffer sc sdpOffer created) :=
        (keepsHandlers_acceptOffer sdpOffer created).opensOnly _
      refine hNoNames (within_bind within_get fun _ => within_ite ?_ hAccept)
      exact within_bind (opensOnly_closePeerConnection (opensOnly_deliver inside)) fun _ => hAccept
  | connectionChange newState inside =>
      refine hNoNames (within_bind within_get fun w₁ => ?_)
      cases w₁.manager.peerConnection with
      | none => exact within_pure _
      | some peer =>
          cases newState with
          | kNew => exact within_pure _
          | kConnecting => exact within_pure _
          | kConnected => exact (keepsHandlers_setState _).opensOnly _
          | ended state =>
              cases state <;> exact opensOnly_closePeerConnection (opensOnly_deliver inside)
  | shuttingDown inside =>
      apply hNoNames
      apply within_shuttingDown
      · exact (keepsHandlers_setState _).opensOnly _
      · exact keepsHandlers_stopSignalingServer.opensOnly _
      · exact opensOnly_closePeerConnection (opensOnly_deliver inside)
      · exact (keepsHandlers_assignPeerConnection _).opensOnly _
      · exact keepsHandlers_destroyFactoryAndThreads.opensOnly _

/-! ## Data channels -/

/-- The registered handlers other than those listed have no channel. -/
def UnboundExcept (labels : List String) (w : World σ) : Prop :=
  ∀ label impl, w.connector.dataChannelHandlersDict.find? label = some impl →
    label ∉ labels → impl.dcInterface = none

/-- `CloseDataChannel` leaves its handler without a channel. -/
theorem closeDataChannel_unbinds (e : Endpoint DataBuffer) :
    Ends Endpoint.closeDataChannel e fun _ e' => e'.impl.dcInterface = none := by
  cases hBound : e.impl.dcInterface with
  | none => exact ⟨(), e, by simp [Endpoint.closeDataChannel, hBound], hBound⟩
  | some channel =>
      refine Ends.congr_run (q := Endpoint.call (.close channel) >>= fun _ =>
        modify fun e => { e with impl := { e.impl with dcInterface := none } }) ?_ ?_
      · simp [Endpoint.closeDataChannel, hBound]
      · exact ends_bind (ends_modify (ends_modify rfl))

/-- `CloseDataChannel` of one registered handler unbinds it and leaves the others alone. -/
theorem closeDataChannel_ends (label : String) (labels : List String) (w : World σ)
    (h : UnboundExcept (label :: labels) w) :
    Ends (onDataChannelHandler label Endpoint.closeDataChannel) w fun _ w' =>
      UnboundExcept labels w' ∧ w'.callbacks = w.callbacks ∧
        w'.connector.mediaTrackHandlersDict = w.connector.mediaTrackHandlersDict := by
  cases hFind : w.connector.dataChannelHandlersDict.find? label with
  | none =>
      refine ⟨(), w, by simp [onDataChannelHandler, hFind], fun other impl hOther hRest => ?_, rfl, rfl⟩
      refine h other impl hOther fun hMem => ?_
      rcases List.mem_cons.mp hMem with rfl | hTail
      · rw [hFind] at hOther
        exact absurd hOther (by simp)
      · exact hRest hTail
  | some impl =>
      refine ends_bind ⟨w, w, rfl, ?_⟩
      simp only [hFind]
      refine ends_zoom ((closeDataChannel_unbinds _).imp fun _ e' hUnbound => ⟨?_, rfl, rfl⟩)
      intro other impl' hOther hRest
      rw [OrderedMap.find?_modify, hFind] at hOther
      by_cases hSame : other = label
      · simp only [hSame, if_true, Option.map_some, Option.some.injEq] at hOther
        rw [← hOther]
        exact hUnbound
      · rw [if_neg hSame] at hOther
        exact h other impl' hOther (by simp [hSame, hRest])

/-- `CloseAllDataChannels` unbinds every registered handler. -/
theorem closeAllDataChannels_ends (w : World σ) :
    Ends closeAllDataChannels w fun _ w' =>
      UnboundExcept [] w' ∧ w'.callbacks = w.callbacks ∧
        w'.connector.mediaTrackHandlersDict = w.connector.mediaTrackHandlersDict := by
  refine ends_bind ⟨w, w, rfl, ?_⟩
  refine ends_forM (I := fun labels w' => UnboundExcept labels w' ∧ w'.callbacks = w.callbacks ∧
    w'.connector.mediaTrackHandlersDict = w.connector.mediaTrackHandlersDict) ?_ _ w ⟨?_, rfl, rfl⟩
  · rintro label rest w₁ ⟨hUnbound, hCallbacks, hMedia⟩
    refine (closeDataChannel_ends label rest w₁ hUnbound).imp fun _ w₂ h₂ => ?_
    exact ⟨h₂.1, h₂.2.1.trans hCallbacks, h₂.2.2.trans hMedia⟩
  · intro label impl hFind hRest
    refine absurd (OrderedMap.mem_keys_iff.mpr ?_) hRest
    rw [hFind]
    rfl

/-! ## Closing -/

/-- **After `ClosePeerConnection` without faults the handlers are tidy**, if only registered handlers had
sources and there was a session to close. -/
theorem closePeerConnection_tidy (hSends : sc.NeverFaults) (hHandlers : env.NeverThrows) {w : World σ}
    (hRegistered : Registered w) (hConnecting : connecting w = true) (inside : Reentry) :
    Ends (closePeerConnection sc env (deliver sc env inside)) w fun _ w' => Tidy w' := by
  refine Ends.congr_run (closePeerConnection_eq hConnecting _) ?_
  have hFirst := (setState_ends hSends .rtcDisconnecting w).and_within (keepsHandlers_setState _)
  refine ends_bind (hFirst.imp fun _ w₁ ⟨hSession, hSide⟩ => ?_)
  have hIdle : connecting w₁ = false :=
    connecting_eq_false .rtcDisconnecting (congrArg Session.state hSession) (by decide)
  refine ends_bind (ends_recover ?_)
  have hBody : Ends (closeHandlersAndDrop env (deliver sc env inside)) w₁ fun _ w' => Tidy w' := by
    have hRegistered₁ : Registered w₁ := hRegistered.congr hSide
    refine ends_bind ⟨(), _, closeAllMediaTracks_run hHandlers w₁, ?_⟩
    have hData := (closeAllDataChannels_ends
      { w₁ with callbacks :=
          w₁.callbacks ++ w₁.connector.mediaTrackHandlersDict.keys.map .closeMediaTrack }).and_within
      keepsSession_closeAllDataChannels
    refine ends_bind (hData.imp fun _ w₂ ⟨⟨hUnbound, hCallbacks, _⟩, hSession₂⟩ => ?_)
    have hIdle₂ : connecting w₂ = false := (connecting_congr (by rw [hSession₂]; rfl)).trans hIdle
    refine ⟨(), _, closeAndDrop_run _ _ hIdle₂ inside, Tidy.congr (handlerSide_dropped w₂) ⟨?_, ?_⟩⟩
    · intro trackName
      rw [hCallbacks, sourceOpen_append_close]
      split_ifs with hMem
      · rfl
      · by_contra hOpen
        exact hMem (hRegistered₁ trackName (by simpa using hOpen))
    · intro label impl hFind
      exact hUnbound label impl hFind (by simp)
  refine hBody.imp fun _ w₂ hTidy => ?_
  exact (setState_ends hSends .readyToConnect w₂).and_within (keepsHandlers_setState _) |>.imp
    fun _ w₃ ⟨_, hSide₃⟩ => hTidy.congr hSide₃

end World
end MosaicCore
