import MosaicCore.Core.HandlerSide

/-!
# Closing a session whose handlers throw

`ClosePeerConnection` closes the media track handlers, the data channel handlers and the peer connection in one
`try` block.  Both kinds of handlers may be the user's own, so both may throw: `ThrowingHandlers` says which
do.  The loops visit the handlers in the order of the dictionaries, `closingOrder`; the first that throws is
the last that is `reached`.

`closedSafely_iff` says that the session ends as it should exactly if no handler throws, or there was no peer
connection to close and nothing to do for the handlers that were not reached.  Otherwise the state is
READY_TO_CONNECT all the same, and the next offer meets what was left of the session.
-/

namespace MosaicCore

open EffectProgram

/-- Which handlers throw when they are closed. -/
structure ThrowingHandlers where
  mediaTrack : String → Bool
  dataChannel : String → Bool
  /-- Whether a data channel handler has closed its channel by the time it throws. -/
  closesFirst : String → Bool

/-- A handler that is closed. -/
inductive Closable
  | mediaTrack (trackName : String)
  | dataChannel (label : String)
  deriving DecidableEq

namespace ThrowingHandlers

open World

variable {σ : Type} (sc : ISignalingClient σ) (t : ThrowingHandlers)

/-- The handler throws. -/
def throws : Closable → Bool
  | .mediaTrack trackName => t.mediaTrack trackName
  | .dataChannel label => t.dataChannel label

/-- The media track handlers as an environment. -/
def environment : Environment where
  throws
    | .closeMediaTrack trackName, _ => t.mediaTrack trackName
    | _, _ => false

/-- `CloseDataChannel` of a handler. -/
def closeDataChannel (label : String) : Program (World σ) Unit := do
  if t.dataChannel label then do
    if t.closesFirst label then onDataChannelHandler label Endpoint.closeDataChannel else pure ()
    throw (.exception "CloseDataChannel")
  else onDataChannelHandler label Endpoint.closeDataChannel

/-- `MosaicConnector::CloseAllDataChannels`. -/
def closeAllDataChannels : Program (World σ) Unit := do
  (← get).connector.dataChannelHandlersDict.keys.forM (closeDataChannel t)

/-- The `try` block of `ClosePeerConnection`. -/
def closeHandlersAndDrop (during : Program (World σ) Unit) : Program (World σ) Unit := do
  closeAllMediaTracks t.environment
  closeAllDataChannels t
  closeAndDrop during

/-- `Impl::ClosePeerConnection`. -/
def closePeerConnection (inside : Reentry) : Program (World σ) Unit := do
  if ¬ connecting (← get) then pure ()
  else do
    setState sc .rtcDisconnecting
    catchException (closeHandlersAndDrop t (deliver sc t.environment inside))
    onConnectionDisconnected sc

/-- `Impl::HandleSdpOffer`. -/
def handleSdpOffer (sdpOffer : String) (created : Bool) (inside : Reentry) :
    Program (World σ) Unit := do
  if (← get).manager.peerConnection.isSome then closePeerConnection sc t inside else pure ()
  acceptOffer sc sdpOffer created

/-- With the library's own `CloseDataChannel` this is `World.closePeerConnection`. -/
theorem closePeerConnection_eq_world (hReturns : ∀ label, t.dataChannel label = false)
    (inside : Reentry) :
    closePeerConnection sc t inside =
      World.closePeerConnection sc t.environment (deliver sc t.environment inside) := by
  have hClose : closeDataChannel (σ := σ) t = fun label =>
      onDataChannelHandler label Endpoint.closeDataChannel := by
    funext label
    simp [closeDataChannel, hReturns]
  unfold closePeerConnection World.closePeerConnection closeHandlersAndDrop World.closeHandlersAndDrop
    closeAllDataChannels World.closeAllDataChannels
  rw [hClose]

/-! ## The two loops as one -/

/-- The handlers in the order in which they are closed. -/
def closingOrder (w : World σ) : List Closable :=
  w.connector.mediaTrackHandlersDict.keys.map .mediaTrack ++
    w.connector.dataChannelHandlersDict.keys.map .dataChannel

/-- The handlers up to the first that throws. -/
def reached : List Closable → List Closable
  | [] => []
  | handler :: rest => handler :: if t.throws handler then [] else reached rest

/-- The body of either loop. -/
def close : Closable → Program (World σ) Unit
  | .mediaTrack trackName => invoke t.environment (.closeMediaTrack trackName)
  | .dataChannel label => closeDataChannel t label

/-- The callback that is made on a media track handler. -/
def callback : Closable → Option Callback
  | .mediaTrack trackName => some (.closeMediaTrack trackName)
  | .dataChannel _ => none

/-- What the loop has done by the time it has reached some handlers: the media track handlers have been
called, and the data channel handlers have no channel, but perhaps the one that threw. -/
structure Swept (handlers : List Closable) (w w' : World σ) : Prop where
  callbacks : w'.callbacks = w.callbacks ++ handlers.filterMap callback
  untouched : ∀ label, .dataChannel label ∉ handlers →
    w'.connector.dataChannelHandlersDict.find? label = w.connector.dataChannelHandlersDict.find? label
  unbound : ∀ label impl, .dataChannel label ∈ handlers → t.dataChannel label = false →
    w'.connector.dataChannelHandlersDict.find? label = some impl → impl.dcInterface = none

variable {sc t}

theorem Swept.nil (w : World σ) : Swept t [] w w :=
  ⟨(List.append_nil _).symm, fun _ _ => rfl, fun _ _ hMem => absurd hMem List.not_mem_nil⟩

theorem Swept.append {handlers handlers' : List Closable} {w w₁ w' : World σ} (h : Swept t handlers w w₁)
    (h' : Swept t handlers' w₁ w') : Swept t (handlers ++ handlers') w w' where
  callbacks := by rw [h'.callbacks, h.callbacks, List.append_assoc, List.filterMap_append]
  untouched label hNot := by
    rw [List.mem_append, not_or] at hNot
    exact (h'.untouched label hNot.2).trans (h.untouched label hNot.1)
  unbound label impl hMem hReturns hFind := by
    by_cases hLater : .dataChannel label ∈ handlers'
    · exact h'.unbound label impl hLater hReturns hFind
    · rw [h'.untouched label hLater] at hFind
      exact h.unbound label impl ((List.mem_append.mp hMem).resolve_right hLater) hReturns hFind

/-- Only the handlers' part of the object graph matters. -/
theorem Swept.congr {handlers : List Closable} {w₀ w w' w₁ : World σ} (h : Swept t handlers w w')
    (hBefore : handlerSide w = handlerSide w₀) (hAfter : handlerSide w₁ = handlerSide w') :
    Swept t handlers w₀ w₁ := by
  have hCallbacks : w.callbacks = w₀.callbacks := congrArg HandlerSide.callbacks hBefore
  have hConnector : w.connector = w₀.connector := congrArg HandlerSide.connector hBefore
  have hCallbacks' : w₁.callbacks = w'.callbacks := congrArg HandlerSide.callbacks hAfter
  have hConnector' : w₁.connector = w'.connector := congrArg HandlerSide.connector hAfter
  constructor
  · rw [hCallbacks', ← hCallbacks]
    exact h.callbacks
  · rw [hConnector', ← hConnector]
    exact h.untouched
  · rw [hConnector']
    exact h.unbound

/-- The library's `CloseDataChannel` returns, and leaves the one handler unbound. -/
theorem onDataChannelHandler_close (label : String) (w : World σ) :
    ∃ w', (onDataChannelHandler label Endpoint.closeDataChannel).run w = .ok () w' ∧
      w'.callbacks = w.callbacks ∧
      (∀ other, other ≠ label → w'.connector.dataChannelHandlersDict.find? other =
        w.connector.dataChannelHandlersDict.find? other) ∧
      ∀ impl, w'.connector.dataChannelHandlersDict.find? label = some impl → impl.dcInterface = none := by
  cases hFind : w.connector.dataChannelHandlersDict.find? label with
  | none =>
      refine ⟨w, by simp [onDataChannelHandler, hFind], rfl, fun _ _ => rfl, ?_⟩
      intro impl hSome
      rw [hFind] at hSome
      exact absurd hSome (by simp)
  | some impl =>
      obtain ⟨u, e, hRun, hUnbound⟩ := closeDataChannel_unbinds { impl := impl, channels := w.channels }
      have hWorld : (onDataChannelHandler label Endpoint.closeDataChannel).run w = .ok ()
          { w with
            channels := e.channels
            connector :=
              { w.connector with
                dataChannelHandlersDict :=
                  w.connector.dataChannelHandlersDict.modify label fun _ => e.impl } } := by
        rw [onDataChannelHandler, EStateM.run_bind, EStateM.run_get]
        simp only [hFind, zoom_run, hRun]
      refine ⟨_, hWorld, rfl, ?_, ?_⟩
      · intro other hOther
        show (w.connector.dataChannelHandlersDict.modify label _).find? other = _
        rw [OrderedMap.find?_modify, if_neg hOther]
      · intro impl' hSome
        have hImpl : (w.connector.dataChannelHandlersDict.modify label fun _ => e.impl).find? label =
            some impl' := hSome
        rw [OrderedMap.find?_modify, if_pos rfl, hFind] at hImpl
        rw [← Option.some.inj hImpl]
        exact hUnbound

/-- Closing one handler. -/
theorem close_run (handler : Closable) (w : World σ) :
    ∃ w', Swept t [handler] w w' ∧
      (close t handler).run w =
        if t.throws handler then .error (.exception (match handler with
          | .mediaTrack _ => "handler"
          | .dataChannel _ => "CloseDataChannel")) w'
        else .ok () w' := by
  cases handler with
  | mediaTrack trackName =>
      refine ⟨{ w with callbacks := w.callbacks ++ [.closeMediaTrack trackName] },
        ⟨rfl, fun _ _ => rfl, fun label impl hMem => ?_⟩, ?_⟩
      · simp at hMem
      · show (invoke t.environment (.closeMediaTrack trackName)).run w = _
        rw [run_invoke]
        rfl
  | dataChannel label =>
      obtain ⟨w₁, hRun, hCallbacks, hOther, hUnbound⟩ := onDataChannelHandler_close label w
      have hSwept : Swept t [.dataChannel label] w w₁ := by
        refine ⟨by simp [hCallbacks, callback], ?_, ?_⟩
        · intro other hNot
          exact hOther other (by simpa using hNot)
        · intro other impl hMem _ hFind
          have hSame : other = label := by simpa using hMem
          exact hUnbound impl (hSame ▸ hFind)
      show ∃ w', Swept t [.dataChannel label] w w' ∧ (closeDataChannel t label).run w =
        if t.dataChannel label then _ else _
      cases hThrows : t.dataChannel label with
      | false => exact ⟨w₁, hSwept, by simp [closeDataChannel, hThrows, hRun]⟩
      | true =>
          cases hFirst : t.closesFirst label with
          | true => exact ⟨w₁, hSwept, by simp [closeDataChannel, hThrows, hFirst, hRun]⟩
          | false =>
              refine ⟨w, ⟨by simp [callback], fun _ _ => rfl, ?_⟩, by
                simp [closeDataChannel, hThrows, hFirst]⟩
              -- The only handler reached threw, and `unbound` says nothing about it.
              intro other impl hMem hReturns
              have hSame : other = label := by simpa using hMem
              rw [hSame, hThrows] at hReturns
              exact absurd hReturns (by simp)

/-- The loop closes the handlers it reaches, and throws if one of them does. -/
theorem forM_close_run (handlers : List Closable) (w : World σ) :
    ∃ w', Swept t (t.reached handlers) w w' ∧
      if handlers.any t.throws then
        ∃ what, (handlers.forM (close t)).run w = .error (.exception what) w'
      else (handlers.forM (close t)).run w = .ok () w' := by
  induction handlers generalizing w with
  | nil => exact ⟨w, Swept.nil w, rfl⟩
  | cons handler handlers ih =>
      obtain ⟨w₁, hHead, hRun⟩ := close_run (t := t) handler w
      have hCons : ((handler :: handlers).forM (close t)).run w =
          (close t handler >>= fun _ => handlers.forM (close t)).run w := rfl
      cases hThrows : t.throws handler with
      | true =>
          rw [hThrows, if_pos rfl] at hRun
          -- The rest of the loop is skipped, and `reached` stops here too.
          refine ⟨w₁, ?_, ?_⟩
          · simpa [reached, hThrows] using hHead
          · simp only [List.any_cons, hThrows, Bool.true_or, if_true]
            rw [hCons, EStateM.run_bind, hRun]
            exact ⟨_, rfl⟩
      | false =>
          rw [hThrows, if_neg (by simp)] at hRun
          obtain ⟨w', hTail, hRest⟩ := ih w₁
          refine ⟨w', ?_, ?_⟩
          · simpa [reached, hThrows] using hHead.append hTail
          · rw [hCons, EStateM.run_bind, hRun]
            simpa only [List.any_cons, hThrows, Bool.false_or] using hRest

/-- If no handler throws, all are reached. -/
theorem reached_eq_self {handlers : List Closable} (hReturns : ∀ handler ∈ handlers, t.throws handler = false) :
    t.reached handlers = handlers := by
  induction handlers with
  | nil => rfl
  | cons handler handlers ih =>
      have hHead : t.throws handler = false := hReturns handler List.mem_cons_self
      have hTail := ih fun other hOther => hReturns other (List.mem_cons_of_mem _ hOther)
      simp [reached, hHead, hTail]

theorem keepsSession_close (handler : Closable) : KeepsSession (close (σ := σ) t handler) := by
  cases handler with
  | mediaTrack trackName => exact keepsSession_invoke _
  | dataChannel label =>
      refine within_ite (within_ite ?_ (within_throw _)) (keepsSession_onDataChannelHandler _ _)
      apply within_bind
      · exact keepsSession_onDataChannelHandler _ _
      intro _
      exact within_throw _

/-- The media track handlers do not touch the dictionaries. -/
theorem connector_closeAllMediaTracks (w : World σ) :
    (finalState ((closeAllMediaTracks t.environment).run w)).connector = w.connector := by
  have hKeeps : Within (fun w w' => w'.connector = w.connector)
      (closeAllMediaTracks t.environment : Program (World σ) Unit) :=
    within_closeAllMediaTracks fun _ => within_invoke fun _ => rfl
  exact hKeeps w

/-- The `try` block is the loop over all handlers, and then the peer connection. -/
theorem closeHandlersAndDrop_run (during : Program (World σ) Unit) (w : World σ) :
    (closeHandlersAndDrop t during).run w =
      ((closingOrder w).forM (close t) >>= fun _ => closeAndDrop during).run w := by
  have hMedia : (closeAllMediaTracks t.environment : Program (World σ) Unit).run w =
      ((w.connector.mediaTrackHandlersDict.keys.map Closable.mediaTrack).forM (close t)).run w := by
    show (w.connector.mediaTrackHandlersDict.keys.forM fun trackName =>
      invoke t.environment (.closeMediaTrack trackName)).run w = _
    rw [List.forM_eq_forM, List.forM_eq_forM, List.forM_map]
    rfl
  -- The second loop reads its dictionary after the first, which leaves it alone.
  have hConnector := connector_closeAllMediaTracks (t := t) w
  have hOrder : (closingOrder w).forM (close (σ := σ) t) =
      (w.connector.mediaTrackHandlersDict.keys.map Closable.mediaTrack).forM (close t) >>= fun _ =>
        (w.connector.dataChannelHandlersDict.keys.map Closable.dataChannel).forM (close t) := by
    rw [closingOrder, List.forM_eq_forM, List.forM_append]
  rw [hOrder, bind_assoc]
  simp only [closeHandlersAndDrop, EStateM.run_bind, hMedia] at hConnector ⊢
  cases hRun : ((w.connector.mediaTrackHandlersDict.keys.map Closable.mediaTrack).forM (close t)).run w with
  | error e w₁ => rfl
  | ok _ w₁ =>
      rw [hRun, finalState_ok] at hConnector
      have hData : (closeAllDataChannels t : Program (World σ) Unit).run w₁ =
          ((w.connector.dataChannelHandlersDict.keys.map Closable.dataChannel).forM (close t)).run w₁ := by
        show (w₁.connector.dataChannelHandlersDict.keys.forM (closeDataChannel t)).run w₁ = _
        rw [hConnector, List.forM_eq_forM, List.forM_eq_forM, List.forM_map]
        rfl
      simp only [hData]

variable (sc) in
/-- Entered in RTC_DISCONNECTING, the `try` block sweeps the handlers it reaches; it drops the peer connection
if none of them throws. -/
theorem catch_closeHandlersAndDrop {w : World σ} (hIdle : connecting w = false) (inside : Reentry) :
    ∃ w', (catchException (closeHandlersAndDrop t (deliver sc t.environment inside))).run w = .ok () w' ∧
      Swept t (t.reached (closingOrder w)) w w' ∧
      session w' =
        if (closingOrder w).any t.throws then session w
        else { (session w).closed with state := (session w).state } := by
  obtain ⟨w₁, hSwept, hLoop⟩ := forM_close_run (t := t) (closingOrder w) w
  have hSession := within_forM (R := fun w w' : World σ => session w' = session w)
    (fun handler (_ : handler ∈ closingOrder w) => keepsSession_close (t := t) handler) w
  rw [catchException, recover_run, closeHandlersAndDrop_run, EStateM.run_bind]
  cases hAny : (closingOrder w).any t.throws with
  | true =>
      rw [hAny, if_pos rfl] at hLoop
      -- The exception skips `closeAndDrop`, and ends in the `catch`.
      obtain ⟨what, hRun⟩ := hLoop
      rw [hRun, finalState_error] at hSession
      refine ⟨w₁, ?_, hSwept, by simpa using hSession⟩
      rw [hRun]
      rfl
  | false =>
      rw [hAny, if_neg (by simp)] at hLoop
      rw [hLoop, finalState_ok] at hSession
      have hIdle₁ : connecting w₁ = false := (connecting_congr (by rw [hSession])).trans hIdle
      refine ⟨dropped w₁, ?_, hSwept.congr rfl (handlerSide_dropped w₁), ?_⟩
      · rw [hLoop]
        simp only [closeAndDrop_run sc t.environment hIdle₁ inside]
      · rw [session_dropped, hSession]
        rfl

theorem closePeerConnection_eq {w : World σ} (hConnecting : connecting w = true) (inside : Reentry) :
    (closePeerConnection sc t inside).run w =
      (setState sc .rtcDisconnecting >>= fun _ =>
        catchException (closeHandlersAndDrop t (deliver sc t.environment inside)) >>= fun _ =>
          onConnectionDisconnected sc).run w := by
  simp [closePeerConnection, hConnecting]

/-- **What a close that returns leaves behind**: the handlers up to the first that throws are closed, the state
is READY_TO_CONNECT, and the peer connection is closed only if no handler throws. -/
theorem closePeerConnection_leaves {w w' : World σ} {inside : Reentry} (hConnecting : connecting w = true)
    (hReturns : (closePeerConnection sc t inside).run w = .ok () w') :
    Swept t (t.reached (closingOrder w)) w w' ∧
      session w' =
        if (closingOrder w).any t.throws then { session w with state := .readyToConnect }
        else (session w).closed := by
  rw [closePeerConnection_eq hConnecting] at hReturns
  obtain ⟨_, w₁, hSet, hReturns⟩ := run_bind_eq_ok.mp hReturns
  obtain ⟨_, w₃, hCatch, hLast⟩ := run_bind_eq_ok.mp hReturns
  have hSession₁ := session_setState sc .rtcDisconnecting w
  have hSide₁ := (keepsHandlers_setState _ : KeepsHandlers (setState sc .rtcDisconnecting)) w
  rw [hSet, finalState_ok] at hSession₁ hSide₁
  have hIdle : connecting w₁ = false :=
    connecting_eq_false .rtcDisconnecting (congrArg Session.state hSession₁) (by decide)
  obtain ⟨w₂, hRun, hSwept, hSession₂⟩ := catch_closeHandlersAndDrop sc (t := t) hIdle inside
  have hSame : w₂ = w₃ := by
    rw [hRun] at hCatch
    exact (EStateM.Result.ok.inj hCatch).2
  subst hSame
  have hSession' := session_setState sc .readyToConnect w₂
  have hSide' := (keepsHandlers_setState _ : KeepsHandlers (setState sc .readyToConnect)) w₂
  have hFinal : (setState sc .readyToConnect).run w₂ = .ok () w' := hLast
  rw [hFinal, finalState_ok] at hSession' hSide'
  have hConnector : w₁.connector = w.connector := congrArg HandlerSide.connector hSide₁
  have hOrder : closingOrder w₁ = closingOrder w := by
    rw [closingOrder, closingOrder, hConnector]
  rw [hOrder] at hSwept hSession₂
  refine ⟨hSwept.congr hSide₁ hSide', ?_⟩
  rw [hSession', hSession₂, hSession₁]
  split <;> rfl

/-! ## A later offer -/

/-- The offers given to peer connections. -/
def offers (w : World σ) : List (Nat × String) :=
  w.webrtc.calls.filterMap fun
    | .setRemoteDescription peer sdpOffer => some (peer, sdpOffer)
    | _ => none

variable (sc) in
theorem offers_setState (newState : ConnectorState) (w : World σ) :
    offers (finalState ((setState sc newState).run w)) = offers w := by
  have hKeeps : Within (fun w w' => offers w' = offers w) (setState sc newState) :=
    within_setState (fun _ => rfl) (within_sendState fun _ =>
      within_zoom (S := fun _ _ => True) (fun _ => trivial) fun _ _ _ => rfl)
  exact hKeeps w

/-- A failed creation that returns has changed neither the session nor the offers. -/
theorem createPeerConnection_failed {w w' : World σ}
    (hReturns : (createPeerConnection false).run w = .ok () w') :
    session w' = session w ∧ offers w' = offers w := by
  cases hFactory : w.manager.peerConnectionFactory with
  | false => simp [createPeerConnection, hFactory] at hReturns
  | true =>
      simp only [createPeerConnection, EStateM.run_bind, EStateM.run_modify, EStateM.run_get, hFactory, rtcCall,
        not_true, if_false, Bool.false_eq_true] at hReturns
      have hSame := (EStateM.Result.ok.inj hReturns).2
      rw [← hSame]
      constructor
      · simp [session, peerCall, hFactory]
      · simp [offers]

/-- Without a peer connection, an offer for which none can be created ends in RTC_FAILED. -/
theorem handleSdpOffer_failed {w w' : World σ} (hNone : (session w).peerConnection = none)
    (hReady : (session w).state = .readyToConnect) {sdpOffer : String} {inside : Reentry}
    (hReturns : (handleSdpOffer sc t sdpOffer false inside).run w = .ok () w') :
    (session w').state = .rtcFailed ∧ offers w' = offers w := by
  have hPeer : w.manager.peerConnection = none := hNone
  have hAccept : (acceptOffer sc sdpOffer false).run w = .ok () w' := by
    simpa [handleSdpOffer, hPeer] using hReturns
  rw [acceptOffer_ready hReady] at hAccept
  obtain ⟨_, w₁, hSet, hAccept⟩ := run_bind_eq_ok.mp hAccept
  obtain ⟨_, w₂, hCreate, hRemote⟩ := run_bind_eq_ok.mp hAccept
  have hSession₁ := session_setState sc .rtcConnecting w
  have hOffers₁ := offers_setState sc .rtcConnecting w
  rw [hSet, finalState_ok] at hSession₁ hOffers₁
  obtain ⟨hSession₂, hOffers₂⟩ := createPeerConnection_failed hCreate
  have hNone₂ : (session w₂).peerConnection = none := by
    rw [hSession₂, hSession₁]
    exact hNone
  rw [setRemoteDescription_none hNone₂] at hRemote
  have hSession' := session_setState sc .rtcFailed w₂
  have hOffers' := offers_setState sc .rtcFailed w₂
  rw [hRemote, finalState_ok] at hSession' hOffers'
  constructor
  · rw [hSession']
  · rw [hOffers', hOffers₂, hOffers₁]

/-! ## When a close is safe -/

variable (sc t)

/-- What closing a session owes, from the state before to the state after. -/
structure ClosedSafely (w w' : World σ) : Prop where
  closed : ∀ peer, w.manager.peerConnection = some peer →
    PeerCall.closed peer ∈ (session w').calls.drop (session w).calls.length
  dropped : w'.manager.peerConnection = none
  mediaTracks : ∀ trackName ∈ w.connector.mediaTrackHandlersDict.keys, t.mediaTrack trackName = false →
    Callback.closeMediaTrack trackName ∈ w'.callbacks.drop w.callbacks.length
  dataChannels : ∀ label ∈ w.connector.dataChannelHandlersDict.keys, t.dataChannel label = false →
    ∀ impl, w'.connector.dataChannelHandlersDict.find? label = some impl → impl.dcInterface = none
  ready : w'.stateManager.state = .readyToConnect
  /-- A later offer for which no peer connection can be created fails, and is not given to another. -/
  laterOffer : ∀ sdpOffer inside w'', (handleSdpOffer sc t sdpOffer false inside).run w' = .ok () w'' →
    w''.stateManager.state = .rtcFailed ∧ offers w'' = offers w'

/-- There is something to do for a handler: a media track handler is always called, a data channel handler
needs it if it has a channel. -/
def needsClosing (w : World σ) : Closable → Prop
  | .mediaTrack _ => True
  | .dataChannel label => ∃ impl, w.connector.dataChannelHandlersDict.find? label = some impl ∧
      impl.dcInterface ≠ none

/-- No handler throws, or what a throw skips had nothing to close: no peer connection, and no handler. -/
def Harmless (w : World σ) : Prop :=
  (∀ handler ∈ closingOrder w, t.throws handler = false) ∨
    w.manager.peerConnection = none ∧
      ∀ handler ∈ closingOrder w, t.throws handler = false → needsClosing w handler →
        handler ∈ t.reached (closingOrder w)

variable {sc t}

theorem mem_closingOrder_mediaTrack {w : World σ} {trackName : String} :
    Closable.mediaTrack trackName ∈ closingOrder w ↔
      trackName ∈ w.connector.mediaTrackHandlersDict.keys := by
  simp [closingOrder]

theorem mem_closingOrder_dataChannel {w : World σ} {label : String} :
    Closable.dataChannel label ∈ closingOrder w ↔
      label ∈ w.connector.dataChannelHandlersDict.keys := by
  simp [closingOrder]

/-- The callbacks made by a sweep are the media track handlers it reached. -/
theorem Swept.mem_callbacks {handlers : List Closable} {w w' : World σ} (h : Swept t handlers w w')
    (trackName : String) :
    Callback.closeMediaTrack trackName ∈ w'.callbacks.drop w.callbacks.length ↔
      .mediaTrack trackName ∈ handlers := by
  rw [h.callbacks, List.drop_left, List.mem_filterMap]
  constructor
  · rintro ⟨handler, hMem, hCallback⟩
    cases handler with
    | mediaTrack other =>
        have hSame : other = trackName := by simpa [callback] using hCallback
        rw [← hSame]
        exact hMem
    | dataChannel label => simp [callback] at hCallback
  · intro hMem
    exact ⟨_, hMem, rfl⟩

/-- A close that skips nothing that needs closing owes nothing to the handlers. -/
theorem Swept.dataChannels {handlers : List Closable} {w w' : World σ} (h : Swept t handlers w w')
    {label : String} (hReturns : t.dataChannel label = false)
    (hReached : needsClosing w (.dataChannel label) → .dataChannel label ∈ handlers)
    {impl : DataChannelHandler DataBuffer}
    (hFind : w'.connector.dataChannelHandlersDict.find? label = some impl) : impl.dcInterface = none := by
  by_cases hMem : .dataChannel label ∈ handlers
  · exact h.unbound label impl hMem hReturns hFind
  · rw [h.untouched label hMem] at hFind
    by_contra hBound
    exact hMem (hReached ⟨impl, hFind, hBound⟩)

/-- Either way every handler that does not throw is reached where that matters. -/
theorem Harmless.reached {w : World σ} (h : Harmless t w) :
    ∀ handler ∈ closingOrder w, t.throws handler = false → needsClosing w handler →
      handler ∈ t.reached (closingOrder w) := by
  rcases h with hNone | ⟨_, hReached⟩
  · intro handler hMem _ _
    rw [reached_eq_self hNone]
    exact hMem
  · exact hReached

/-- And the session ends closed. -/
theorem Harmless.session {w : World σ} (h : Harmless t w) :
    (if (closingOrder w).any t.throws then { World.session w with state := .readyToConnect }
      else (World.session w).closed) = (World.session w).closed := by
  rcases h with hNone | ⟨hPeer, _⟩
  · have hAny : (closingOrder w).any t.throws = false := by
      rw [List.any_eq_false]
      intro handler hMem
      simp [hNone handler hMem]
    rw [hAny]
    rfl
  · have hPeer' : (World.session w).peerConnection = none := hPeer
    split
    · simp [Session.closed, hPeer']
    · rfl

/-- **A close is safe exactly if no throwing handler stands before something left to close.** -/
theorem closedSafely_iff {w w' : World σ} {inside : Reentry} (hConnecting : connecting w = true)
    (hReturns : (closePeerConnection sc t inside).run w = .ok () w') :
    ClosedSafely sc t w w' ↔ Harmless t w := by
  obtain ⟨hSwept, hSession⟩ := closePeerConnection_leaves hConnecting hReturns
  constructor
  · intro hSafe
    cases hAny : (closingOrder w).any t.throws with
    | false =>
        left
        intro handler hMem
        by_contra hThrows
        rw [List.any_eq_false] at hAny
        exact hAny handler hMem (by simpa using hThrows)
    | true =>
        -- The peer connection is kept, so there was none.
        right
        rw [hAny, if_pos rfl] at hSession
        have hPeer : (session w').peerConnection = (session w).peerConnection := by rw [hSession]
        refine ⟨hPeer.symm.trans hSafe.dropped, ?_⟩
        intro handler hMem hNotThrows hNeeds
        cases handler with
        | mediaTrack trackName =>
            rw [← hSwept.mem_callbacks]
            exact hSafe.mediaTracks trackName (mem_closingOrder_mediaTrack.mp hMem) hNotThrows
        | dataChannel label =>
            obtain ⟨impl, hFind, hBound⟩ := hNeeds
            by_contra hNot
            rw [← hSwept.untouched label hNot] at hFind
            exact hBound (hSafe.dataChannels label (mem_closingOrder_dataChannel.mp hMem) hNotThrows impl hFind)
  · intro hHarmless
    have hEnd : session w' = (session w).closed := hSession.trans hHarmless.session
    have hNone' : (session w').peerConnection = none := by rw [hEnd]; rfl
    have hReady' : (session w').state = .readyToConnect := by rw [hEnd]; rfl
    refine ⟨?_, hNone', ?_, ?_, hReady', ?_⟩
    · intro peer hPeer
      have hPeer' : (session w).peerConnection = some peer := hPeer
      rw [hEnd]
      simp [Session.closed, hPeer']
    · intro trackName hMem hNotThrows
      rw [hSwept.mem_callbacks]
      exact hHarmless.reached _ (mem_closingOrder_mediaTrack.mpr hMem) hNotThrows trivial
    · intro label hMem hNotThrows impl hFind
      exact hSwept.dataChannels hNotThrows
        (hHarmless.reached _ (mem_closingOrder_dataChannel.mpr hMem) hNotThrows) hFind
    · intro sdpOffer inside' w'' hOffer
      exact handleSdpOffer_failed hNone' hReady' hOffer

/-- A connected session with a camera. -/
def streaming : World Unit :=
  EventRun.run (World.step .offline .calm) (wired () (fun _ => .kConnecting) [])
    [.initializeWebRTC true, .addMediaTrackHandler "camera" {}, .sdpOffer "a" true .done,
      .connectionChange .kConnected .done]

/-- Only the handlers of the given tracks throw. -/
def ofTracks (trackNames : List String) : ThrowingHandlers where
  mediaTrack trackName := trackNames.contains trackName
  dataChannel _ := false
  closesFirst _ := false

/-- The camera returns, and the session is closed safely. -/
theorem closedSafely_iff_camera :
    ∃ w', (closePeerConnection .offline (ofTracks []) .done).run streaming = .ok () w' ∧
      (ClosedSafely .offline (ofTracks []) streaming w' ↔ Harmless (ofTracks []) streaming) := by
  have hRun : (closePeerConnection .offline (ofTracks []) .done).run streaming =
      .ok () (finalState ((closePeerConnection .offline (ofTracks []) .done).run streaming)) := rfl
  exact ⟨_, hRun, closedSafely_iff (by decide) hRun⟩

/-- The camera throws: READY_TO_CONNECT is reached with the peer connection still there and not closed, and an
offer for which no peer connection can be created is given to the old one. -/
theorem throwing_camera_keeps_peerConnection :
    ∃ w' w'', (closePeerConnection .offline (ofTracks ["camera"]) .done).run streaming = .ok () w' ∧
      ¬ ClosedSafely .offline (ofTracks ["camera"]) streaming w' ∧
      w'.stateManager.state = .readyToConnect ∧ w'.manager.peerConnection = some 0 ∧
      (handleSdpOffer .offline (ofTracks ["camera"]) "b" false .done).run w' = .ok () w'' ∧
      w''.stateManager.state = .rtcConnecting ∧ offers w'' = [(0, "a"), (0, "b")] := by
  refine ⟨finalState ((closePeerConnection .offline (ofTracks ["camera"]) .done).run streaming), _, rfl, ?_,
    by decide, by decide, rfl, by decide, by decide⟩
  intro hSafe
  exact absurd hSafe.dropped (by decide)

end ThrowingHandlers
end MosaicCore
