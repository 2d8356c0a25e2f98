import MosaicCore.Core.Shutdown
import MosaicCore.Core.Statements

/-!
# Callbacks between the statements of a close

One thread runs `ClosePeerConnection` or `ShuttingDown` statement by statement; between any two statements
the peer connection that is still held may call back: `SetRemoteDescription`, `CreateAnswer` and
`SetLocalDescription` complete, or an ICE candidate is gathered.  Once the reference is dropped it calls back
no more, so `peer_connection_` is never null in a callback.  These things go wrong:

* `ShuttingDown` resets `signaling_client_` before the peer connection is dropped, and an answer or a
  candidate that is ready in between is sent through the null pointer;
* a `SetRemoteDescription` that succeeds after `CloseAllMediaTracks` starts the handlers again, and nothing
  closes them any more;
* the `ClosePeerConnection` in `ShuttingDown` passes neither state check, and closes no handler at all;
* a handler whose `Close` throws ends `CloseAllMediaTracks` before the handlers after it are closed.

`closing_harmless_iff` says that nothing else goes wrong.
-/

namespace MosaicCore

open EffectProgram EventRun

/-- A thread in a closing routine. -/
structure Closing (σ : Type) where
  location : Option Location
  world : World σ

/-- The next statement of the thread, or a callback of the peer connection. -/
inductive ClosingEvent
  | advance
  | complete (completion : Completion)
  | iceCandidate (candidate : Option CandidateInit)
  deriving DecidableEq

/-- The handler is asked for a source and gives one. -/
def Callback.startsSource : Callback → Bool
  | .createVideoTrackSource _ created => created
  | _ => false

namespace World

variable {σ : Type}

/-- The callbacks by which `CreateAllMediaTracks` starts the registered handlers. -/
def starts (env : Environment) (w : World σ) : List Callback :=
  env.made w.callbacks.length <|
    w.connector.mediaTrackHandlersDict.entries.map fun e => .createVideoTrackSource e.1 e.2.videoSource

/-- The handlers that a completion starts. -/
def startedBy (env : Environment) (w : World σ) : Completion → List Callback
  | .setRemoteDescription true => if owes w (.setRemoteDescription true) then starts env w else []
  | _ => []

/-- No source is open. -/
def SourcesClosed (w : World σ) : Prop :=
  ∀ trackName, sourceOpen trackName w.callbacks = false

/-- A peer connection needs a factory. -/
def FactoryHeld (w : World σ) : Prop :=
  (session w).peerConnection.isSome = true → (session w).peerConnectionFactory = true

end World

namespace Closing

variable {σ : Type} (sc : ISignalingClient σ) (env : Environment) (routine : Routine)

/-- The thread is about to run the routine. -/
def begin (w : World σ) : Closing σ where
  location := some routine.start
  world := w

/-- One event. -/
def step (s : Closing σ) : ClosingEvent → Closing σ
  | .advance =>
      let (next, w') := World.advance sc env routine (s.location, s.world)
      { location := next, world := w' }
  | .complete completion => { s with world := World.step sc env s.world (.complete completion) }
  | .iceCandidate candidate =>
      { s with world := World.step sc env s.world (.iceCandidate candidate) }

/-- The routine leaves through a null pointer. -/
def usesNull (result : EStateM.Result Fault (World σ) Unit) : Bool :=
  match result with
  | .error e _ => !e.isException
  | .ok _ _ => false

/-- The callback, if the event is one, dereferences no null pointer. -/
def NoNull (s : Closing σ) : ClosingEvent → Prop
  | .advance => True
  | .complete completion =>
      usesNull ((World.handle sc env (.complete completion)).run s.world) = false
  | .iceCandidate candidate =>
      usesNull ((World.handle sc env (.iceCandidate candidate)).run s.world) = false

instance (s : Closing σ) (event : ClosingEvent) : Decidable (NoNull sc env s event) :=
  match event with
  | .advance => inferInstanceAs (Decidable True)
  | .complete completion =>
      inferInstanceAs (Decidable
        (usesNull ((World.handle sc env (.complete completion)).run s.world) = false))
  | .iceCandidate candidate =>
      inferInstanceAs (Decidable
        (usesNull ((World.handle sc env (.iceCandidate candidate)).run s.world) = false))

/-- The statement, if the event is one, returns. -/
def returns (s : Closing σ) : ClosingEvent → Bool
  | .advance =>
      match s.location with
      | none => true
      | some location =>
          match (World.statement sc env routine location).run s.world with
          | .ok _ _ => true
          | .error _ _ => false
  | _ => true

/-- The close has finished: every statement has returned, the last one too. -/
def Finished (s : Closing σ) (events : List ClosingEvent) : Prop :=
  EachStep (step sc env routine) (fun s event => returns sc env routine s event = true) s events ∧
    (run (step sc env routine) s events).location = none

instance (s : Closing σ) (events : List ClosingEvent) : Decidable (Finished sc env routine s events) :=
  inferInstanceAs (Decidable (_ ∧ _))

/-! ### When it goes wrong -/

/-- An answer or a candidate is sent after `signaling_client_` was reset. -/
def lateSend (s : Closing σ) : ClosingEvent → Bool
  | .complete (.setLocalDescription desc true) =>
      s.world.owes (.setLocalDescription desc true) && !s.world.manager.signalingClient
  | .iceCandidate (some _) =>
      s.world.manager.peerConnection.isSome && !s.world.manager.signalingClient
  | _ => false

/-- From the location, the thread goes on to `CloseAllMediaTracks`: it has passed the state check, or the
state is one that passes it. -/
def closesMediaTracks (w : World σ) : Option Location → Bool
  | some .testExisting => w.manager.peerConnection.isSome && World.connecting w
  | some .stopSignaling => World.connecting w
  | some .dropSignaling => World.connecting w
  | some .checkConnected => World.connecting w
  | some .checkConnecting => World.isState w .rtcConnecting
  | some .setDisconnecting => true
  | some .closeMediaTracks => true
  | _ => false

/-- A handler gives a source, and the thread is past `CloseAllMediaTracks`. -/
def lateStart (s : Closing σ) : ClosingEvent → Bool
  | .complete completion =>
      (s.world.startedBy env completion).any (·.startsSource) && !closesMediaTracks s.world s.location
  | _ => false

/-- A handler with an open source is behind one whose `Close` throws. -/
def skipsHandler (s : Closing σ) : ClosingEvent → Bool
  | .advance =>
      s.location = some .closeMediaTracks &&
        s.world.connector.mediaTrackHandlersDict.keys.any fun trackName =>
          sourceOpen trackName s.world.callbacks &&
            !decide (.closeMediaTrack trackName ∈ s.world.closes env)
  | _ => false

/-- Every source that is opened is closed later. -/
def Timely (s : Closing σ) (event : ClosingEvent) : Prop :=
  lateStart env s event = false ∧ skipsHandler env s event = false

end Closing

/-! ## The callbacks made -/

theorem Environment.made_eq_take (env : Environment) (place : Nat) (callbacks : List Callback) :
    ∃ n, env.made place callbacks = callbacks.take n := by
  induction callbacks generalizing place with
  | nil => exact ⟨0, rfl⟩
  | cons callback callbacks ih =>
      by_cases hThrows : env.throws callback place = true
      · exact ⟨1, by simp [made, hThrows]⟩
      · obtain ⟨n, hRest⟩ := ih (place + 1)
        exact ⟨n + 1, by simp [made, hThrows, hRest]⟩

theorem Environment.mem_of_mem_made {env : Environment} {place : Nat} {callbacks : List Callback}
    {callback : Callback} (h : callback ∈ env.made place callbacks) : callback ∈ callbacks := by
  obtain ⟨n, hTake⟩ := env.made_eq_take place callbacks
  rw [hTake] at h
  exact List.mem_of_mem_take h

/-- Callbacks other than `Close` open sources and close none. -/
theorem sourceOpen_append_starts (trackName : String) (callbacks more : List Callback)
    (hMore : Callback.closeMediaTrack trackName ∉ more) :
    sourceOpen trackName (callbacks ++ more) =
      (sourceOpen trackName callbacks || decide (.createVideoTrackSource trackName true ∈ more)) := by
  induction more using List.reverseRecOn with
  | nil => simp
  | append_singleton more last ih =>
      rw [List.mem_append, not_or] at hMore
      have hLast : last ≠ .closeMediaTrack trackName := fun h => hMore.2 (by simp [h])
      rw [← List.append_assoc, sourceOpen_append_singleton, ih hMore.1]
      by_cases hStart : last = .createVideoTrackSource trackName true
      · simp [hStart]
      · simp [hStart, hLast, eq_comm]

namespace World

variable {σ : Type} {sc : ISignalingClient σ} {env : Environment}

open Closing (usesNull)

variable (env) in
/-- `CloseAllMediaTracks` makes the callbacks `closes` and touches nothing else. -/
theorem finalState_closeAllMediaTracks (w : World σ) :
    finalState ((closeAllMediaTracks env).run w) = { w with callbacks := w.callbacks ++ closes env w } := by
  rw [run_closeAllMediaTracks]
  split_ifs <;> rfl

/-- Only the log of callbacks and libwebrtc's side have moved on. -/
structure Started (callbacks : List Callback) (w w' : World σ) : Prop where
  connector : w'.connector = w.connector
  manager : w'.manager = w.manager
  callbacks_eq : w'.callbacks = w.callbacks ++ callbacks

theorem createVideoTrack_run {w : World σ} (hFactory : w.manager.peerConnectionFactory = true)
    (trackName : String) (handler : MediaTrackHandler) :
    (createVideoTrack trackName handler).run w = .ok handler.videoTrack
      { w with webrtc :=
          { w.webrtc with calls := w.webrtc.calls ++ [.createVideoTrack trackName] } } := by
  simp only [createVideoTrack, EStateM.run_bind, EStateM.run_get, hFactory, if_true, rtcCall]
  rfl

variable (env) in
theorem createMediaTrack_ends {w : World σ} {peer : Nat} (hPeer : w.manager.peerConnection = some peer)
    (hFactory : w.manager.peerConnectionFactory = true) {trackName : String} {handler : MediaTrackHandler}
    (hReturns : ¬ env.throws (.createVideoTrackSource trackName handler.videoSource)
      w.callbacks.length = true) :
    Ends (createMediaTrack env trackName handler) w fun _ w' =>
      Started [.createVideoTrackSource trackName handler.videoSource] w w' := by
  have hInvoke := run_invoke env (.createVideoTrackSource trackName handler.videoSource) w
  rw [if_neg hReturns] at hInvoke
  refine ends_bind ⟨(), _, hInvoke, ?_⟩
  cases handler.videoSource with
  | false => exact ends_pure ⟨rfl, rfl, rfl⟩
  | true =>
      refine ends_bind ⟨_, _, createVideoTrack_run (by exact hFactory) trackName handler, ?_⟩
      cases handler.videoTrack with
      | false => exact ends_pure ⟨rfl, rfl, rfl⟩
      | true =>
          refine Ends.congr_run (q := rtcCall (.addTrack peer trackName)) ?_
            (ends_modify ⟨rfl, rfl, rfl⟩)
          simp [addTrack, hPeer]

variable (env) in
/-- Creating tracks one after the other, with one peer connection and one factory all the while. -/
theorem forM_createMediaTrack_started {manager : PeerConnectionManager} {peer : Nat}
    (hPeer : manager.peerConnection = some peer) (hFactory : manager.peerConnectionFactory = true)
    (entries : List (String × MediaTrackHandler)) {w : World σ} (hManager : w.manager = manager) :
    let result := (entries.forM fun e => createMediaTrack env e.1 e.2).run w
    usesNull result = false ∧ Started (env.made w.callbacks.length (entries.map fun e =>
      .createVideoTrackSource e.1 e.2.videoSource)) w (finalState result) := by
  induction entries generalizing w with
  | nil => exact ⟨rfl, rfl, rfl, (List.append_nil _).symm⟩
  | cons e rest ih =>
      intro result
      have hResult : result = (createMediaTrack env e.1 e.2 >>= fun _ =>
          rest.forM fun e => createMediaTrack env e.1 e.2).run w := rfl
      by_cases hThrows :
          env.throws (.createVideoTrackSource e.1 e.2.videoSource) w.callbacks.length = true
      · -- The handler throws: its track is the last that was begun.
        have hRun : result = .error (.exception "handler")
            { w with callbacks := w.callbacks ++ [.createVideoTrackSource e.1 e.2.videoSource] } := by
          rw [hResult, EStateM.run_bind, createMediaTrack, EStateM.run_bind, run_invoke, if_pos hThrows]
        rw [hRun, List.map_cons, Environment.made, if_pos hThrows]
        exact ⟨rfl, rfl, rfl, rfl⟩
      · obtain ⟨u, w₂, hFirst, hStarted⟩ := createMediaTrack_ends env (w := w)
          (hManager ▸ hPeer) (hManager ▸ hFactory) hThrows
        have hRun : result = (rest.forM fun e => createMediaTrack env e.1 e.2).run w₂ := by
          rw [hResult, EStateM.run_bind, hFirst]
        obtain ⟨hNull, hRest⟩ := ih (hStarted.manager.trans hManager)
        rw [hRun, List.map_cons, Environment.made, if_neg hThrows]
        refine ⟨hNull, hRest.connector.trans hStarted.connector, hRest.manager.trans hStarted.manager, ?_⟩
        rw [hRest.callbacks_eq, hStarted.callbacks_eq, List.length_append, List.append_assoc]
        rfl

variable (env) in
/-- `CreateAllMediaTracks` makes the callbacks `starts`, and leaves at most through a handler's exception. -/
theorem createAllMediaTracks_started {w : World σ} {peer : Nat}
    (hPeer : w.manager.peerConnection = some peer) (hFactory : w.manager.peerConnectionFactory = true) :
    usesNull ((createAllMediaTracks env).run w) = false ∧
      Started (starts env w) w (finalState ((createAllMediaTracks env).run w)) :=
  forM_createMediaTrack_started env hPeer hFactory w.connector.mediaTrackHandlersDict.entries rfl

variable (env) in
/-- `AfterSetSessionDescription` starts the handlers; the peer connection it then uses is still there. -/
theorem afterSetSessionDescription_started {w : World σ} {peer : Nat}
    (hPeer : w.manager.peerConnection = some peer) (hFactory : w.manager.peerConnectionFactory = true) :
    usesNull ((afterSetSessionDescription env).run w) = false ∧
      (finalState ((afterSetSessionDescription env).run w)).callbacks = w.callbacks ++ starts env w := by
  obtain ⟨hNull, hStarted⟩ := createAllMediaTracks_started env hPeer hFactory
  rw [afterSetSessionDescription, EStateM.run_bind]
  cases hRun : (createAllMediaTracks env).run w with
  | error e w₁ =>
      rw [hRun] at hNull hStarted
      exact ⟨hNull, hStarted.callbacks_eq⟩
  | ok u w₁ =>
      rw [hRun] at hStarted
      have hPeer₁ : w₁.manager.peerConnection = some peer := hStarted.manager ▸ hPeer
      simp only [EStateM.run_bind, EStateM.run_get, hPeer₁, dereference_some, EStateM.run_pure, rtcCall,
        rtcStart]
      exact ⟨rfl, hStarted.callbacks_eq⟩

/-- A send from a callback uses a null pointer exactly if `signaling_client_` is null. -/
theorem usesNull_callSignaling {p : Program σ Unit} (hp : FaultsOnly (·.isException) p) (w : World σ) :
    usesNull ((callSignaling p).run w) = !w.manager.signalingClient := by
  cases hSignaling : w.manager.signalingClient with
  | false =>
      simp [callSignaling, hSignaling]
      rfl
  | true =>
      have hRun : (callSignaling p).run w = (onSignaling p).run w := by simp [callSignaling, hSignaling]
      rw [hRun]
      cases hSend : (onSignaling p).run w with
      | ok u w' => rfl
      | error e w' =>
          have hException : e.isException = true := faultsOnly_zoom hp w e w' hSend
          simp [usesNull, hException]

variable (env) in
/-- **What a completion does**: it uses a null pointer exactly if it is a late send, and it makes the
callbacks that start the handlers. -/
theorem complete_effect (hExceptions : sc.ThrowsExceptions) {w : World σ} (hFactory : FactoryHeld w)
    (location : Option Location) (completion : Completion) :
    usesNull ((complete sc env completion).run w) =
        Closing.lateSend ⟨location, w⟩ (.complete completion) ∧
      (finalState ((complete sc env completion).run w)).callbacks =
        w.callbacks ++ startedBy env w completion := by
  cases hOwed : owes w completion with
  | false =>
      -- What was not asked for is not reported.
      rw [complete_idle hOwed]
      cases completion with
      | createAnswer sdp => exact ⟨rfl, (List.append_nil _).symm⟩
      | setRemoteDescription ok => cases ok <;> simp [usesNull, Closing.lateSend, startedBy, hOwed]
      | setLocalDescription desc ok => cases ok <;> simp [usesNull, Closing.lateSend, startedBy, hOwed]
  | true =>
      obtain ⟨peer, hPeer, hRun⟩ := complete_owed sc env hOwed
      rw [hRun]
      cases completion with
      | setRemoteDescription ok =>
          cases ok with
          | false => exact ⟨rfl, (List.append_nil _).symm⟩
          | true =>
              have hHeld : w.manager.peerConnectionFactory = true := hFactory (by simp [session, hPeer])
              obtain ⟨hNull, hCallbacks⟩ := afterSetSessionDescription_started env
                (w := paid w peer (.setRemoteDescription true)) hPeer hHeld
              refine ⟨hNull, hCallbacks.trans ?_⟩
              simp [startedBy, hOwed, paid, starts]
      | createAnswer sdp =>
          cases sdp with
          | none => exact ⟨rfl, (List.append_nil _).symm⟩
          | some sdp =>
              simp only [onCompletion, afterCreateSdpAnswer, EStateM.run_bind, EStateM.run_get, paid, hPeer,
                dereference_some, EStateM.run_pure, rtcCall, rtcStart]
              exact ⟨rfl, (List.append_nil _).symm⟩
      | setLocalDescription desc ok =>
          cases ok with
          | false => exact ⟨rfl, (List.append_nil _).symm⟩
          | true =>
              refine ⟨(usesNull_callSignaling (hExceptions.sendSdpAnswer desc) _).trans ?_, ?_⟩
              · simp [Closing.lateSend, hOwed, paid]
              · have hSame := congrArg HandlerSide.callbacks
                  (keepsHandlers_callSignaling (sc.sendSdpAnswer desc)
                    (paid w peer (.setLocalDescription desc true)))
                exact hSame.trans (List.append_nil _).symm

variable (env) in
/-- **What a gathered candidate does**: it uses a null pointer exactly if it is a late send. -/
theorem usesNull_iceCandidate (hExceptions : sc.ThrowsExceptions) (w : World σ)
    (location : Option Location) (candidate : Option CandidateInit) :
    usesNull ((handle sc env (.iceCandidate candidate)).run w) =
      Closing.lateSend ⟨location, w⟩ (.iceCandidate candidate) := by
  cases hPeer : w.manager.peerConnection with
  | none =>
      have hRun : (handle sc env (.iceCandidate candidate)).run w = .ok () w := fromPeer_none hPeer _
      rw [hRun]
      cases candidate <;> simp [usesNull, Closing.lateSend, hPeer]
  | some peer =>
      have hRun : (handle sc env (.iceCandidate candidate)).run w =
          (onIceCandidate sc (candidate.map fun init => ⟨peer, init⟩)).run w := fromPeer_some hPeer _
      rw [hRun]
      cases candidate with
      | none => rfl
      | some init =>
          refine (usesNull_callSignaling (hExceptions.sendIceCandidate _) w).trans ?_
          simp [Closing.lateSend, hPeer]

/-! ## The factory -/

/-- The routine leaves no peer connection without a factory. -/
def KeepsFactory {α : Type} (p : Program (World σ) α) : Prop :=
  Within (fun w w' => FactoryHeld w → FactoryHeld w') p

theorem KeepsSession.keepsFactory {α : Type} {p : Program (World σ) α} (h : KeepsSession p) :
    KeepsFactory p :=
  h.mono fun w w' hSame hFactory => by rwa [FactoryHeld, hSame]

theorem keepsFactory_setState (newState : ConnectorState) : KeepsFactory (setState sc newState) := by
  intro w hFactory
  rw [FactoryHeld, session_setState]
  exact hFactory

theorem keepsFactory_assignPeerConnection_none :
    KeepsFactory (assignPeerConnection none : Program (World σ) Unit) := by
  intro w hFactory hHeld
  rw [session_assignPeerConnection_none] at hHeld
  exact absurd hHeld (by simp)

theorem keepsFactory_createPeerConnection (created : Bool) :
    KeepsFactory (createPeerConnection created : Program (World σ) Unit) := by
  intro w hFactory
  rcases session_createPeerConnection created w with hSame | ⟨-, hMade, hOpened⟩
  · rw [FactoryHeld, hSame]
    exact hFactory
  · rw [FactoryHeld, hOpened]
    exact fun _ => hMade

theorem keepsFactory_setRemoteDescription (sdpOffer : String) :
    KeepsFactory (setRemoteDescription sc sdpOffer) :=
  within_setRemoteDescription (keepsFactory_setState _) (fun _ => (keepsSession_rtcCall rfl).keepsFactory)
    fun _ => (keepsSession_rtcStart _ _).keepsFactory

theorem keepsFactory_closePeerConnection (inside : Reentry) :
    KeepsFactory (closePeerConnection sc env (deliver sc env inside)) := by
  intro w hFactory
  cases hConnecting : connecting w with
  | false =>
      rw [closePeerConnection_idle hConnecting]
      exact hFactory
  | true =>
      rcases session_closePeerConnection sc env hConnecting inside with h | h | h
      · rw [FactoryHeld, h]
        exact hFactory
      · rw [FactoryHeld, h]
        exact hFactory
      · rw [FactoryHeld, h]
        intro hHeld
        exact absurd hHeld (by simp [Session.closed])

/-- Between `InitializeWebRTC` and `ShuttingDown`, a peer connection has a factory, whatever throws. -/
theorem factoryHeld_step {w : World σ} (h : FactoryHeld w) {event : ConnectorEvent}
    (hEvent : event.InSession) : FactoryHeld (step sc env w event) := by
  have hKeeps : KeepsFactory (handle sc env event) := by
    cases event with
    | initializeWebRTC factory => exact absurd hEvent id
    | shuttingDown inside => exact absurd hEvent id
    | addDataChannelHandler label => exact keepsSession_addDataChannelHandler.keepsFactory
    | addMediaTrackHandler trackName handler => exact keepsSession_addMediaTrackHandler.keepsFactory
    | closeMessage inside => exact keepsFactory_closePeerConnection _
    | iceCandidateMessage candidate => exact keepsSession_handleIceCandidate.keepsFactory
    | complete completion => exact (keepsSession_complete _).keepsFactory
    | iceCandidate candidate => exact keepsSession_iceCandidate.keepsFactory
    | dataChannel label => exact keepsSession_deliverDataChannel.keepsFactory
    | channelState channel state => exact within_modify fun _ => id
    | stateBroadcast => exact keepsSession_sendState.keepsFactory
    | sdpOffer sdpOffer created inside =>
        apply within_handleSdpOffer
        · exact keepsFactory_closePeerConnection _
        · exact within_acceptOffer (keepsFactory_setState _) (keepsFactory_createPeerConnection _)
            (keepsFactory_setRemoteDescription _)
    | connectionChange newState inside =>
        apply within_fromPeer
        intro _
        exact within_onConnectionChange (keepsFactory_setState _) (keepsFactory_closePeerConnection _)
  exact hKeeps w h

variable (sc env) in
/-- Where a close begins: any state after `InitializeWebRTC` and events before `ShuttingDown`. -/
theorem factoryHeld_registered_run (signaling : σ) (states : Nat → DataState)
    (iceServers : List IceServerConfig) (factory : Bool) {events : List ConnectorEvent}
    (hEvents : ∀ event ∈ events, event.InSession) :
    let w := run (step sc env) (wired signaling states iceServers) (.initializeWebRTC factory :: events)
    FactoryHeld w ∧ Registered w := by
  intro w
  have hStart : FactoryHeld (step sc env (wired signaling states iceServers) (.initializeWebRTC factory)) ∧
      Registered (step sc env (wired signaling states iceServers) (.initializeWebRTC factory)) := by
    constructor
    · have hKeeps := session_setState sc .readyToConnect
        { (wired signaling states iceServers : World σ) with
          manager :=
            { (wired signaling states iceServers : World σ).manager with
              networkThread := true, workerThread := true, signalingThread := true
              peerConnectionFactory := factory } }
      intro hHeld
      have hNone := congrArg (fun s => s.peerConnection.isSome) hKeeps
      exact absurd (hNone.symm.trans hHeld) (by simp [session, wired])
    · exact registered_step _ _ (fun trackName hOpen => by simp [wired] at hOpen) _
  exact run_invariant (I := fun w => FactoryHeld w ∧ Registered w) (A := ConnectorEvent.InSession)
    (fun w event hEvent h => ⟨factoryHeld_step h.1 hEvent, registered_step _ _ h.2 event⟩) hStart hEvents

/-! ## What a statement does -/

/-- The callbacks made on handlers, and the media track handlers. -/
def mediaSide (w : World σ) : List Callback × OrderedMap String MediaTrackHandler :=
  (w.callbacks, w.connector.mediaTrackHandlersDict)

variable {routine : Routine}

variable (sc env routine) in
/-- Only `CloseAllMediaTracks` calls media track handlers. -/
theorem mediaSide_statement {location : Location} (hOther : location ≠ .closeMediaTracks) (w : World σ) :
    mediaSide (finalState ((statement sc env routine location).run w)) = mediaSide w := by
  have hLift {p : Program (World σ) Unit} (hp : KeepsHandlers p) :
      Within (fun w w' => mediaSide w' = mediaSide w) p := hp.mono fun w w' hSame => by
    rw [mediaSide, mediaSide, show w'.callbacks = w.callbacks from congrArg HandlerSide.callbacks hSame,
      show w'.connector = w.connector from congrArg HandlerSide.connector hSame]
  have hStatement : Within (fun w w' => mediaSide w' = mediaSide w)
      (statement sc env routine location) := by
    apply within_statement
    · exact fun _ => hLift (keepsHandlers_setState _)
    · exact fun hMedia => absurd hMedia hOther
    · exact within_closeAllDataChannels fun _ => within_onDataChannelHandler fun _ _ => rfl
    · exact fun _ _ => hLift (keepsHandlers_rtcCall _)
    · exact fun _ => hLift (keepsHandlers_assignPeerConnection _)
    · exact fun _ => hLift (keepsHandlers_createPeerConnection _)
    · exact fun _ => hLift (keepsHandlers_rtcCall _)
    · exact fun _ => hLift (keepsHandlers_rtcStart _ _)
    · exact hLift (keepsHandlers_onSignaling _)
    · exact fun _ => rfl
    · exact fun _ => hLift keepsHandlers_destroyFactoryAndThreads
  exact hStatement w

variable (sc env routine) in
/-- `closeMediaTracks` makes the callbacks `closes`. -/
theorem mediaSide_closeMediaTracks (w : World σ) :
    mediaSide (finalState ((statement sc env routine .closeMediaTracks).run w)) =
      (w.callbacks ++ closes env w, w.connector.mediaTrackHandlersDict) := by
  have hLoop := finalState_closeAllMediaTracks env w
  show mediaSide (finalState (inTry (closeAllMediaTracks env >>= fun _ => pure _) w)) = _
  rw [inTry, EStateM.run_bind]
  cases hRun : (closeAllMediaTracks env).run w with
  | ok u w' =>
      rw [hRun] at hLoop
      rw [show w' = _ from hLoop]
      rfl
  | error e w' =>
      rw [hRun] at hLoop
      rw [show w' = _ from hLoop]
      by_cases hException : e.isException = true
      · simp [hException, mediaSide]
      · simp [hException, mediaSide]

/-- After `CloseAllMediaTracks`, the sources of the handlers it reached are closed. -/
theorem sourceOpen_append_closes (trackName : String) (w : World σ) :
    sourceOpen trackName (w.callbacks ++ closes env w) =
      if .closeMediaTrack trackName ∈ closes env w then false else sourceOpen trackName w.callbacks := by
  obtain ⟨n, hTake⟩ := env.made_eq_take w.callbacks.length (closing w)
  have hMem : .closeMediaTrack trackName ∈ (w.connector.mediaTrackHandlersDict.keys.take n).map
      Callback.closeMediaTrack ↔ trackName ∈ w.connector.mediaTrackHandlersDict.keys.take n :=
    List.mem_map_of_injective fun _ _ hSame => by cases hSame; rfl
  rw [closes, hTake, closing, ← List.map_take, sourceOpen_append_close]
  simp only [hMem]

/-- A completion begins nothing but sources. -/
theorem source_of_mem_startedBy {w : World σ} {completion : Completion} {callback : Callback}
    (hMem : callback ∈ startedBy env w completion) :
    ∃ trackName created, callback = .createVideoTrackSource trackName created := by
  have hStarts : callback ∈ starts env w := by
    cases completion with
    | createAnswer sdp => simp [startedBy] at hMem
    | setLocalDescription desc ok => simp [startedBy] at hMem
    | setRemoteDescription ok =>
        cases ok with
        | false => simp [startedBy] at hMem
        | true =>
            rw [startedBy] at hMem
            split_ifs at hMem
            · exact hMem
            · simp at hMem
  obtain ⟨e, _, rfl⟩ := List.mem_map.mp (Environment.mem_of_mem_made hStarts)
  exact ⟨e.1, e.2.videoSource, rfl⟩

/-- The handlers that a completion starts have their sources open; no other source changes. -/
theorem sourcesClosed_append_startedBy {w w' : World σ} {completion : Completion}
    (hCallbacks : w'.callbacks = w.callbacks ++ startedBy env w completion) :
    SourcesClosed w' ↔
      SourcesClosed w ∧ (startedBy env w completion).any (·.startsSource) = false := by
  -- So a completion may open sources, and closes none.
  have hOpen : ∀ trackName, sourceOpen trackName w'.callbacks = (sourceOpen trackName w.callbacks ||
      decide (.createVideoTrackSource trackName true ∈ startedBy env w completion)) := by
    intro trackName
    rw [hCallbacks]
    refine sourceOpen_append_starts trackName _ _ fun hMem => ?_
    obtain ⟨_, _, hNot⟩ := source_of_mem_startedBy hMem
    cases hNot
  constructor
  · intro hClosed
    refine ⟨fun trackName => ?_, ?_⟩
    · have hBoth := hClosed trackName
      rw [hOpen, Bool.or_eq_false_iff] at hBoth
      exact hBoth.1
    · rw [List.any_eq_false]
      intro callback hMem hSource
      obtain ⟨trackName, created, rfl⟩ := source_of_mem_startedBy hMem
      have hCreated : created = true := hSource
      have hBoth := hClosed trackName
      rw [hOpen, Bool.or_eq_false_iff, decide_eq_false_iff_not] at hBoth
      exact hBoth.2 (hCreated ▸ hMem)
  · rintro ⟨hClosed, hNone⟩ trackName
    rw [hOpen, hClosed trackName, Bool.false_or, decide_eq_false_iff_not]
    intro hMem
    exact List.any_eq_false.mp hNone _ hMem rfl

/-- A statement that returns and was not `CloseAllMediaTracks` leaves open whether the thread goes on to it
as it was before. -/
theorem closesMediaTracks_statement {location : Location} (hOther : location ≠ .closeMediaTracks)
    {w w' : World σ} {next : Option Location}
    (hRun : (statement sc env routine location).run w = .ok next w') :
    Closing.closesMediaTracks w' next = Closing.closesMediaTracks w (some location) := by
  have hAfter : ∀ w : World σ, Closing.closesMediaTracks w routine.afterClose = false := by
    intro w
    cases routine <;> rfl
  have hMem := next_mem_successors hRun
  cases location with
  | closeMediaTracks => exact absurd rfl hOther
  | checkConnected =>
      rw [run_checkConnected] at hRun
      cases hRun
      by_cases hConnected : isState w .rtcConnected = true
      · simp [Closing.closesMediaTracks, connecting, hConnected]
      · simp [Closing.closesMediaTracks, connecting, hConnected]
  | checkConnecting =>
      rw [run_checkConnecting] at hRun
      cases hRun
      by_cases hConnecting : isState w .rtcConnecting = true
      · rw [if_pos hConnecting]
        exact hConnecting.symm
      · rw [if_neg hConnecting, hAfter]
        exact (Bool.not_eq_true _ ▸ hConnecting : isState w .rtcConnecting = false).symm
  | testExisting =>
      rw [run_testExisting] at hRun
      cases hRun
      by_cases hHeld : w.manager.peerConnection.isSome = true
      · simp [Closing.closesMediaTracks, hHeld]
      · simp [Closing.closesMediaTracks, hHeld]
  | setDisconnected =>
      -- The state that this sets passes neither check.
      obtain ⟨hSet, rfl⟩ := next_fixed hRun
      have hState := session_setState sc .disconnected w
      rw [hSet, finalState_ok] at hState
      exact connecting_eq_false .disconnected (congrArg Session.state hState) (by decide)
  | stopSignaling =>
      have hStop : KeepsSession (statement sc env routine .stopSignaling) := by
        apply within_get_bind
        intro _
        refine within_ite ?_ (within_pure _)
        apply within_bind
        · exact keepsSession_onSignaling _
        intro _
        exact within_pure _
      have hSession := hStop w
      rw [hRun, finalState_ok] at hSession
      simp only [Routine.successors, List.mem_cons, List.not_mem_nil, or_false] at hMem
      rcases hMem with rfl | rfl <;> exact connecting_congr (by rw [hSession])
  | dropSignaling =>
      obtain ⟨hDrop, rfl⟩ := next_fixed hRun
      cases hDrop
      rfl
  | setReady =>
      rw [List.mem_singleton.mp hMem]
      exact hAfter _
  | closeDataChannels =>
      simp only [Routine.successors, List.mem_cons, List.not_mem_nil, or_false] at hMem
      rcases hMem with rfl | rfl <;> rfl
  | testPeer =>
      simp only [Routine.successors, List.mem_cons, List.not_mem_nil, or_false] at hMem
      rcases hMem with rfl | rfl <;> rfl
  | checkReady =>
      simp only [Routine.successors, List.mem_cons, List.not_mem_nil, or_false] at hMem
      rcases hMem with rfl | rfl <;> rfl
  | testCreated =>
      simp only [Routine.successors, List.mem_cons, List.not_mem_nil, or_false] at hMem
      rcases hMem with rfl | rfl <;> rfl
  | setDisconnecting => cases List.mem_singleton.mp hMem; rfl
  | setConnecting => cases List.mem_singleton.mp hMem; rfl
  | setFailed => cases List.mem_singleton.mp hMem; rfl
  | closePeer => cases List.mem_singleton.mp hMem; rfl
  | dropPeer => cases List.mem_singleton.mp hMem; rfl
  | createPeer => cases List.mem_singleton.mp hMem; rfl
  | setRemote => cases List.mem_singleton.mp hMem; rfl
  | destroyPeer => cases List.mem_singleton.mp hMem; rfl
  | destroyRest => cases List.mem_singleton.mp hMem; rfl

/-- `closeMediaTracks` is behind the thread once it has returned. -/
theorem closesMediaTracks_closeMediaTracks {w w' : World σ} {next : Option Location}
    (hRun : (statement sc env routine .closeMediaTracks).run w = .ok next w') :
    Closing.closesMediaTracks w' next = false := by
  have hMem := next_mem_successors hRun
  simp only [Routine.successors, List.mem_cons, List.not_mem_nil, or_false] at hMem
  rcases hMem with rfl | rfl <;> rfl

/-- Every statement but the last keeps a factory for the peer connection. -/
theorem keepsFactory_statement {location : Location} (hLast : location ≠ .destroyRest) :
    KeepsFactory (statement sc env routine location) := by
  apply within_statement
  · exact keepsFactory_setState
  · exact fun _ => keepsSession_closeAllMediaTracks.keepsFactory
  · exact keepsSession_closeAllDataChannels.keepsFactory
  · exact fun _ _ => within_modify fun _ => id
  · exact fun _ => keepsFactory_assignPeerConnection_none
  · exact fun _ => keepsFactory_createPeerConnection _
  · exact fun _ => (keepsSession_rtcCall rfl).keepsFactory
  · exact fun _ => (keepsSession_rtcStart _ _).keepsFactory
  · exact (keepsSession_onSignaling _).keepsFactory
  · exact fun _ => id
  · exact fun hDestroy => absurd hDestroy hLast

end World

/-! ## Runs -/

namespace Closing

variable {σ : Type} {sc : ISignalingClient σ} {env : Environment} {routine : Routine}

/-- The invariant of every close. -/
structure Invariant (s : Closing σ) : Prop where
  factoryHeld : World.FactoryHeld s.world
  registered : World.Registered s.world
  destroying : s.location = some .destroyRest → s.world.manager.peerConnection = none

/-- A callback keeps the invariant. -/
theorem invariant_callback {s : Closing σ} (h : Invariant s) (event : ConnectorEvent)
    (hEvent : event.InSession) (hKeeps : World.KeepsSession (World.handle sc env event)) :
    Invariant { s with world := World.step sc env s.world event } where
  factoryHeld := World.factoryHeld_step h.factoryHeld hEvent
  registered := World.registered_step _ _ h.registered event
  destroying := fun hLocation =>
    (congrArg Session.peerConnection (hKeeps s.world)).trans (h.destroying hLocation)

/-- The handlers' part of the invariant. -/
theorem registered_statement {location : Location} {w : World σ} (h : World.Registered w) :
    World.Registered (finalState ((World.statement sc env routine location).run w)) := by
  by_cases hMedia : location = .closeMediaTracks
  · subst hMedia
    have hSide := World.mediaSide_closeMediaTracks sc env routine w
    obtain ⟨hCallbacks, hHandlers⟩ := Prod.mk.inj hSide
    intro trackName hOpen
    rw [hHandlers]
    refine h trackName ?_
    rw [hCallbacks, World.sourceOpen_append_closes] at hOpen
    split_ifs at hOpen
    exact hOpen
  · have hSide := World.mediaSide_statement sc env routine hMedia w
    obtain ⟨hCallbacks, hHandlers⟩ := Prod.mk.inj hSide
    rw [World.Registered, hCallbacks, hHandlers]
    exact h

/-- A statement keeps the invariant, whether it returns or throws. -/
theorem invariant_statement {location : Location} {w : World σ} (h : Invariant ⟨some location, w⟩) :
    Invariant ⟨(World.advance sc env routine (some location, w)).1,
      (World.advance sc env routine (some location, w)).2⟩ := by
  have hEnd := World.advance_snd sc env routine location w
  refine ⟨?_, ?_, fun hNext => ?_⟩
  · show World.FactoryHeld (World.advance sc env routine (some location, w)).2
    rw [hEnd]
    by_cases hLast : location = .destroyRest
    · subst hLast
      have hRest := World.session_destroyFactoryAndThreads w
      rw [World.FactoryHeld, World.statement, finalState_bind_pure, hRest]
      intro hHeld
      exact absurd (hHeld.symm.trans (congrArg Option.isSome (h.destroying rfl))) (by simp)
    · exact World.keepsFactory_statement hLast w h.factoryHeld
  · show World.Registered (World.advance sc env routine (some location, w)).2
    rw [hEnd]
    exact registered_statement h.registered
  · -- Only `destroyPeer` leads to the last statement, and it drops the peer connection.
    have hMem := World.advance_fst_mem hNext
    have hLocation : location = .destroyPeer := by
      cases location <;> cases routine <;> simp [Routine.successors, Routine.afterClose] at hMem <;> rfl
    subst hLocation
    show (World.session (World.advance sc env routine (some .destroyPeer, w)).2).peerConnection = none
    rw [hEnd, World.statement, finalState_bind_pure, World.session_assignPeerConnection_none]

theorem invariant_step (s : Closing σ) (event : ClosingEvent) (h : Invariant s) :
    Invariant (step sc env routine s event) := by
  cases event with
  | complete completion =>
      exact invariant_callback h (.complete completion) trivial (World.keepsSession_complete _)
  | iceCandidate candidate =>
      exact invariant_callback h (.iceCandidate candidate) trivial World.keepsSession_iceCandidate
  | advance =>
      obtain ⟨location, w⟩ := s
      cases location with
      | none => exact h
      | some location => exact invariant_statement h

/-- A callback uses a null pointer exactly if it is a late send. -/
theorem noNull_iff (hExceptions : sc.ThrowsExceptions) {s : Closing σ} (h : Invariant s)
    (event : ClosingEvent) : NoNull sc env s event ↔ lateSend s event = false := by
  cases event with
  | advance => exact iff_of_true trivial rfl
  | complete completion =>
      have hNull := (World.complete_effect env hExceptions h.factoryHeld s.location completion).1
      rw [NoNull, ← hNull]
      rfl
  | iceCandidate candidate =>
      have hNull := World.usesNull_iceCandidate env hExceptions s.world s.location candidate
      rw [NoNull, ← hNull]

/-- The open sources are going to be closed. -/
def Quiet (s : Closing σ) : Prop :=
  closesMediaTracks s.world s.location = true ∨ World.SourcesClosed s.world

theorem closesMediaTracks_congr {w w' : World σ} (hSame : World.session w' = World.session w)
    (location : Option Location) : closesMediaTracks w' location = closesMediaTracks w location := by
  have hHeld : w'.manager.peerConnection = w.manager.peerConnection :=
    congrArg Session.peerConnection hSame
  have hState : w'.stateManager.state = w.stateManager.state := congrArg Session.state hSame
  have hConnecting : World.connecting w' = World.connecting w :=
    World.connecting_congr (congrArg Session.state hSame)
  cases location with
  | none => rfl
  | some location =>
      cases location <;> simp [closesMediaTracks, hHeld, hConnecting, World.isState, hState]

/-- A statement that returns. -/
theorem quiet_statement {location : Location} {w w' : World σ} {next : Option Location}
    (h : Invariant ⟨some location, w⟩)
    (hRun : (World.statement sc env routine location).run w = .ok next w') :
    Quiet ⟨next, w'⟩ ↔
      Quiet ⟨some location, w⟩ ∧ skipsHandler env ⟨some location, w⟩ .advance = false := by
  by_cases hMedia : location = .closeMediaTracks
  · -- `CloseAllMediaTracks` leaves a source open only behind a handler that throws.
    subst hMedia
    have hBehind := World.closesMediaTracks_closeMediaTracks hRun
    have hSide := World.mediaSide_closeMediaTracks sc env routine w
    rw [hRun, finalState_ok] at hSide
    obtain ⟨hCallbacks, _⟩ := Prod.mk.inj hSide
    have hQuiet : Quiet ⟨some .closeMediaTracks, w⟩ := .inl rfl
    have hNext : Quiet ⟨next, w'⟩ ↔ World.SourcesClosed w' := by simp [Quiet, hBehind]
    rw [hNext, and_iff_right hQuiet]
    simp only [World.SourcesClosed, hCallbacks, World.sourceOpen_append_closes, skipsHandler,
      decide_true, Bool.true_and, List.any_eq_false, Bool.and_eq_true, Bool.not_eq_true',
      decide_eq_false_iff_not, not_and, not_not]
    constructor
    · intro hClosed trackName _ hOpen
      by_contra hSkipped
      have hStill := hClosed trackName
      rw [if_neg hSkipped, hOpen] at hStill
      cases hStill
    · intro hReached trackName
      split_ifs with hClose
      · rfl
      · by_contra hOpen
        have hOpen' : sourceOpen trackName w.callbacks = true := by simpa using hOpen
        exact hClose (hReached trackName (h.registered trackName hOpen') hOpen')
  · have hAhead := World.closesMediaTracks_statement hMedia hRun
    have hSide := World.mediaSide_statement sc env routine hMedia w
    rw [hRun, finalState_ok] at hSide
    obtain ⟨hCallbacks, _⟩ := Prod.mk.inj hSide
    simp [Quiet, hAhead, World.SourcesClosed, hCallbacks, skipsHandler, hMedia]

/-- **One event**: the open sources are still going to be closed exactly if they were before and the event is
timely. -/
theorem quiet_step (hExceptions : sc.ThrowsExceptions) (s : Closing σ) (event : ClosingEvent)
    (h : Invariant s) (hReturns : returns sc env routine s event = true) :
    Quiet (step sc env routine s event) ↔ Quiet s ∧ Timely env s event := by
  cases event with
  | advance =>
      obtain ⟨location, w⟩ := s
      cases location with
      | none =>
          show Quiet ⟨none, w⟩ ↔ Quiet ⟨none, w⟩ ∧ _
          simp [Timely, lateStart, skipsHandler]
      | some location =>
          cases hRun : (World.statement sc env routine location).run w with
          | error e w' => simp [returns, hRun] at hReturns
          | ok next w' =>
              have hStep : step sc env routine ⟨some location, w⟩ .advance = ⟨next, w'⟩ := by
                simp [step, World.advance, hRun]
              have hStart : lateStart env ⟨some location, w⟩ .advance = false := rfl
              rw [hStep, quiet_statement h hRun, Timely, and_iff_right hStart]
  | iceCandidate candidate =>
      have hSession : World.session (World.step sc env s.world (.iceCandidate candidate)) =
          World.session s.world := World.keepsSession_iceCandidate s.world
      have hSide : World.handlerSide (World.step sc env s.world (.iceCandidate candidate)) =
          World.handlerSide s.world := World.keepsHandlers_iceCandidate candidate s.world
      have hCallbacks : (World.step sc env s.world (.iceCandidate candidate)).callbacks =
          s.world.callbacks := congrArg HandlerSide.callbacks hSide
      simp [Quiet, step, closesMediaTracks_congr hSession, World.SourcesClosed, hCallbacks, Timely,
        lateStart, skipsHandler]
  | complete completion =>
      have hSession : World.session (World.step sc env s.world (.complete completion)) =
          World.session s.world := World.keepsSession_complete completion s.world
      have hCallbacks : (World.step sc env s.world (.complete completion)).callbacks = _ :=
        (World.complete_effect env hExceptions h.factoryHeld s.location completion).2
      have hSources := World.sourcesClosed_append_startedBy hCallbacks
      have hSkips : skipsHandler env s (.complete completion) = false := rfl
      simp only [Quiet, step, closesMediaTracks_congr hSession, hSources, Timely, hSkips, lateStart,
        Bool.and_eq_false_iff, Bool.not_eq_false', and_true]
      -- A source that is opened stays open if `CloseAllMediaTracks` has been passed.
      cases closesMediaTracks s.world s.location with
      | true => simp
      | false => simp

/-- **When callbacks during a close are harmless.**  From any state between `InitializeWebRTC` and
`ShuttingDown`, over any interleaving of the statements of a close with callbacks, whatever throws:

* no callback dereferences a null pointer exactly when none sends after `signaling_client_` was reset;
* once the close has finished, no source is open exactly when the close went to `CloseAllMediaTracks` or none
  was open before it, no completion started handlers behind `CloseAllMediaTracks`, and no handler that throws
  kept the ones behind it open. -/
theorem closing_harmless_iff (hExceptions : sc.ThrowsExceptions) (signaling : σ)
    (states : Nat → DataState) (iceServers : List IceServerConfig) (factory : Bool)
    (before : List ConnectorEvent) (hBefore : ∀ event ∈ before, event.InSession) (routine : Routine)
    (events : List ClosingEvent) :
    let s := begin routine (run (World.step sc env) (World.wired signaling states iceServers)
      (.initializeWebRTC factory :: before))
    (EachStep (step sc env routine) (NoNull sc env) s events ↔
        EachStep (step sc env routine) (fun s event => lateSend s event = false) s events) ∧
      (Finished sc env routine s events →
        (World.SourcesClosed (run (step sc env routine) s events).world ↔
          Quiet s ∧ EachStep (step sc env routine) (Timely env) s events)) := by
  intro s
  have hWorld := World.factoryHeld_registered_run sc env signaling states iceServers
    factory hBefore
  have hStart : Invariant s := by
    refine ⟨hWorld.1, hWorld.2, fun hLocation => ?_⟩
    cases routine <;> cases hLocation
  refine ⟨?_, fun ⟨hReturns, hEnd⟩ => ?_⟩
  · exact eachStep_iff (I := Invariant) (A := fun _ => True)
      (fun s event _ h _ => invariant_step s event h) (fun s event _ h => noNull_iff hExceptions h event)
      hStart fun _ _ => trivial
  · have hQuiet := last_iff_eachStep (P := Quiet) (G := Timely env) invariant_step
      (quiet_step hExceptions) hStart hReturns
    rw [← hQuiet]
    simp [Quiet, hEnd, closesMediaTracks]

/-- A session with a camera, before the completion of its `SetRemoteDescription`. -/
def cameraSession : World Unit :=
  run (World.step .offline .calm) (World.wired () (fun _ => .kConnecting) [])
    [.initializeWebRTC true, .addMediaTrackHandler "camera" {}, .sdpOffer "a" true .done]

/-- A close in which `SetRemoteDescription` succeeds before the first state check. -/
theorem closing_harmless_iff_early_completion :
    let events : List ClosingEvent :=
      .complete (.setRemoteDescription true) :: List.replicate 9 .advance
    let s := begin .closePeerConnection cameraSession
    World.SourcesClosed (run (step .offline .calm .closePeerConnection) s events).world ↔
      Quiet s ∧ EachStep (step .offline .calm .closePeerConnection) (Timely .calm) s events :=
  (@closing_harmless_iff _ .offline .calm
    ISignalingClient.neverFaults_offline.throwsExceptions () (fun _ => .kConnecting) [] true
    [.addMediaTrackHandler "camera" {}, .sdpOffer "a" true .done] (by simp [ConnectorEvent.InSession])
    .closePeerConnection (.complete (.setRemoteDescription true) :: List.replicate 9 .advance)).2 (by decide)

/-- `SetRemoteDescription` succeeds right after `CloseAllMediaTracks`: the close finishes, and the camera is on.
In `ShuttingDown`, a candidate gathered after `signaling_client_` was reset is sent through the null pointer. -/
theorem late_callbacks_not_harmless :
    let advances (n : Nat) : List ClosingEvent := List.replicate n .advance
    let close := begin .closePeerConnection cameraSession
    let events := advances 4 ++ .complete (.setRemoteDescription true) :: advances 5
    (Finished .offline .calm .closePeerConnection close events ∧
        ¬ World.SourcesClosed (run (step .offline .calm .closePeerConnection) close events).world) ∧
      ¬ EachStep (step .offline .calm .shuttingDown) (NoNull .offline .calm)
        (begin .shuttingDown cameraSession)
        (advances 3 ++ [.iceCandidate (some ⟨"candidate", "0", 0⟩)]) := by
  refine ⟨⟨by decide, fun hClosed => ?_⟩, by decide⟩
  exact absurd (hClosed "camera") (by decide)

end Closing

end MosaicCore
