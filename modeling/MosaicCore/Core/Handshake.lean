import MosaicCore.Core.ClosingWithCallbacks

/-!
# A negotiation that is under way

From the offer to the answer libwebrtc is asked for three operations, one after the other.  `Underway` is the stage at
which the completion of one of them is waited for.  An event that does not disturb the negotiation keeps the stage
(`Underway.step`), unless it is that completion, which leads to the next stage (`Underway.describe`,
`Underway.setLocal`).
-/

namespace MosaicCore

open EffectProgram

/-- The operation has succeeded. -/
def Completion.succeeded : Completion → Bool
  | .setRemoteDescription ok => ok
  | .createAnswer sdp => sdp.isSome
  | .setLocalDescription _ ok => ok

/-- The event does not disturb a negotiation: it neither begins another one, nor initializes the connector again, nor
ends a connection, and is not a failure. -/
def ConnectorEvent.letsFinish : ConnectorEvent → Bool
  | .initializeWebRTC _ => false
  | .sdpOffer _ _ _ => false
  | .closeMessage _ => false
  | .shuttingDown _ => false
  | .connectionChange (.ended _) _ => false
  | .complete completion => completion.succeeded
  | _ => true

namespace World

variable {σ α : Type} {sc : ISignalingClient σ} {env : Environment}

/-- A peer connection is held, with a factory and a signaling client, and owes the completion of an operation. -/
structure Underway (w : World σ) (peer : Nat) (operation : Operation) : Prop where
  held : w.manager.peerConnection = some peer
  factory : w.manager.peerConnectionFactory = true
  client : w.manager.signalingClient = true
  owed : (peer, operation) ∈ w.webrtc.awaiting

theorem Underway.owes {w : World σ} {peer : Nat} {completion : Completion}
    (h : Underway w peer completion.operation) : World.owes w completion = true := by
  simpa [World.owes, h.held] using h.owed

theorem mem_awaiting_of_owes {w : World σ} {completion : Completion} (hOwed : World.owes w completion = true) :
    ∃ peer, w.manager.peerConnection = some peer ∧ (peer, completion.operation) ∈ w.webrtc.awaiting := by
  rw [World.owes] at hOwed
  cases hHeld : w.manager.peerConnection with
  | none => simp [hHeld] at hOwed
  | some peer => exact ⟨peer, rfl, by simpa [hHeld] using hOwed⟩

/-! ## What keeps a stage -/

/-- The fields of the manager stay, and so does the completion that is waited for. -/
def KeepsStage (stage : Nat × Operation) (p : Program (World σ) α) : Prop :=
  Within (fun w w' => w'.manager = w.manager ∧ (stage ∈ w.webrtc.awaiting → stage ∈ w'.webrtc.awaiting)) p

instance isPreorder_keepsStage (stage : Nat × Operation) : IsPreorder (World σ) fun w w' =>
    w'.manager = w.manager ∧ (stage ∈ w.webrtc.awaiting → stage ∈ w'.webrtc.awaiting) where
  refl _ := ⟨rfl, id⟩
  trans _ _ _ hFirst hSecond := ⟨hSecond.1.trans hFirst.1, fun h => hSecond.2 (hFirst.2 h)⟩

variable {stage : Nat × Operation}

theorem keepsStage_onSignaling (p : Program σ Unit) : KeepsStage stage (onSignaling p) :=
  within_zoom (S := fun _ _ => True) (fun _ => trivial) fun _ _ _ => ⟨rfl, id⟩

theorem keepsStage_rtcCall (call : RtcCall) : KeepsStage stage (rtcCall call : Program (World σ) Unit) :=
  within_modify fun _ => ⟨rfl, id⟩

theorem keepsStage_rtcStart (peer : Nat) (operation : Operation) :
    KeepsStage stage (rtcStart peer operation : Program (World σ) Unit) :=
  within_modify fun _ => ⟨rfl, fun h => List.mem_append_left _ h⟩

theorem keepsStage_invoke (callback : Callback) : KeepsStage stage (invoke env callback : Program (World σ) Unit) :=
  within_invoke fun _ => ⟨rfl, id⟩

theorem keepsStage_onDataChannelHandler (label : String) (p : Program (Endpoint DataBuffer) Unit) :
    KeepsStage stage (onDataChannelHandler label p : Program (World σ) Unit) :=
  within_onDataChannelHandler fun _ _ => ⟨rfl, id⟩

theorem keepsStage_callSignaling (p : Program σ Unit) : KeepsStage stage (callSignaling p) :=
  within_callSignaling (keepsStage_onSignaling p)

theorem keepsStage_sendState : KeepsStage stage (sendState sc) :=
  within_sendState fun _ => keepsStage_onSignaling _

theorem keepsStage_setState (newState : ConnectorState) : KeepsStage stage (setState sc newState) :=
  within_setState (fun _ => ⟨rfl, id⟩) keepsStage_sendState

theorem keepsStage_createMediaTrack (trackName : String) (handler : MediaTrackHandler) :
    KeepsStage stage (createMediaTrack env trackName handler : Program (World σ) Unit) :=
  within_createMediaTrack (keepsStage_invoke _) (keepsStage_rtcCall _) fun _ => keepsStage_rtcCall _

/-- The completion of another operation keeps the stage. -/
theorem keepsStage_complete {completion : Completion} (hOther : completion.operation ≠ stage.2) :
    KeepsStage stage (complete sc env completion) := by
  refine within_complete (fun w peer => ⟨rfl, fun hOwed => ?_⟩) fun peer => ?_
  · refine (List.mem_erase_of_ne fun hSame => hOther ?_).mpr hOwed
    exact (congrArg Prod.snd hSame).symm
  · refine within_onCompletion (fun _ => ?_) (fun desc => ?_) fun desc _ => keepsStage_callSignaling _
    · exact within_afterSetSessionDescription (fun _ _ => keepsStage_createMediaTrack _ _)
        (fun _ => keepsStage_rtcCall _) fun _ => keepsStage_rtcStart _ _
    · exact within_afterCreateSdpAnswer (fun _ => keepsStage_rtcCall _) fun _ => keepsStage_rtcStart _ _

/-- So does every event that does not disturb the negotiation. -/
theorem keepsStage_handle {event : ConnectorEvent} (hQuiet : event.letsFinish = true)
    (hOther : ∀ completion, event = .complete completion → completion.operation ≠ stage.2) :
    KeepsStage stage (handle sc env event) := by
  cases event with
  | addDataChannelHandler label => exact within_addDataChannelHandler fun _ => ⟨rfl, id⟩
  | addMediaTrackHandler trackName handler => exact within_addMediaTrackHandler fun _ => ⟨rfl, id⟩
  | iceCandidateMessage candidate => exact within_handleIceCandidate fun _ => keepsStage_rtcCall _
  | complete completion => exact keepsStage_complete (hOther completion rfl)
  | connectionChange newState inside =>
      cases newState with
      | kNew => exact within_fromPeer fun _ => within_pure _
      | kConnecting => exact within_fromPeer fun _ => within_pure _
      | kConnected => exact within_fromPeer fun _ => keepsStage_setState _
      | ended state => cases hQuiet
  | iceCandidate candidate => exact within_iceCandidate fun _ _ _ => keepsStage_callSignaling _
  | dataChannel label =>
      exact within_deliverDataChannel (fun _ => ⟨rfl, id⟩) fun _ =>
        within_onDataChannel (fun _ => keepsStage_onDataChannelHandler _ _) (keepsStage_invoke _)
  | channelState channel state => exact within_modify fun _ => ⟨rfl, id⟩
  | stateBroadcast => exact keepsStage_sendState
  | initializeWebRTC factory => cases hQuiet
  | sdpOffer sdpOffer created inside => cases hQuiet
  | closeMessage inside => cases hQuiet
  | shuttingDown inside => cases hQuiet

/-- **A stage lasts until its completion.** -/
theorem Underway.step {w : World σ} {peer : Nat} {operation : Operation} (h : Underway w peer operation)
    {event : ConnectorEvent} (hQuiet : event.letsFinish = true)
    (hOther : ∀ completion, event = .complete completion → completion.operation ≠ operation) :
    Underway (World.step sc env w event) peer operation := by
  have hKeeps : KeepsStage (peer, operation) (handle sc env event) := keepsStage_handle hQuiet hOther
  obtain ⟨hManager, hOwed⟩ := hKeeps w
  exact ⟨hManager ▸ h.held, hManager ▸ h.factory, hManager ▸ h.client, hOwed h.owed⟩

/-! ## From one stage to the next -/

/-- With a factory and a peer connection, and handlers that do not throw, all tracks are done with. -/
theorem createAllMediaTracks_ends (hHandlers : env.NeverThrows) {w : World σ} {peer : Nat}
    (hHeld : w.manager.peerConnection = some peer) (hFactory : w.manager.peerConnectionFactory = true) :
    Ends (createAllMediaTracks env) w fun _ w' => w'.manager = w.manager := by
  have hLoop := ends_forM (f := fun e : String × MediaTrackHandler => createMediaTrack env e.1 e.2)
    (I := fun _ w' => w'.manager = w.manager) (fun e rest w' hManager => ?_)
    w.connector.mediaTrackHandlersDict.entries w rfl
  · exact hLoop
  · have hReturns : ¬ env.throws (.createVideoTrackSource e.1 e.2.videoSource) w'.callbacks.length = true := by
      simp [hHandlers _ _]
    exact (createMediaTrack_ends env (hManager ▸ hHeld) (hManager ▸ hFactory) hReturns).imp
      fun _ _ hStarted => hStarted.manager.trans hManager

/-- The offer is set: the tracks are added, and an answer is asked for. -/
theorem Underway.describe (hHandlers : env.NeverThrows) {w : World σ} {peer : Nat}
    (h : Underway w peer .setRemoteDescription) :
    Underway (World.step sc env w (.complete (.setRemoteDescription true))) peer .createAnswer := by
  have hOwes : World.owes w (.setRemoteDescription true) = true := h.owes
  obtain ⟨held, hHeld, hRun⟩ := complete_owed sc env hOwes
  obtain ⟨_, w₁, hTracks, hManager⟩ :=
    createAllMediaTracks_ends hHandlers (w := paid w held (.setRemoteDescription true)) h.held h.factory
  have hPaid : w₁.manager = w.manager := hManager
  have hHeld₁ : w₁.manager.peerConnection = some peer := hPaid ▸ h.held
  have hFinal : World.step sc env w (.complete (.setRemoteDescription true)) =
      finalState ((afterSetSessionDescription env).run (paid w held (.setRemoteDescription true))) :=
    congrArg finalState hRun
  rw [hFinal, afterSetSessionDescription, finalState_bind, hTracks]
  simp only [EStateM.run_bind, EStateM.run_get, hHeld₁, dereference_some, pure_bind, rtcCall, rtcStart,
    EStateM.run_modify, finalState_ok]
  exact ⟨hHeld₁, hPaid ▸ h.factory, hPaid ▸ h.client, List.mem_append_right _ (List.mem_singleton_self _)⟩

/-- The answer is there, and is set. -/
theorem Underway.setLocal {w : World σ} {peer : Nat} (h : Underway w peer .createAnswer) (sdp : String) :
    Underway (World.step sc env w (.complete (.createAnswer (some sdp)))) peer
      (.setLocalDescription ⟨peer, sdp⟩) := by
  have hOwes : World.owes w (.createAnswer (some sdp)) = true := h.owes
  obtain ⟨held, hHeld, hRun⟩ := complete_owed sc env hOwes
  obtain rfl : held = peer := Option.some.inj (hHeld.symm.trans h.held)
  have hFinal : World.step sc env w (.complete (.createAnswer (some sdp))) =
      finalState ((afterCreateSdpAnswer ⟨held, sdp⟩).run (paid w held (.createAnswer (some sdp)))) :=
    congrArg finalState hRun
  have hHeld₁ : (paid w held (.createAnswer (some sdp))).manager.peerConnection = some held := hHeld
  rw [hFinal, afterCreateSdpAnswer]
  simp only [EStateM.run_bind, EStateM.run_get, hHeld₁, dereference_some, pure_bind, rtcCall, rtcStart,
    EStateM.run_modify, finalState_ok]
  exact ⟨hHeld, h.factory, h.client, List.mem_append_right _ (List.mem_singleton_self _)⟩

end World

end MosaicCore
