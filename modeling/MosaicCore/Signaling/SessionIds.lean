import MosaicCore.Signaling.ConnectionFlags

/-!
# Session ids of outgoing messages

An SDP answer and an ICE candidate go out under an `rtcConnectionId`.  The id is the signaling client's field
`current_rtc_connection_id_`, read when the message is sent; what produced the answer or the candidate is a peer
connection, created by an offer that came after some `signaling.prepare_connection`.

`Audited` watches a run and writes down what the code does not remember: the id prepared last, and for every
peer connection the id that was prepared last before its offer.  `Effect` says what one event does to the
client's field and which ids it sends; `ids_sent_right_iff` says that all ids are right exactly as long as no
other id has been prepared by the time an answer or a candidate goes out.
-/

namespace MosaicCore

open EffectProgram EventRun

/-- A run with the ids that were prepared. -/
structure Audited where
  system : System
  lastPrepared : String := ""
  /-- What was prepared last before the offer that created the peer connection. -/
  preparedFor : Nat → String := fun _ => ""

/-- The id under which an SDP answer or an ICE candidate is sent. -/
def carriedId (lib : Libraries) : WsCall → Option String
  | .send message =>
      let type := (message.field "type").text lib.realText
      if type = "signaling.send_sdp_answer" ∨ type = "signaling.exchange_ice_candidate" then
        some (((message.field "data").field "rtcConnectionId").text lib.realText)
      else none
  | _ => none

namespace System

variable (lib : Libraries) (env : Environment)

/-- The id that an event prepares, if it is a prepare message that can be read. -/
def preparedId : SystemEvent → Option String
  | .message (.text body) _ _ =>
      match lib.parse body with
      | .parsed message =>
          if reads lib message ∧ (message.field "type").text lib.realText = "signaling.prepare_connection" then
            some (((message.field "data").field "rtcConnectionId").text lib.realText)
          else none
      | _ => none
  | _ => none

/-- The ids under which an event sends answers and candidates. -/
def carriedIds (w : System) (event : SystemEvent) : List String :=
  ((step lib env w event).signaling.wsClient.calls.drop w.signaling.wsClient.calls.length).filterMap
    (carriedId lib)

/-- The peer connection that has produced the answer or the candidate an event delivers. -/
def producer (w : System) : SystemEvent → Option Nat
  | .connector (.complete (.setLocalDescription desc _)) => some desc.peer
  | .connector (.iceCandidate _) => w.manager.peerConnection
  | _ => none

/-- Answers and candidates are sent at all. -/
def speaks (s : SignalingClient) : Bool :=
  s.isConnected && s.wsClient.mConnected && !(s.currentRtcConnectionId = "")

/-- The peer connection of which an event sends an answer or a candidate. -/
def speaker (w : System) : SystemEvent → Option Nat
  | .connector (.complete (.setLocalDescription desc true)) =>
      if World.owes w (.setLocalDescription desc true) && w.manager.signalingClient && speaks w.signaling then
        some desc.peer
      else none
  | .connector (.iceCandidate (some _)) =>
      if w.manager.signalingClient && speaks w.signaling then w.manager.peerConnection else none
  | _ => none

end System

namespace Audited

variable (lib : Libraries) (env : Environment)

/-- Handle an event. -/
def step (a : Audited) (event : SystemEvent) : Audited :=
  let system := System.step lib env a.system event
  { system := system
    lastPrepared := (System.preparedId lib event).getD a.lastPrepared
    preparedFor := fun peer =>
      if a.system.webrtc.created ≤ peer ∧ peer < system.webrtc.created then a.lastPrepared
      else a.preparedFor peer }

/-- Every answer and every candidate that the event sends carries the id prepared for its producer. -/
def SentRight (a : Audited) (event : SystemEvent) : Prop :=
  ∀ id ∈ System.carriedIds lib env a.system event,
    (System.producer a.system event).map a.preparedFor = some id

/-- When an answer or a candidate goes out, the id prepared for its producer is still the last. -/
def StillLast (a : Audited) (event : SystemEvent) : Prop :=
  ∀ peer ∈ System.speaker a.system event, a.lastPrepared = a.preparedFor peer

instance (a : Audited) (event : SystemEvent) : Decidable (SentRight lib env a event) :=
  inferInstanceAs (Decidable (∀ id ∈ _, _))

end Audited

/-! ## What an event does -/

/-- The field has the prepared id if there is one, and the calls made carry the given ids. -/
structure Effect (lib : Libraries) (prepared : Option String) (carried : List String)
    (s s' : SignalingClient) : Prop where
  id : s'.currentRtcConnectionId = prepared.getD s.currentRtcConnectionId
  calls : ∃ new, s'.wsClient.calls = s.wsClient.calls ++ new ∧ new.filterMap (carriedId lib) = carried

/-- The id stays, and no answer or candidate is sent. -/
abbrev Plain (lib : Libraries) : SignalingClient → SignalingClient → Prop :=
  Effect lib none []

namespace SignalingClient

variable {lib : Libraries}

instance : IsPreorder SignalingClient (Plain lib) where
  refl s := ⟨rfl, [], by simp, rfl⟩
  trans s s₁ s' := by
    rintro ⟨hId, new, hCalls, hNone⟩ ⟨hId', new', hCalls', hNone'⟩
    refine ⟨hId'.trans hId, new ++ new', ?_, ?_⟩
    · rw [hCalls', hCalls, List.append_assoc]
    · rw [List.filterMap_append, hNone, hNone']
      rfl

theorem plain_modify {f : SignalingClient → SignalingClient}
    (hId : ∀ s, (f s).currentRtcConnectionId = s.currentRtcConnectionId)
    (hCalls : ∀ s, (f s).wsClient.calls = s.wsClient.calls) :
    Within (Plain lib) (modify f : Program SignalingClient Unit) :=
  within_modify fun s => ⟨hId s, [], by rw [hCalls, List.append_nil], rfl⟩

theorem plain_wsCall {call : WsCall} (hCall : carriedId lib call = none) :
    Within (Plain lib) (wsCall lib call) :=
  within_wsCall fun _ => ⟨rfl, [call], rfl, by simp [hCall]⟩

theorem plain_sendWsMessage {message : Json} (hMessage : carriedId lib (.send message) = none) :
    Within (Plain lib) (sendWsMessage lib message) :=
  within_sendWsMessage (plain_wsCall hMessage)

theorem plain_sendState (state : Int) : Within (Plain lib) (sendState lib state) := by
  refine within_sendState (fun s => ⟨rfl, [], (List.append_nil _).symm, rfl⟩) (plain_sendWsMessage ?_)
  simp [carriedId, stateMessage, Json.field, Json.find, Json.text, Json.asString]

theorem plain_onError : Within (Plain lib) onError :=
  plain_modify (fun _ => rfl) fun _ => rfl

theorem plain_handleAuthorizationMessage (type : String) (message : Json) :
    Within (Plain lib) (handleAuthorizationMessage lib type message) := by
  have hReq : Within (Plain lib) (handleAuthenticationReq lib) := by
    apply within_get_bind
    intro s
    apply plain_sendWsMessage
    simp [carriedId, Json.field, Json.find, Json.text, Json.asString]
  exact within_handleAuthorizationMessage hReq (plain_modify (fun _ => rfl) fun _ => rfl) type message

theorem plain_handlePingPong (message : Json) : Within (Plain lib) (handlePingPong lib message) := by
  apply plain_sendWsMessage
  simp [carriedId, Json.text, Json.asString]

theorem plain_modifyWs {f : WebSocketClientImpl → WebSocketClientImpl}
    (hCalls : ∀ ws, (f ws).calls = ws.calls) : Within (Plain lib) (modifyWs f) :=
  plain_modify (fun _ => rfl) fun s => hCalls s.wsClient

theorem plain_handleClose : Within (Plain lib) handleClose :=
  within_handleClose (plain_modifyWs fun _ => rfl) plain_onError (plain_modifyWs fun _ => rfl)

theorem plain_closeClient : Within (Plain lib) (closeClient lib) :=
  within_closeClient (plain_wsCall rfl) (fun _ => plain_modifyWs fun _ => rfl) plain_handleClose

theorem plain_halt (halt : Halt) : Within (Plain lib) (halt.program lib) :=
  within_halt (plain_modifyWs fun _ => rfl) plain_closeClient plain_onError halt

theorem plain_connectInternal : Within (Plain lib) connectInternal :=
  within_modify fun s => ⟨rfl, [.connect s.wsClient.clients s.wsClient.mUri], rfl, rfl⟩

theorem plain_onConnected : Within (Plain lib) (onConnected lib) :=
  within_onConnected (fun _ => ⟨rfl, [], (List.append_nil _).symm, rfl⟩) plain_sendState

end SignalingClient

namespace System

open World SignalingClient

variable {lib : Libraries} {env : Environment}

/-- `HandlePrepareConnection` puts the id into the field if it can read it. -/
theorem effect_handlePrepareConnection (s : SignalingClient) (data : Json) :
    Effect lib
      (if readsData "signaling.prepare_connection" data then
        some ((data.field "rtcConnectionId").text lib.realText) else none) []
      s (finalState ((handlePrepareConnection lib data).run s)) := by
  have hSame : Plain lib s s := Std.Refl.refl _
  rw [handlePrepareConnection]
  cases hTable : data.isTable with
  | false =>
      obtain ⟨what, hThrow⟩ := Json.get_of_not_isTable hTable "rtcConnectionId"
      simpa [readsData, hTable, hThrow] using hSame
  | true =>
      rw [Json.get_of_isTable hTable]
      cases hText : (data.field "rtcConnectionId").isText with
      | false =>
          obtain ⟨what, hThrow⟩ := Json.asString_of_not_isText hText lib.realText
          simpa [readsData, hTable, hText, hThrow] using hSame
      | true =>
          rw [orThrow_ok, pure_bind, Json.asString_of_isText hText]
          refine ⟨by simp [readsData, hTable, hText], [], by simp, rfl⟩

/-- The branches of `OnMessage`: only the one for prepare messages touches the field. -/
theorem effect_dispatch (w : System) (type : String) {message : Json} (hTable : message.isTable = true)
    (created : Bool) (inside : Reentry) :
    Effect lib
      (if readsData type (message.field "data") ∧ type = "signaling.prepare_connection" then
        some (((message.field "data").field "rtcConnectionId").text lib.realText) else none) []
      w.signaling (finalState ((dispatch lib env type message created inside).run w)).signaling := by
  by_cases hType : type = "signaling.prepare_connection"
  · subst hType
    have hRun : dispatch lib env "signaling.prepare_connection" message created inside =
        onSignaling (handlePrepareConnection lib (message.field "data")) := by
      simp [dispatch, Json.get_of_isTable hTable]
    rw [hRun, signaling_onSignaling]
    simpa using effect_handlePrepareConnection w.signaling (message.field "data")
  · have hMoves : SignalingMoves (Plain lib) (dispatch lib env type message created inside) :=
      signalingMoves_dispatch plain_sendState plain_handlePingPong
        (plain_handleAuthorizationMessage _)
        (fun hPrepare => absurd hPrepare hType) message created inside
    simpa [hType] using hMoves w

/-- A prepare message that can be read puts its id into the field. -/
theorem effect_onWsMessage (w : System) (body : List UInt8) (created : Bool) (inside : Reentry) :
    Effect lib (preparedId lib (.message (.text body) created inside)) [] w.signaling
      (finalState ((onWsMessage lib env body created inside).run w)).signaling := by
  have hSame : Plain lib w.signaling w.signaling := Std.Refl.refl _
  rw [onWsMessage, preparedId]
  cases lib.parse body with
  | failed => exact hSame
  | threw => exact hSame
  | parsed message =>
      show Effect lib (if reads lib message ∧ _ then _ else none) [] w.signaling
        (finalState ((onMessage lib env message created inside).run w)).signaling
      rw [onMessage]
      cases hTable : message.isTable with
      | false =>
          obtain ⟨what, hThrow⟩ := Json.get_of_not_isTable hTable "type"
          simpa [hThrow, reads, hTable] using hSame
      | true =>
          rw [Json.get_of_isTable hTable, orThrow_ok, pure_bind]
          cases hNull : (message.field "type").isNull with
          | true => simpa [Json.eq_null_of_isNull hNull, Json.text, Json.asString] using hSame
          | false =>
              cases hText : (message.field "type").isText with
              | false =>
                  obtain ⟨what, hThrow⟩ := Json.asString_of_not_isText hText lib.realText
                  simpa [hThrow, reads, hTable, hText] using hSame
              | true =>
                  -- Only a message whose type is a text gets as far as the handlers.
                  rw [Json.asString_of_isText hText, orThrow_ok, pure_bind]
                  simpa [reads, hTable, hText] using effect_dispatch w
                    ((message.field "type").text lib.realText) hTable created inside

/-- An incoming message. -/
theorem effect_message (w : System) (message : WsMessage) (created : Bool) (inside : Reentry) :
    Effect lib (preparedId lib (.message message created inside)) [] w.signaling
      (step lib env w (.message message created inside)).signaling := by
  have hTry : Effect lib (preparedId lib (.message message created inside)) [] w.signaling
      (finalState ((receive lib env message created inside).run w)).signaling := by
    cases message with
    | ping => exact signalingMoves_onSignaling (plain_wsCall rfl) w
    | pong => exact (Std.Refl.refl w.signaling : Plain lib _ _)
    | close => exact signalingMoves_onSignaling plain_closeClient w
    | text body => exact effect_onWsMessage w body created inside
  rcases signaling_step_message w message created inside with hStep | hStep
  · rw [hStep]
    exact hTry
  · rw [hStep]
    obtain ⟨hId, hCalls⟩ := hTry
    exact ⟨hId, hCalls⟩

/-- Sending an answer or a candidate: it carries what is in the field. -/
theorem effect_speak {messageOf : String → Json}
    (hCarries : ∀ id, carriedId lib (.send (messageOf id)) = some id) (s : SignalingClient) :
    Effect lib none (if speaks s then [s.currentRtcConnectionId] else []) s
      (finalState ((do
        let s ← get
        if ¬ s.isConnected ∨ s.currentRtcConnectionId = "" then pure ()
        else sendWsMessage lib (messageOf s.currentRtcConnectionId) : Program SignalingClient Unit).run s)) := by
  have hSame : Plain lib s s := Std.Refl.refl _
  rw [EStateM.run_bind, EStateM.run_get]
  -- Without a connection or an id nothing is sent.
  by_cases hSilent : ¬ s.isConnected = true ∨ s.currentRtcConnectionId = ""
  · have hMute : speaks s = false := by
      rcases hSilent with hDown | hEmpty
      · simp [speaks, hDown]
      · simp [speaks, hEmpty]
    simp only [hMute, if_pos hSilent]
    exact hSame
  · obtain ⟨hConnected, hId⟩ := not_or.mp hSilent
    simp only [if_neg hSilent]
    cases hUp : s.wsClient.mConnected with
    | false =>
        rw [sendWsMessage_down hUp]
        simpa [speaks, hUp] using hSame
    | true =>
        have hSpeaks : speaks s = true := by simp [speaks, not_not.mp hConnected, hId, hUp]
        rw [sendWsMessage_up lib hUp, wsCall_run, hSpeaks, if_pos rfl]
        have hCalled : Effect lib none [s.currentRtcConnectionId] s
            (called s (.send (messageOf s.currentRtcConnectionId))) :=
          ⟨rfl, [.send (messageOf s.currentRtcConnectionId)], rfl, by simp [hCarries]⟩
        split_ifs <;> exact hCalled

theorem effect_callSignaling {w : System} {p : Program SignalingClient Unit} {carried : List String}
    (hEffect : Effect lib none carried w.signaling (finalState (p.run w.signaling))) :
    Effect lib none (if w.manager.signalingClient then carried else []) w.signaling
      (finalState ((callSignaling p).run w)).signaling := by
  cases hHeld : w.manager.signalingClient with
  | false =>
      have hSame : Plain lib w.signaling w.signaling := Std.Refl.refl _
      simpa [callSignaling, hHeld] using hSame
  | true =>
      have hRun : (callSignaling p).run w = (onSignaling p).run w := by simp [callSignaling, hHeld]
      rw [hRun, signaling_onSignaling]
      exact hEffect

variable (lib) in
theorem carriedId_sdpAnswerMessage (sdp : SessionDescription) (id : String) :
    carriedId lib (.send (sdpAnswerMessage id sdp)) = some id := by
  simp [carriedId, sdpAnswerMessage, Json.field, Json.find, Json.text, Json.asString]

variable (lib) in
theorem carriedId_iceCandidateMessage (candidate : IceCandidate) (id : String) :
    carriedId lib (.send (iceCandidateMessage id candidate)) = some id := by
  simp [carriedId, iceCandidateMessage, Json.field, Json.find, Json.text, Json.asString]

/-- A SetLocalDescription success sends the answer. -/
theorem effect_answer (w : System) (desc : SessionDescription) :
    Effect lib none
      (if (speaker w (.connector (.complete (.setLocalDescription desc true)))).isSome then
        [w.signaling.currentRtcConnectionId] else [])
      w.signaling (step lib env w (.connector (.complete (.setLocalDescription desc true)))).signaling := by
  cases hOwed : World.owes w (.setLocalDescription desc true) with
  | false =>
      have hSame : Plain lib w.signaling w.signaling := Std.Refl.refl _
      have hIdle : step lib env w (.connector (.complete (.setLocalDescription desc true))) = w :=
        congrArg finalState (complete_idle hOwed)
      simpa [hIdle, speaker, hOwed] using hSame
  | true =>
      obtain ⟨peer, -, hRun⟩ := complete_owed (SignalingClient.iface lib) env hOwed
      have hStep : step lib env w (.connector (.complete (.setLocalDescription desc true))) = _ :=
        congrArg finalState hRun
      have hSend := effect_callSignaling (w := paid w peer (.setLocalDescription desc true))
        (effect_speak (carriedId_sdpAnswerMessage lib desc) w.signaling)
      have hCarried : (if (speaker w (.connector (.complete (.setLocalDescription desc true)))).isSome then
          [w.signaling.currentRtcConnectionId] else []) =
            if w.manager.signalingClient then
              if speaks w.signaling then [w.signaling.currentRtcConnectionId] else [] else [] := by
        cases hHeld : w.manager.signalingClient <;> cases hSpeaks : speaks w.signaling <;>
          simp [speaker, hOwed, hHeld, hSpeaks]
      rw [hStep, hCarried]
      exact hSend

/-- A gathered candidate is sent. -/
theorem effect_candidate (w : System) (init : CandidateInit) :
    Effect lib none
      (if (speaker w (.connector (.iceCandidate (some init)))).isSome then
        [w.signaling.currentRtcConnectionId] else [])
      w.signaling (step lib env w (.connector (.iceCandidate (some init)))).signaling := by
  cases hPeer : w.manager.peerConnection with
  | none =>
      have hSame : Plain lib w.signaling w.signaling := Std.Refl.refl _
      simpa [step, handle, World.handle, fromPeer, speaker, hPeer] using hSame
  | some peer =>
      have hRun : (handle lib env (.connector (.iceCandidate (some init)))).run w =
          (callSignaling (SignalingClient.sendIceCandidate lib ⟨peer, init⟩)).run w := by
        simp [handle, World.handle, fromPeer, hPeer, onIceCandidate, World.sendIceCandidate,
          SignalingClient.iface]
      have hSend := effect_callSignaling (w := w)
        (effect_speak (carriedId_iceCandidateMessage lib ⟨peer, init⟩) w.signaling)
      have hCarried : (if (speaker w (.connector (.iceCandidate (some init)))).isSome then
          [w.signaling.currentRtcConnectionId] else []) =
            if w.manager.signalingClient then
              if speaks w.signaling then [w.signaling.currentRtcConnectionId] else [] else [] := by
        cases hHeld : w.manager.signalingClient <;> cases hSpeaks : speaks w.signaling <;>
          simp [speaker, hPeer, hHeld, hSpeaks]
      rw [step, hRun, hCarried]
      exact hSend

/-- Every other event leaves the field alone and sends no answer and no candidate. -/
theorem effect_other (w : System) {event : SystemEvent}
    (hAnswer : ∀ desc, event ≠ .connector (.complete (.setLocalDescription desc true)))
    (hCandidate : ∀ init, event ≠ .connector (.iceCandidate (some init)))
    (hMessage : ∀ message created inside, event ≠ .message message created inside) :
    Plain lib w.signaling (step lib env w event).signaling := by
  have hMoves : SignalingMoves (Plain lib) (handle lib env event) := by
    cases event with
    | message message created inside => exact absurd rfl (hMessage message created inside)
    | connect uri =>
        exact signalingMoves_onSignaling (within_connect (plain_modifyWs fun _ => rfl) plain_connectInternal)
    | connectSucceeded client =>
        exact signalingMoves_onSignaling (within_connectSucceeded (plain_modifyWs fun _ => rfl)
          (plain_modifyWs fun _ => rfl) plain_onConnected)
    | connectFailed client =>
        exact signalingMoves_onSignaling
          (within_connectFailed (plain_modifyWs fun _ => rfl) plain_handleClose)
    | serverClosed client =>
        exact signalingMoves_onSignaling
          (within_serverClosed (plain_modifyWs fun _ => rfl) plain_handleClose)
    | reconnectThreadWakes =>
        exact signalingMoves_onSignaling
          (within_reconnectThreadWakes (plain_modifyWs fun _ => rfl) plain_connectInternal)
    | stop => exact signalingMoves_onSignaling (plain_halt .stop)
    | disconnect => exact signalingMoves_onSignaling (plain_halt .disconnect)
    | destroy => exact signalingMoves_onSignaling (plain_halt .destroy)
    | setMosaicConnector => exact signalingMoves_onSignaling (plain_modify (fun _ => rfl) fun _ => rfl)
    | connector event =>
        refine signalingMoves_handle (SignalingClient.iface lib) plain_sendState
          (fun _ _ => plain_halt .stop) ?_ ?_
        · rintro desc rfl
          exact absurd rfl (hAnswer desc)
        · rintro peer init rfl
          exact absurd rfl (hCandidate init)
  exact hMoves w

/-- **What an event does to the field, and which ids it sends.** -/
theorem effect_step (w : System) (event : SystemEvent) :
    Effect lib (preparedId lib event)
      (if (speaker w event).isSome then [w.signaling.currentRtcConnectionId] else [])
      w.signaling (step lib env w event).signaling := by
  cases event with
  | message message created inside => exact effect_message w message created inside
  | connector event =>
      cases event with
      | complete completion =>
          cases completion with
          | setLocalDescription desc success =>
              cases success with
              | true => exact effect_answer w desc
              | false => exact effect_other w (by simp) (by simp) (by simp)
          | setRemoteDescription _ => exact effect_other w (by simp) (by simp) (by simp)
          | createAnswer _ => exact effect_other w (by simp) (by simp) (by simp)
      | iceCandidate candidate =>
          cases candidate with
          | some init => exact effect_candidate w init
          | none => exact effect_other w (by simp) (by simp) (by simp)
      | _ => exact effect_other w (by simp) (by simp) (by simp)
  | _ => exact effect_other w (by simp) (by simp) (by simp)

/-- The ids sent are the one in the field, if the event sends at all. -/
theorem carriedIds_eq (w : System) (event : SystemEvent) :
    carriedIds lib env w event =
      if (speaker w event).isSome then [w.signaling.currentRtcConnectionId] else [] := by
  have hEffect : Effect lib _ _ w.signaling (step lib env w event).signaling := effect_step w event
  obtain ⟨new, hCalls, hCarried⟩ := hEffect.calls
  rw [carriedIds, hCalls, List.drop_left, hCarried]

/-- Only the producer of an answer or a candidate has one sent. -/
theorem producer_of_speaker {w : System} {event : SystemEvent} {peer : Nat}
    (hSpeaker : speaker w event = some peer) : producer w event = some peer := by
  unfold speaker at hSpeaker
  split at hSpeaker
  · obtain ⟨-, hPeer⟩ := Option.ite_none_right_eq_some.mp hSpeaker
    exact hPeer
  · obtain ⟨-, hPeer⟩ := Option.ite_none_right_eq_some.mp hSpeaker
    exact hPeer
  · cases hSpeaker

end System

namespace Audited

variable {lib : Libraries} {env : Environment}

/-- The client's field is the id prepared last. -/
def FieldIsLast (a : Audited) : Prop :=
  a.system.signaling.currentRtcConnectionId = a.lastPrepared

/-- The field stays the id prepared last. -/
theorem fieldIsLast_step {a : Audited} (hField : a.FieldIsLast) (event : SystemEvent) :
    (step lib env a event).FieldIsLast := by
  show (System.step lib env a.system event).signaling.currentRtcConnectionId =
    (System.preparedId lib event).getD a.lastPrepared
  rw [(System.effect_step a.system event).id, hField]

/-- While the field is the id prepared last, an event sends right ids exactly if that id is still the one
prepared for the speaker. -/
theorem sentRight_iff_stillLast {a : Audited} (hField : a.FieldIsLast) (event : SystemEvent) :
    SentRight lib env a event ↔ StillLast a event := by
  unfold SentRight StillLast
  rw [System.carriedIds_eq]
  cases hSpeaker : System.speaker a.system event with
  | none => simp
  | some peer =>
      have hProducer : System.producer a.system event = some peer := System.producer_of_speaker hSpeaker
      rw [hProducer, show a.system.signaling.currentRtcConnectionId = a.lastPrepared from hField]
      simp [eq_comm]

/-- **Ids are right while no other id is prepared.**  In every run of a connector with its signaling client,
every SDP answer and every ICE candidate goes out under the id that was prepared last before the offer of the
peer connection it comes from, exactly if whenever one goes out, that id is still the one prepared last. -/
theorem ids_sent_right_iff (wsUri : String) (authenticator : Authenticator) (states : Nat → DataState)
    (iceServers : List IceServerConfig) (events : List SystemEvent) :
    EachStep (step lib env) (SentRight lib env)
        { system := System.initial wsUri authenticator states iceServers } events ↔
      EachStep (step lib env) StillLast
        { system := System.initial wsUri authenticator states iceServers } events := by
  refine eachStep_iff (A := fun _ => True) (fun a event _ hField _ => fieldIsLast_step hField event)
    (fun a event _ hField => sentRight_iff_stillLast hField event) ?_ fun _ _ => trivial
  show "" = ""
  rfl

/-- The bytes of a message. -/
def bytes (text : String) : List UInt8 := text.toUTF8.data.toList

/-- The messages of two sessions. -/
def prepareText (id : String) : String :=
  "\x7b\"type\":\"signaling.prepare_connection\",\"data\":\x7b\"rtcConnectionId\":\"" ++ id ++ "\"\x7d\x7d"

def prepareMessage (id : String) : Json :=
  .object [("data", .object [("rtcConnectionId", .string id)]), ("type", .string "signaling.prepare_connection")]

def offerText : String :=
  "\x7b\"type\":\"signaling.send_sdp_offer\",\"data\":\x7b\"sdpOffer\":\"v=0\"\x7d\x7d"

def offerMessage : Json :=
  .object [("data", .object [("sdpOffer", .string "v=0")]), ("type", .string "signaling.send_sdp_offer")]

/-- Libraries that parse these messages. -/
def twoSessions : Libraries :=
  { Libraries.silent with
    parse := fun body =>
      if body = bytes (prepareText "a") then .parsed (prepareMessage "a")
      else if body = bytes (prepareText "b") then .parsed (prepareMessage "b")
      else if body = bytes offerText then .parsed offerMessage
      else .failed }

/-- The offer of session `a` is answered under `b`, which was prepared in between. -/
theorem answer_sent_under_later_id :
    let events : List SystemEvent :=
      [.connect "ws://server", .connectSucceeded 0, .setMosaicConnector, .connector (.initializeWebRTC true),
        .message (.text (bytes (prepareText "a"))) true .done, .message (.text (bytes offerText)) true .done,
        .connector (.complete (.setRemoteDescription true)),
        .connector (.complete (.createAnswer (some "v=0"))),
        .message (.text (bytes (prepareText "b"))) true .done]
    let answered : SystemEvent := .connector (.complete (.setLocalDescription ⟨0, "v=0"⟩ true))
    let a : Audited := run (step twoSessions .calm) { system := System.fresh } events
    a.preparedFor 0 = "a" ∧ System.carriedIds twoSessions .calm a.system answered = ["b"] ∧
      ¬ EachStep (step twoSessions .calm) (SentRight twoSessions .calm) { system := System.fresh }
        (events ++ [answered]) := by
  decide +kernel

end Audited

end MosaicCore
