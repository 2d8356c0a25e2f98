import MosaicCore.Signaling.Announcements
import MosaicCore.Signaling.Stopped

/-!
# The two connection flags

`is_connected_` of the signaling client and `m_connected` of its WebSocket client come up and go down together
when the connection does.  They part where something throws: the `catch` block of `handleMessage` calls
`onError`, which puts down `is_connected_` alone, and a `disconnect` whose close throws has put down
`m_connected` alone.

`reads` says of a message that the handlers find every value of a kind they can read, `sendFails` that one of
the sends it leads to fails; `flags_agree_iff` says that the flags agree throughout a run exactly as long as
neither goes wrong on a live connection.
-/

namespace MosaicCore

open EffectProgram EventRun

namespace SignalingClient

/-- `is_connected_` and `m_connected`. -/
def flags (s : SignalingClient) : Bool × Bool :=
  (s.isConnected, s.wsClient.mConnected)

/-- Closing the current client after the next `n` calls fails. -/
def closeFails (lib : Libraries) (s : SignalingClient) (n : Nat) : Bool :=
  s.wsClient.mClient.isNone || lib.fails (s.wsClient.calls.length + n)

variable {lib : Libraries}

theorem flags_of_socket {s s' : SignalingClient} (hSame : socket s' = socket s) : flags s' = flags s :=
  congrArg (fun socket => (socket.1, socket.2.mConnected)) hSame

variable (lib) in
/-- `m_client->close().wait()` throws, or returns with the flags as they were or both down. -/
theorem closeClient_flags (s : SignalingClient) :
    (∃ e s', (closeClient lib).run s = .error e s' ∧ flags s' = flags s ∧ closeFails lib s 0 = true ∧
        e.isException = s.wsClient.mClient.isSome) ∨
      ∃ s', (closeClient lib).run s = .ok () s' ∧ closeFails lib s 0 = false ∧
        (flags s' = flags s ∨ flags s' = (false, false)) := by
  cases hClient : s.wsClient.mClient with
  | none =>
      exact .inl ⟨_, s, closeClient_none hClient, rfl, by simp [closeFails, hClient], rfl⟩
  | some client =>
      have hRun : (closeClient lib).run s = _ := closeClient_some hClient
      cases hFails : lib.fails s.wsClient.calls.length with
      | true =>
          rw [hFails, if_pos rfl] at hRun
          exact .inl ⟨_, called s .close, hRun, rfl, by simp [closeFails, hFails], rfl⟩
      | false =>
          rw [hFails, if_neg Bool.false_ne_true] at hRun
          refine .inr ⟨_, hRun, by simp [closeFails, hClient, hFails], ?_⟩
          -- Both flags go down with the close callback, and only with it.
          by_cases hOpen : client ∈ s.wsClient.connections
          · rw [closedOn, if_pos hOpen]
            cases lib.closeNotifies with
            | true => exact .inr rfl
            | false => exact .inl rfl
          · rw [closedOn, if_neg hOpen]
            exact .inl rfl

variable (lib) in
/-- A stop of a live connection takes both flags down, or only `m_connected` if the close throws. -/
theorem disconnect_flags {s : SignalingClient} (hUp : s.wsClient.mConnected = true) :
    (∃ e s', (disconnect lib).run s = .error e s' ∧ flags s' = (s.isConnected, false) ∧
        closeFails lib s 0 = true) ∨
      ∃ s', (disconnect lib).run s = .ok () s' ∧ flags s' = (false, false) ∧
        closeFails lib s 0 = false := by
  have hRun : (disconnect lib).run s = (closeClient lib >>= fun _ => onDisconnected).run
      { s with wsClient := { s.wsClient with mConnected := false } } := by
    simp [disconnect, hUp, modifyWs]
  rcases closeClient_flags lib { s with wsClient := { s.wsClient with mConnected := false } } with
    ⟨e, s', hClose, hFlags, hFails, -⟩ | ⟨s', hClose, hFails, hFlags⟩
  · exact .inl ⟨e, s', by rw [hRun, EStateM.run_bind, hClose], hFlags, hFails⟩
  · refine .inr ⟨_, by rw [hRun, EStateM.run_bind, hClose]; rfl, ?_, hFails⟩
    rcases hFlags with hFlags | hFlags
    · exact congrArg (fun flags => (false, flags.2)) hFlags
    · exact congrArg (fun flags => (false, flags.2)) hFlags

variable (lib) in
/-- A stop of a live connection. -/
theorem halt_flags (halt : Halt) {s : SignalingClient} (hConnected : s.isConnected = true)
    (hUp : s.wsClient.mConnected = true) :
    (∃ e s', (halt.program lib).run s = .error e s' ∧ flags s' = (true, false) ∧
        closeFails lib s 0 = true) ∨
      ∃ s', (halt.program lib).run s = .ok () s' ∧ flags s' = (false, false) ∧
        closeFails lib s 0 = false := by
  have hDisconnect := disconnect_flags lib hUp
  rw [hConnected] at hDisconnect
  have hStop : (∃ e s', (stop lib).run s = .error e s' ∧ flags s' = (true, false) ∧
        closeFails lib s 0 = true) ∨
      ∃ s', (stop lib).run s = .ok () s' ∧ flags s' = (false, false) ∧ closeFails lib s 0 = false := by
    have hRun : (stop lib).run s =
        (disconnect lib >>= fun _ => modify fun s => { s with isConnected := false }).run s := by
      simp [stop, hConnected]
    rcases hDisconnect with ⟨e, s', hClose, hFlags, hFails⟩ | ⟨s', hClose, hFlags, hFails⟩
    · exact .inl ⟨e, s', by rw [hRun, EStateM.run_bind, hClose], hFlags, hFails⟩
    · refine .inr ⟨_, by rw [hRun, EStateM.run_bind, hClose]; rfl, ?_, hFails⟩
      exact congrArg (fun flags => (false, flags.2)) hFlags
  cases halt with
  | disconnect => exact hDisconnect
  | stop => exact hStop
  | destroy =>
      have hRun : (destroy lib).run s = (stop lib >>= fun _ => do
          if (← get).wsClient.mConnected then disconnect lib else pure ()).run s := rfl
      rcases hStop with ⟨e, s', hStopped, hFlags, hFails⟩ | ⟨s', hStopped, hFlags, hFails⟩
      · exact .inl ⟨e, s', by rw [Halt.program, hRun, EStateM.run_bind, hStopped], hFlags, hFails⟩
      · -- The destructor finds `m_connected` down after `Stop`, and disconnects no more.
        have hDown : s'.wsClient.mConnected = false := congrArg Prod.snd hFlags
        exact .inr ⟨s', by rw [Halt.program, hRun, EStateM.run_bind, hStopped]; simp [hDown], hFlags, hFails⟩

/-! ## A connection that is down -/

/-- Flags that are down stay down. -/
def StaysDown (s s' : SignalingClient) : Prop :=
  flags s = (false, false) → flags s' = (false, false)

instance : IsPreorder SignalingClient StaysDown where
  refl _ := id
  trans _ _ _ hFirst hSecond := hSecond ∘ hFirst

theorem StaysDown.of_socket {s s' : SignalingClient} (hSame : socket s' = socket s) : StaysDown s s' :=
  fun hDown => (flags_of_socket hSame).trans hDown

theorem staysDown_modifyWs {f : WebSocketClientImpl → WebSocketClientImpl}
    (hf : ∀ ws, (f ws).mConnected = true → ws.mConnected = true) : Within StaysDown (modifyWs f) := by
  refine within_modify fun s hDown => ?_
  simp only [flags, Prod.mk.injEq] at hDown ⊢
  refine ⟨hDown.1, ?_⟩
  by_contra hUp
  have := hf s.wsClient (by simpa using hUp)
  simp [hDown.2] at this

theorem staysDown_handleClose : Within StaysDown handleClose := by
  apply within_bind
  · exact staysDown_modifyWs fun _ hUp => by simp at hUp
  intro _
  apply within_bind
  · exact within_modify fun _ hDown => congrArg (fun flags => (false, flags.2)) hDown
  intro _
  exact staysDown_modifyWs fun _ hUp => hUp

theorem staysDown_closeClient : Within StaysDown (closeClient lib) := by
  intro s hDown
  rcases closeClient_flags lib s with ⟨e, s', hRun, hFlags, -⟩ | ⟨s', hRun, -, hFlags | hFlags⟩
  · rw [hRun]
    exact hFlags.trans hDown
  · rw [hRun]
    exact hFlags.trans hDown
  · rw [hRun]
    exact hFlags

theorem staysDown_onError : Within StaysDown onError :=
  within_modify fun _ hDown => congrArg (fun flags => (false, flags.2)) hDown

theorem staysDown_halt (halt : Halt) : Within StaysDown (halt.program lib) :=
  within_halt (staysDown_modifyWs fun _ hUp => by simp at hUp) staysDown_closeClient staysDown_onError halt

end SignalingClient

namespace System

open World

variable (lib : Libraries) (env : Environment)

/-- The flags are both up or both down. -/
def FlagsAgree (w : System) : Prop :=
  w.signaling.isConnected = w.signaling.wsClient.mConnected

/-! ## Messages the handlers can read -/

/-- `ResolveIceCandidate` reads the value without throwing. -/
def readsIceCandidate (iceCandidate : Json) : Bool :=
  let candidate := iceCandidate.field "candidate"
  let sdpMid := iceCandidate.field "sdpMid"
  let sdpMLineIndex := iceCandidate.field "sdpMLineIndex"
  iceCandidate.isTable && candidate.isText &&
    (candidate.isNull || sdpMid.isNull || sdpMLineIndex.isNull || sdpMid.isText && sdpMLineIndex.isInt32)

/-- The handler of a message type reads the `data` without throwing. -/
def readsData (type : String) (data : Json) : Bool :=
  if type = "signaling.send_sdp_offer" then data.isTable && (data.field "sdpOffer").isText
  else if type = "signaling.prepare_connection" then
    data.isTable && (data.field "rtcConnectionId").isText
  else if type = "signaling.exchange_ice_candidate" then
    data.isTable && readsIceCandidate (data.field "iceCandidate")
  else if type = "authorize.res" then data.isInt32
  else true

/-- `OnMessage` reads the message without throwing. -/
def reads (message : Json) : Bool :=
  let type := message.field "type"
  message.isTable && type.isText && readsData (type.text lib.realText) (message.field "data")

/-! ## Sends that fail -/

/-- One of the next `n` state changes fails. -/
def anyAnnounceFails (w : System) (n : Nat) : Bool :=
  decide (∃ i < n, announceFails lib w i = true)

/-- One of the sends fails that a message of some type leads to. -/
def sendFails (w : System) (type : String) (data : Json) (created : Bool) : Bool :=
  if type = "signaling.send_sdp_offer" then
    let offer := data.field "sdpOffer"
    !offer.isNull && lib.createSessionDescription (offer.text lib.realText) &&
      w.signaling.mosaicConnector && anyAnnounceFails lib w (offerAnnouncements env w created)
  else if type = "signaling.close_peer_connection" then
    w.signaling.mosaicConnector && anyAnnounceFails lib w (closeAnnouncements w)
  else if type = "authorize.req" ∨ type = "ping.ping" then callFails lib w 0
  else false

/-- Handling a text throws. -/
def textFails (w : System) (body : List UInt8) (created : Bool) : Bool :=
  match lib.parse body with
  | .failed => false
  | .threw => true
  | .parsed message =>
      !reads lib message ||
        sendFails lib env w ((message.field "type").text lib.realText) (message.field "data") created

variable {lib env}

theorem Announces.throws {n : Nat} {p : Program System Unit} {w : System} {Q : System → Prop}
    (h : Announces lib n p w Q) : throwsException (p.run w) = anyAnnounceFails lib w n := by
  rw [Bool.eq_iff_iff, h.1, anyAnnounceFails, decide_eq_true_eq]

theorem throwsException_useConnector (k : Unit → Program System Unit) (w : System) :
    throwsException ((useConnector >>= k).run w) =
      (w.signaling.mosaicConnector && throwsException ((k ()).run w)) := by
  cases hConnector : w.signaling.mosaicConnector <;> simp [useConnector, hConnector, Fault.isException]

theorem throwsException_sendWsMessage {s : SignalingClient} (hUp : s.wsClient.mConnected = true)
    (message : Json) : throwsException ((SignalingClient.sendWsMessage lib message).run s) =
      lib.fails s.wsClient.calls.length := by
  rw [SignalingClient.sendWsMessage_up _ hUp, SignalingClient.wsCall_run]
  cases hFails : lib.fails s.wsClient.calls.length <;> simp [Fault.isException]

theorem handleSendSdpOffer_throws {w : System} (hLive : Live w) (data : Json) (created : Bool)
    (inside : Reentry) :
    throwsException ((handleSendSdpOffer lib env data created inside).run w) =
      (!readsData "signaling.send_sdp_offer" data ||
        sendFails lib env w "signaling.send_sdp_offer" data created) := by
  have hOffer := fun text => (handleSdpOffer_announces lib env hLive text created inside).throws
  simp only [handleSendSdpOffer, Json.throwsException_get, throwsException_ite,
    Json.throwsException_asString, throwsException_useConnector, hOffer, readsData, sendFails, if_true,
    EStateM.run_pure, throwsException_ok]
  cases hNull : (data.field "sdpOffer").isNull with
  | true => simp [Json.eq_null_of_isNull hNull, Json.isText]
  | false => simp [Bool.and_assoc, Bool.or_assoc]

theorem resolveIceCandidate_throws (iceCandidate : Json) (w : System) :
    throwsException ((resolveIceCandidate lib iceCandidate).run w) = !readsIceCandidate iceCandidate := by
  have hLast : ∀ text mid, throwsException ((do
      let index ← orThrow (iceCandidate.field "sdpMLineIndex").asInt
      pure (if lib.createIceCandidate mid index text then some ⟨text, mid, index⟩ else none) :
        Program System (Option CandidateInit)).run w) = !(iceCandidate.field "sdpMLineIndex").isInt32 := by
    intro text mid
    rw [throwsException_bind fun _ _ => rfl, Json.throwsException_asInt]
  simp only [resolveIceCandidate, Json.throwsException_get, throwsException_ite,
    Json.throwsException_asString, hLast, readsIceCandidate, EStateM.run_pure, throwsException_ok]
  cases iceCandidate.isTable <;> cases (iceCandidate.field "candidate").isNull <;>
    cases (iceCandidate.field "sdpMid").isNull <;> cases (iceCandidate.field "sdpMLineIndex").isNull <;> simp

theorem handleExchangeIceCandidate_throws (data : Json) (w : System) :
    throwsException ((handleExchangeIceCandidate lib data).run w) =
      !readsData "signaling.exchange_ice_candidate" data := by
  have hConnector : ∀ candidate (w : System), throwsException ((useConnector >>= fun _ =>
      (handleIceCandidateFromSignaling candidate : Program System Unit)).run w) = false := by
    intro candidate w
    rw [throwsException_useConnector]
    cases hPeer : w.manager.peerConnection <;> simp [handleIceCandidateFromSignaling, hPeer, rtcCall]
  simp only [handleExchangeIceCandidate, Json.throwsException_get, throwsException_ite, EStateM.run_pure,
    throwsException_ok]
  rw [throwsException_bind, resolveIceCandidate_throws]
  · cases hNull : (data.field "iceCandidate").isNull with
    | true =>
        have hReads : readsIceCandidate .null = true := by decide
        simp [readsData, Json.eq_null_of_isNull hNull, hReads]
    | false => simp [readsData]
  · rintro (- | candidate) w'
    · rfl
    · exact hConnector candidate w'

theorem handlePrepareConnection_throws (data : Json) (w : System) :
    throwsException ((onSignaling (SignalingClient.handlePrepareConnection lib data)).run w) =
      !readsData "signaling.prepare_connection" data := by
  simp only [onSignaling, throwsException_zoom, SignalingClient.handlePrepareConnection,
    Json.throwsException_get, Json.throwsException_asString, readsData]
  simp

theorem handleAuthorizationMessage_throws {w : System} (hLive : Live w) (type : String) (data : Json) :
    throwsException ((onSignaling (SignalingClient.handleAuthorizationMessage lib type data)).run w) =
      if type = "authorize.req" then callFails lib w 0
      else if type = "authorize.res" then !data.isInt32 else false := by
  have hRequest : throwsException ((SignalingClient.handleAuthenticationReq lib).run w.signaling) =
      callFails lib w 0 :=
    throwsException_sendWsMessage hLive.2 _
  have hResult : throwsException ((do
      let code ← orThrow data.asInt
      if code = 100 then SignalingClient.handleAuthenticationComplete else pure () :
        Program SignalingClient Unit).run w.signaling) = !data.isInt32 := by
    rw [throwsException_bind, Json.throwsException_asInt]
    intro code s
    rw [throwsException_ite]
    split <;> rfl
  simp only [onSignaling, throwsException_zoom, SignalingClient.handleAuthorizationMessage,
    throwsException_ite, hRequest, hResult, EStateM.run_pure, throwsException_ok]
  cases hNull : data.isNull with
  | true => simp [Json.eq_null_of_isNull hNull, Json.isInt32]
  | false => simp

theorem handleCloseConnection_throws {w : System} (hLive : Live w) (inside : Reentry) :
    throwsException ((handleCloseConnection lib env inside).run w) =
      (w.signaling.mosaicConnector && anyAnnounceFails lib w (closeAnnouncements w)) := by
  rw [handleCloseConnection, throwsException_useConnector, closeAnnouncements]
  cases hConnecting : connecting w with
  | false => simp [closePeerConnection_idle hConnecting, anyAnnounceFails]
  | true =>
      have hClose := (closePeerConnection_announces lib env hLive hConnecting inside).2
      rw [hClose.throws]
      rfl

/-- On a live connection a message throws exactly if it cannot be read or one of its sends fails. -/
theorem dispatch_throws {w : System} (hLive : Live w) (type : String) {message : Json}
    (hTable : message.isTable = true) (created : Bool) (inside : Reentry) :
    throwsException ((dispatch lib env type message created inside).run w) =
      (!readsData type (message.field "data") ||
        sendFails lib env w type (message.field "data") created) := by
  have hData : ∀ k : Json → Program System Unit,
      throwsException ((orThrow (message.get "data") >>= k).run w) =
        throwsException ((k (message.field "data")).run w) := fun k => by
    rw [Json.throwsException_get, hTable, Bool.not_true, Bool.false_or]
  by_cases hOffer : type = "signaling.send_sdp_offer"
  · subst hOffer
    simp only [dispatch, if_true, hData, handleSendSdpOffer_throws hLive]
  by_cases hPrepare : type = "signaling.prepare_connection"
  · subst hPrepare
    simp only [dispatch, hOffer, if_true, if_false, hData, handlePrepareConnection_throws, sendFails]
    simp
  by_cases hExchange : type = "signaling.exchange_ice_candidate"
  · subst hExchange
    simp only [dispatch, hOffer, hPrepare, if_true, if_false, hData, handleExchangeIceCandidate_throws,
      sendFails]
    simp
  by_cases hClose : type = "signaling.close_peer_connection"
  · subst hClose
    simp only [dispatch, hOffer, hPrepare, hExchange, if_true, if_false, handleCloseConnection_throws hLive,
      readsData, sendFails]
    simp
  by_cases hAuthorize : "authorize".toList.isPrefixOf type.toList = true
  · have hPing : type ≠ "ping.ping" := by
      rintro rfl
      revert hAuthorize
      decide
    simp only [dispatch, hOffer, hPrepare, hExchange, hClose, hAuthorize, if_true, if_false, hData,
      handleAuthorizationMessage_throws hLive, readsData, sendFails, hPing, or_false]
    by_cases hRequest : type = "authorize.req"
    · simp [hRequest]
    · by_cases hResult : type = "authorize.res" <;> simp [hRequest, hResult]
  have hRequest : type ≠ "authorize.req" := by
    rintro rfl
    exact hAuthorize (by decide)
  have hResult : type ≠ "authorize.res" := by
    rintro rfl
    exact hAuthorize (by decide)
  simp only [dispatch, hOffer, hPrepare, hExchange, hClose, hAuthorize, if_false, readsData, sendFails,
    hRequest, hResult, false_or, throwsException_ite]
  rw [onSignaling, throwsException_zoom, SignalingClient.handlePingPong,
    throwsException_sendWsMessage hLive.2]
  simp [callFails]

/-- **What makes a text throw** on a live connection. -/
theorem onWsMessage_throws {w : System} (hLive : Live w) (body : List UInt8) (created : Bool)
    (inside : Reentry) : throwsException ((onWsMessage lib env body created inside).run w) =
      textFails lib env w body created := by
  rw [onWsMessage, textFails]
  cases lib.parse body with
  | failed => rfl
  | threw => rfl
  | parsed message =>
      show throwsException ((onMessage lib env message created inside).run w) = _
      simp only [onMessage, Json.throwsException_get, throwsException_ite, Json.throwsException_asString,
        EStateM.run_pure, throwsException_ok, reads]
      cases hTable : message.isTable with
      | false => simp
      | true =>
          rw [dispatch_throws hLive _ hTable]
          cases hNull : (message.field "type").isNull with
          | true =>
              simp [Json.eq_null_of_isNull hNull, Json.isText, Json.text, Json.asString, readsData, sendFails]
          | false => simp [Bool.or_assoc]

/-! ## One event -/

variable (lib env) in
/-- On a live connection, the event leaves the flags in agreement. -/
def keepsAgreement (w : System) (event : SystemEvent) : Bool :=
  !w.signaling.isConnected ||
    match event with
    | .connect _ => false
    | .message .ping _ _ => !callFails lib w 0
    | .message .close _ _ => !(w.signaling.wsClient.mClient.isSome && callFails lib w 0)
    | .message (.text body) created _ => !textFails lib env w body created
    | .stop => !w.signaling.closeFails lib 0
    | .disconnect => !w.signaling.closeFails lib 0
    | .destroy => !w.signaling.closeFails lib 0
    | .connector (.shuttingDown _) =>
        announceFails lib w 0 || !w.manager.signalingClient ||
          !w.signaling.closeFails lib (if w.stateManager.signalingClient then 1 else 0)
    | _ => true

open SignalingClient

/-- A connection that comes up puts both flags up. -/
theorem flagsAgree_connectSucceeded {w : System} (hAgree : FlagsAgree w) (client : Nat) :
    FlagsAgree (step lib env w (.connectSucceeded client)) := by
  rw [FlagsAgree, step, handle, signaling_onSignaling]
  by_cases hMem : client ∈ w.signaling.wsClient.connecting
  · have hConnected : ∀ s : SignalingClient,
        socket (finalState ((onConnected lib).run s)) = socket { s with isConnected := true } := by
      intro s
      have hSend : KeepsSocket (do
          let s ← get
          if s.latestState ≠ -1 then sendState lib s.latestState else pure ()) := by
        apply within_get_bind
        intro _
        exact within_ite (keepsSocket_sendState _) (within_pure _)
      exact hSend { s with isConnected := true }
    have hFlags := flags_of_socket (hConnected
      { w.signaling with
        wsClient :=
          { w.signaling.wsClient with
            connecting := w.signaling.wsClient.connecting.filter (· ≠ client)
            connections := w.signaling.wsClient.connections ++ [client]
            mConnected := true } })
    have hRun : finalState ((connectSucceeded lib client).run w.signaling) =
        finalState ((catchException (onConnected lib)).run
          { w.signaling with
            wsClient :=
              { w.signaling.wsClient with
                connecting := w.signaling.wsClient.connecting.filter (· ≠ client)
                connections := w.signaling.wsClient.connections ++ [client]
                mConnected := true } }) := by
      simp [connectSucceeded, hMem, modifyWs]
    -- Both flags are up before anything is sent, and what the send throws is caught.
    rw [hRun, catchException, finalState_recover]
    obtain ⟨hUp, hUp'⟩ := Prod.mk.inj hFlags
    rw [hUp, hUp']
  · have hRun : finalState ((connectSucceeded lib client).run w.signaling) = w.signaling := by
      simp [connectSucceeded, hMem]
    rw [hRun]
    exact hAgree

/-- With the flags down, every other event leaves them down. -/
theorem staysDown_step (w : System) {event : SystemEvent}
    (hEvent : ∀ client, event ≠ .connectSucceeded client) :
    StaysDown w.signaling (step lib env w event).signaling := by
  have hMoves : SignalingMoves StaysDown (handle lib env event) := by
    cases event with
    | connectSucceeded client => exact absurd rfl (hEvent client)
    | connect uri =>
        exact signalingMoves_onSignaling (within_connect (staysDown_modifyWs fun _ hUp => by simp at hUp)
          (staysDown_modifyWs fun _ => id))
    | connectFailed client =>
        exact signalingMoves_onSignaling
          (within_connectFailed (staysDown_modifyWs fun _ => id) staysDown_handleClose)
    | serverClosed client =>
        exact signalingMoves_onSignaling
          (within_serverClosed (staysDown_modifyWs fun _ => id) staysDown_handleClose)
    | reconnectThreadWakes =>
        exact signalingMoves_onSignaling
          (within_reconnectThreadWakes (staysDown_modifyWs fun _ => id) (staysDown_modifyWs fun _ => id))
    | message message created inside =>
        exact signalingMoves_handleMessage StaysDown.of_socket staysDown_closeClient staysDown_onError
          message created inside
    | stop => exact signalingMoves_onSignaling (staysDown_halt .stop)
    | disconnect => exact signalingMoves_onSignaling (staysDown_halt .disconnect)
    | destroy => exact signalingMoves_onSignaling (staysDown_halt .destroy)
    | setMosaicConnector => exact signalingMoves_onSignaling (within_modify fun _ => id)
    | connector event =>
        exact signalingMoves_connector StaysDown.of_socket fun _ _ => staysDown_halt .stop
  exact hMoves w

theorem FlagsAgree.of_flags {w w' : System} (hAgree : FlagsAgree w)
    (hSame : w'.signaling.flags = w.signaling.flags) : FlagsAgree w' := by
  obtain ⟨hConnected, hUp⟩ := Prod.mk.inj hSame
  rw [FlagsAgree, hConnected, hUp]
  exact hAgree

theorem FlagsAgree.of_down {w : System} (hDown : w.signaling.flags = (false, false)) : FlagsAgree w := by
  obtain ⟨hConnected, hUp⟩ := Prod.mk.inj hDown
  rw [FlagsAgree, hConnected, hUp]

theorem Live.agree {w : System} (hLive : Live w) : FlagsAgree w := by
  rw [FlagsAgree, hLive.1, hLive.2]

/-- Flags that agree still do. -/
def KeepsAgreeing (s s' : SignalingClient) : Prop :=
  s.isConnected = s.wsClient.mConnected → s'.isConnected = s'.wsClient.mConnected

instance : IsPreorder SignalingClient KeepsAgreeing where
  refl _ := id
  trans _ _ _ hFirst hSecond := hSecond ∘ hFirst

theorem KeepsAgreeing.of_socket {s s' : SignalingClient} (hSame : socket s' = socket s) :
    KeepsAgreeing s s' := by
  intro hAgree
  obtain ⟨hConnected, hUp⟩ := Prod.mk.inj (flags_of_socket hSame)
  rw [hConnected, hUp, hAgree]

theorem keepsAgreeing_handleClose : Within KeepsAgreeing handleClose :=
  fun _ _ => rfl

/-- Events that move both flags or none. -/
theorem flagsAgree_quiet {w : System} (hAgree : FlagsAgree w) {event : SystemEvent}
    (hQuiet : match event with
      | .connectFailed _ => True
      | .serverClosed _ => True
      | .reconnectThreadWakes => True
      | .setMosaicConnector => True
      | .connector (.shuttingDown _) => False
      | .connector _ => True
      | _ => False) : FlagsAgree (step lib env w event) := by
  have hMoves : SignalingMoves KeepsAgreeing (handle lib env event) := by
    cases event with
    | connectFailed client =>
        exact signalingMoves_onSignaling
          (within_connectFailed (within_modify fun _ => id) keepsAgreeing_handleClose)
    | serverClosed client =>
        exact signalingMoves_onSignaling
          (within_serverClosed (within_modify fun _ => id) keepsAgreeing_handleClose)
    | reconnectThreadWakes =>
        exact signalingMoves_onSignaling
          (within_reconnectThreadWakes (within_modify fun _ => id) (within_modify fun _ => id))
    | setMosaicConnector => exact signalingMoves_onSignaling (within_modify fun _ => id)
    | connector event =>
        apply signalingMoves_connector KeepsAgreeing.of_socket
        rintro inside rfl
        cases hQuiet
    | _ => cases hQuiet
  exact hMoves w hAgree

/-- An exception in the `try` block of `handleMessage` parts the flags of a live connection. -/
theorem flagsAgree_catchWith {p : Program System Unit} {w : System} (hLive : Live w)
    (hFlags : (finalState (p.run w)).signaling.flags = w.signaling.flags ∨
      throwsException (p.run w) = false ∧ (finalState (p.run w)).signaling.flags = (false, false)) :
    FlagsAgree (finalState ((catchWith p (onSignaling onError)).run w)) ↔
      throwsException (p.run w) = false := by
  have hAgree : FlagsAgree (finalState (p.run w)) := by
    rcases hFlags with hSame | ⟨-, hDown⟩
    · exact hLive.agree.of_flags hSame
    · exact .of_down hDown
  show FlagsAgree (finalState (catchWith p (onSignaling onError) w)) ↔ _
  rw [catchWith]
  cases hRun : p.run w with
  | ok u w' =>
      rw [hRun] at hAgree
      exact iff_of_true hAgree rfl
  | error e w' =>
      rw [hRun] at hAgree hFlags
      rw [throwsException_error] at hFlags ⊢
      cases hException : e.isException with
      | false =>
          simp only [hException, Bool.false_eq_true, if_false]
          exact iff_of_true hAgree trivial
      | true =>
          -- `onError` takes one flag down, and the other is still up.
          simp only [hException, if_true]
          refine iff_of_false (fun hApart => ?_) (by simp)
          rcases hFlags with hSame | ⟨hReturns, -⟩
          · have hUp : w'.signaling.wsClient.mConnected = true :=
              (congrArg Prod.snd hSame).trans hLive.2
            have hDown : false = w'.signaling.wsClient.mConnected := hApart
            rw [hUp] at hDown
            cases hDown
          · rw [hException] at hReturns
            cases hReturns

variable (lib) in
theorem closeClient_throws (w : System) :
    throwsException ((onSignaling (closeClient lib)).run w) =
        (w.signaling.wsClient.mClient.isSome && callFails lib w 0) ∧
      ((finalState ((onSignaling (closeClient lib)).run w)).signaling.flags = w.signaling.flags ∨
        throwsException ((onSignaling (closeClient lib)).run w) = false ∧
          (finalState ((onSignaling (closeClient lib)).run w)).signaling.flags = (false, false)) := by
  rw [signaling_onSignaling, onSignaling, throwsException_zoom]
  rcases closeClient_flags lib w.signaling with
    ⟨e, s', hRun, hFlags, hFails, hException⟩ | ⟨s', hRun, hFails, hFlags⟩
  · rw [hRun, throwsException_error, finalState_error]
    refine ⟨?_, .inl hFlags⟩
    rw [hException]
    cases hClient : w.signaling.wsClient.mClient with
    | none => rfl
    | some client => simpa [closeFails, hClient, callFails] using hFails.symm
  · rw [hRun, throwsException_ok, finalState_ok]
    refine ⟨?_, hFlags.imp_right fun hDown => ⟨rfl, hDown⟩⟩
    rw [closeFails, Bool.or_eq_false_iff] at hFails
    rw [callFails, hFails.2, Bool.and_false]

/-- A message on a live connection parts the flags exactly if handling it throws. -/
theorem flagsAgree_message {w : System} (hLive : Live w) (message : WsMessage) (created : Bool)
    (inside : Reentry) : FlagsAgree (step lib env w (.message message created inside)) ↔
      keepsAgreement lib env w (.message message created inside) = true := by
  cases message with
  | ping =>
      have hPong : throwsException ((onSignaling (wsCall lib .sendPong)).run w) = callFails lib w 0 := by
        rw [onSignaling, throwsException_zoom, wsCall_run]
        cases hFails : lib.fails w.signaling.wsClient.calls.length <;>
          simp [callFails, hFails, Fault.isException]
      have hKeeps : SignalingMoves (fun s s' => socket s' = socket s) (onSignaling (wsCall lib .sendPong)) :=
        signalingMoves_onSignaling (keepsSocket_wsCall _)
      rw [step, handle, handleMessage, receive,
        flagsAgree_catchWith hLive (.inl (flags_of_socket (hKeeps w))), hPong]
      simp [keepsAgreement, hLive.1]
  | pong =>
      rw [step, handle, handleMessage, receive, flagsAgree_catchWith hLive (.inl rfl)]
      simp [keepsAgreement]
  | close =>
      obtain ⟨hThrows, hFlags⟩ := closeClient_throws lib w
      rw [step, handle, handleMessage, receive, flagsAgree_catchWith hLive hFlags, hThrows, keepsAgreement,
        hLive.1]
      simp only [Bool.not_true, Bool.false_or, Bool.not_eq_true']
  | text body =>
      have hMoves : SignalingMoves (fun s s' => socket s' = socket s)
          (onWsMessage lib env body created inside) :=
        signalingMoves_onWsMessage keepsSocket_sendState (fun _ => keepsSocket_sendWsMessage _)
          keepsSocket_handleAuthorizationMessage keepsSocket_handlePrepareConnection body created inside
      rw [step, handle, handleMessage, receive,
        flagsAgree_catchWith hLive (.inl (flags_of_socket (hMoves w))), onWsMessage_throws hLive]
      simp [keepsAgreement, hLive.1]

/-- A stop of a live connection parts the flags exactly if closing fails. -/
theorem flagsAgree_halt {w : System} (hLive : Live w) (halt : Halt) :
    FlagsAgree (finalState ((onSignaling (halt.program lib)).run w)) ↔
      w.signaling.closeFails lib 0 = false := by
  rw [FlagsAgree, signaling_onSignaling]
  rcases halt_flags lib halt hLive.1 hLive.2 with ⟨e, s', hRun, hFlags, hFails⟩ | ⟨s', hRun, hFlags, hFails⟩
  · obtain ⟨hConnected, hUp⟩ := Prod.mk.inj hFlags
    rw [hRun, finalState_error, hConnected, hUp, hFails]
  · obtain ⟨hConnected, hUp⟩ := Prod.mk.inj hFlags
    rw [hRun, finalState_ok, hConnected, hUp, hFails]

/-- `StopSignalingServer`, and a routine after it that leaves the connection alone. -/
theorem flagsAgree_stopSignalingServer {w : System} (hLive : Live w) {rest : Program System Unit}
    (hRest : SignalingMoves (fun s s' => socket s' = socket s) rest) :
    FlagsAgree (finalState ((stopSignalingServer (SignalingClient.iface lib) >>= fun _ => rest).run w)) ↔
      (!w.manager.signalingClient || !w.signaling.closeFails lib 0) = true := by
  cases hHeld : w.manager.signalingClient with
  | false =>
      have hRun : (stopSignalingServer (SignalingClient.iface lib)).run w = .ok () w := by
        simp [stopSignalingServer, hHeld]
      rw [finalState_bind, hRun]
      exact iff_of_true (hLive.agree.of_flags (flags_of_socket (hRest w))) (by simp)
  | true =>
      have hRun : (stopSignalingServer (SignalingClient.iface lib)).run w =
          (onSignaling (Halt.stop.program lib) >>= fun _ => modify fun w =>
            { w with manager := { w.manager with signalingClient := false } }).run w := by
        simp [stopSignalingServer, hHeld, SignalingClient.iface, Halt.program]
      rw [finalState_bind, hRun, EStateM.run_bind, onSignaling, zoom_run]
      rcases halt_flags lib .stop hLive.1 hLive.2 with
        ⟨e, s', hStop, hFlags, hFails⟩ | ⟨s', hStop, hFlags, hFails⟩
      · -- The close throws after one flag was taken down and before the other.
        rw [hStop, hFails]
        refine iff_of_false (fun hApart => ?_) (by simp)
        obtain ⟨hConnected, hUp⟩ := Prod.mk.inj hFlags
        have hSame : s'.isConnected = s'.wsClient.mConnected := hApart
        rw [hConnected, hUp] at hSame
        cases hSame
      · rw [hStop, hFails]
        exact iff_of_true (.of_down ((flags_of_socket (hRest _)).trans hFlags)) (by simp)

/-- `ShuttingDown` on a live connection parts the flags exactly if it comes to the close and that fails. -/
theorem flagsAgree_shuttingDown {w : System} (hLive : Live w) (inside : Reentry) :
    FlagsAgree (step lib env w (.connector (.shuttingDown inside))) ↔
      (announceFails lib w 0 || !w.manager.signalingClient ||
        !w.signaling.closeFails lib (if w.stateManager.signalingClient then 1 else 0)) = true := by
  let sc := SignalingClient.iface lib
  have hDestroy : SignalingMoves (fun s s' : SignalingClient => socket s' = socket s)
      destroyPeerConnectionManager := signalingMoves_destroyPeerConnectionManager
  have hRest : SignalingMoves (fun s s' => socket s' = socket s) (closePeerConnection sc env
      (deliver sc env inside) >>= fun _ => destroyPeerConnectionManager) := by
    apply within_bind
    · exact signalingMoves_closePeerConnection sc keepsSocket_sendState
        (signalingMoves_deliver sc keepsSocket_sendState inside)
    intro _
    exact hDestroy
  have hSocket := signalingMoves_setState sc keepsSocket_sendState .disconnected w
  have hManager : Within (fun w w' : System => w'.manager = w.manager) (setState sc .disconnected) := by
    apply within_setState
    · exact fun _ => rfl
    · exact within_sendState fun _ =>
        within_zoom (S := fun _ _ => True) (fun _ => trivial) fun _ _ _ => rfl
  have hManager := hManager w
  have hFirst := setState_announces lib hLive .disconnected
  show FlagsAgree (finalState ((setState sc .disconnected >>= fun _ => stopSignalingServer sc >>= fun _ =>
    closePeerConnection sc env (deliver sc env inside) >>= fun _ => destroyPeerConnectionManager).run w)) ↔ _
  rw [finalState_bind]
  cases hSet : (setState sc .disconnected).run w with
  | error e w₁ =>
      -- The exception leaves before the client is stopped.
      rw [hSet] at hSocket
      have hSent : announceFails lib w 0 = true := by
        have hThrows := hFirst.throws
        rw [hSet, throwsException_error, setState_faults lib _ w e w₁ hSet] at hThrows
        simpa [anyAnnounceFails] using hThrows.symm
      rw [hSent]
      exact iff_of_true (hLive.agree.of_flags (flags_of_socket hSocket)) (by simp)
  | ok u w₁ =>
      rw [hSet, finalState_ok] at hSocket hManager
      have hSent : announceFails lib w 0 = false := by
        have hReturns := hFirst.throws
        rw [hSet, throwsException_ok] at hReturns
        simpa [anyAnnounceFails] using hReturns.symm
      obtain ⟨hAnnounced, -⟩ := hFirst.2 w₁ hSet
      have hCloseFails : w₁.signaling.closeFails lib 0 =
          w.signaling.closeFails lib (if w.stateManager.signalingClient then 1 else 0) := by
        have hClient : w₁.signaling.wsClient.mClient = w.signaling.wsClient.mClient :=
          congrArg (fun socket => socket.2.mClient) hSocket
        rw [closeFails, closeFails, hClient, hAnnounced.calls, Nat.add_zero]
      rw [hSent, ← hCloseFails, ← hManager, Bool.false_or]
      exact flagsAgree_stopSignalingServer hAnnounced.live hRest

/-- **What parts the flags**, event by event. -/
theorem flagsAgree_step {w : System} (hAgree : FlagsAgree w) (event : SystemEvent) :
    FlagsAgree (step lib env w event) ↔ keepsAgreement lib env w event = true := by
  cases hConnected : w.signaling.isConnected with
  | false =>
      -- Both flags are down, and only a new connection puts them up, both at once.
      have hDown : w.signaling.flags = (false, false) := by
        rw [flags, hConnected, ← hAgree.symm.trans hConnected]
      refine iff_of_true ?_ (by simp [keepsAgreement, hConnected])
      by_cases hUp : ∃ client, event = .connectSucceeded client
      · obtain ⟨client, rfl⟩ := hUp
        exact flagsAgree_connectSucceeded hAgree client
      · exact .of_down (staysDown_step w (fun client hEvent => hUp ⟨client, hEvent⟩) hDown)
  | true =>
      have hLive : Live w := ⟨hConnected, hAgree ▸ hConnected⟩
      have hQuiet : keepsAgreement lib env w event = true → FlagsAgree (step lib env w event) →
        (FlagsAgree (step lib env w event) ↔ keepsAgreement lib env w event = true) :=
          fun hKeeps hStep => iff_of_true hStep hKeeps
      cases event with
      | connect uri =>
          -- `connect` takes `m_connected` down, and the signaling client does not notice.
          refine iff_of_false (fun hApart => ?_) (by simp [keepsAgreement, hConnected])
          have hUp : w.signaling.isConnected = false := hApart
          rw [hConnected] at hUp
          cases hUp
      | connectSucceeded client =>
          exact hQuiet (by simp [keepsAgreement]) (flagsAgree_connectSucceeded hAgree client)
      | connectFailed client => exact hQuiet (by simp [keepsAgreement]) (flagsAgree_quiet hAgree trivial)
      | serverClosed client => exact hQuiet (by simp [keepsAgreement]) (flagsAgree_quiet hAgree trivial)
      | reconnectThreadWakes => exact hQuiet (by simp [keepsAgreement]) (flagsAgree_quiet hAgree trivial)
      | setMosaicConnector => exact hQuiet (by simp [keepsAgreement]) (flagsAgree_quiet hAgree trivial)
      | message message created inside => exact flagsAgree_message hLive message created inside
      | stop =>
          exact (flagsAgree_halt hLive .stop).trans (by simp [keepsAgreement, hConnected])
      | disconnect =>
          exact (flagsAgree_halt hLive .disconnect).trans (by simp [keepsAgreement, hConnected])
      | destroy =>
          exact (flagsAgree_halt hLive .destroy).trans (by simp [keepsAgreement, hConnected])
      | connector event =>
          cases event with
          | shuttingDown inside =>
              rw [flagsAgree_shuttingDown hLive]
              simp [keepsAgreement, hConnected]
          | _ => exact hQuiet (by simp [keepsAgreement]) (flagsAgree_quiet hAgree trivial)

/-! ## Runs -/

variable (lib env) in
/-- After a message a connection that is up is not muted; after `Stop` it is down. -/
def Heard (w : System) (event : SystemEvent) : Prop :=
  let s := (step lib env w event).signaling
  match event with
  | .message _ _ _ => s.wsClient.mConnected = true → s.isConnected = true
  | .stop => s.wsClient.mConnected = false
  | _ => True

theorem heard_of_flagsAgree {w : System} {event : SystemEvent} (hAgree : FlagsAgree w)
    (hAfter : FlagsAgree (step lib env w event)) : Heard lib env w event := by
  cases event with
  | message message created inside => exact fun hUp => hAfter.trans hUp
  | stop =>
      show (finalState ((onSignaling (stop lib)).run w)).signaling.wsClient.mConnected = false
      rw [signaling_onSignaling]
      cases hUp : w.signaling.wsClient.mConnected with
      | false =>
          have hDown : w.signaling.flags = (false, false) := by rw [flags, hUp, hAgree.trans hUp]
          exact congrArg Prod.snd ((staysDown_halt .stop : Within StaysDown (stop lib)) w.signaling hDown)
      | true =>
          rcases halt_flags lib .stop (hAgree.trans hUp) hUp with
            ⟨e, s', hRun, hFlags, -⟩ | ⟨s', hRun, hFlags, -⟩
          · exact (congrArg (fun result => (finalState result).wsClient.mConnected) hRun).trans
              (congrArg Prod.snd hFlags)
          · exact (congrArg (fun result => (finalState result).wsClient.mConnected) hRun).trans
              (congrArg Prod.snd hFlags)
  | _ => trivial

/-- **When the flags agree.**  In every run of a connector with its signaling client, the flags agree between
any two steps, no message mutes a connection and every `Stop` leaves it down, exactly if on a connection that
is up no message throws (it cannot be read, or a send it leads to fails), no close of a stop fails, and
`connect` is not called. -/
theorem flags_agree_iff (wsUri : String) (authenticator : Authenticator) (states : Nat → DataState)
    (iceServers : List IceServerConfig) (events : List SystemEvent) :
    Throughout (step lib env) FlagsAgree (initial wsUri authenticator states iceServers) events ∧
        EachStep (step lib env) (Heard lib env) (initial wsUri authenticator states iceServers) events ↔
      EachStep (step lib env) (fun w event => keepsAgreement lib env w event = true)
        (initial wsUri authenticator states iceServers) events := by
  have hStep : ∀ w event, FlagsAgree w →
      (FlagsAgree (step lib env w event) ↔ keepsAgreement lib env w event = true) :=
    fun _ event hAgree => flagsAgree_step hAgree event
  have hInitial : FlagsAgree (initial wsUri authenticator states iceServers) := rfl
  have hRuns : Throughout (step lib env) FlagsAgree (initial wsUri authenticator states iceServers) events ↔
      EachStep (step lib env) (fun w event => keepsAgreement lib env w event = true)
        (initial wsUri authenticator states iceServers) events :=
    throughout_iff_eachStep hStep hInitial
  rw [← hRuns]
  refine and_iff_left_of_imp fun hAgree => ?_
  exact hAgree.eachStep fun w event hBefore hAfter =>
    (heard_of_flagsAgree hBefore hAfter : Heard lib env w event)

instance : DecidablePred FlagsAgree := fun _ => inferInstanceAs (Decidable (_ = _))

/-- Libraries for which the text `7` is the number. -/
def sevenParses : Libraries :=
  { Libraries.silent with parse := fun body => if body = [55] then .parsed (.int 7) else .failed }

/-- The text `7` mutes a live connection, and `Stop` leaves it up. -/
theorem number_mutes_connection :
    let events : List SystemEvent :=
      [.connect "ws://server", .connectSucceeded 0, .message (.text [55]) true .done, .stop]
    let w := run (step sevenParses .calm) fresh events
    w.signaling.flags = (false, true) ∧ w.signaling.wsClient.connections = [0] ∧
      ¬ (Throughout (step sevenParses .calm) FlagsAgree fresh events ∧
          EachStep (step sevenParses .calm) (Heard sevenParses .calm) fresh events) :=
  ⟨rfl, rfl, fun h => absurd h.1 (by decide)⟩

end System

end MosaicCore
