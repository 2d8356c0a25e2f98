import MosaicCore.Core.PeerConnectionManager
import MosaicCore.Signaling.Json

/-!
# `SignalingClient` and `WebSocketClientImpl`

The signaling client and the WebSocket client it owns, as one state: the callbacks that the one sets on the
other are the routines `onConnected`, `onDisconnected` and `onError`.

`connectInternal` blocks its thread until the connection is there or has failed, so it is two steps here: the
attempt begins in `connectInternal` and ends in `connectSucceeded` or `connectFailed`.  `handleClose` starts a
thread that sleeps and then runs `connectInternal`; how many of them sleep is `reconnectThreads`.

What the WebSocket library, JsonCpp and libwebrtc's parsers decide is in `Libraries`.
-/

namespace MosaicCore

open EffectProgram

/-- What `reader->parse` does with a text. -/
inductive ParseResult
  | parsed (value : Json)
  | failed
  | threw

/-- The decisions of the libraries. -/
structure Libraries where
  /-- Whether waiting for a send or a close throws, by its place among all calls. -/
  fails : Nat → Bool
  /-- A close that the client asks for calls the close handler. -/
  closeNotifies : Bool
  /-- A failing `connect` calls the close handler. -/
  failNotifies : Bool
  parse : List UInt8 → ParseResult
  createSessionDescription : String → Bool
  createIceCandidate : String → Int → String → Bool
  realText : Rat → String

/-- Libraries in which every call succeeds, every close is silent and no text is JSON. -/
def Libraries.silent : Libraries where
  fails _ := false
  closeNotifies := false
  failNotifies := false
  parse _ := .failed
  createSessionDescription _ := true
  createIceCandidate _ _ _ := true
  realText _ := ""

/-- The same libraries, but with no call failing. -/
def Libraries.sending (lib : Libraries) : Libraries :=
  { lib with fails := fun _ => false }

/-- A call on a `websocket_callback_client`; the clients are numbered in the order of their creation. -/
inductive WsCall
  | connect (client : Nat) (uri : String)
  | send (message : Json)
  | sendPong
  | close

/-- `WebSocketClientImpl`, and the state of the clients it has made. -/
structure WebSocketClientImpl where
  mConnected : Bool := false
  mUri : String := ""
  mClient : Option Nat := none
  clients : Nat := 0
  /-- The clients whose `connect` has not ended. -/
  connecting : List Nat := []
  /-- The clients with a connection. -/
  connections : List Nat := []
  reconnectThreads : Nat := 0
  calls : List WsCall := []

/-- What an authenticator sends when it is asked to authenticate: `NoAuthAuthenticator` has no token. -/
structure Authenticator where
  robotId : String := ""
  token : Option String := none
  authenticated : Bool := false

/-- The fields of a `SignalingClient`. -/
structure SignalingClient where
  isConnected : Bool := false
  wsUri : String := ""
  latestState : Int := -1
  currentRtcConnectionId : String := ""
  /-- Whether `SetMosaicConnector` has been called. -/
  mosaicConnector : Bool := false
  authenticator : Authenticator := {}
  wsClient : WebSocketClientImpl := {}

/-- `try { body } catch (const std::exception& e) { handler }`. -/
def catchWith {σ : Type} (body handler : Program σ Unit) : Program σ Unit := fun s =>
  match body.run s with
  | .ok _ s' => .ok () s'
  | .error e s' => if e.isException then handler.run s' else .error e s'

theorem within_catchWith {σ : Type} {R : σ → σ → Prop} [IsPreorder σ R] {body handler : Program σ Unit}
    (hBody : Within R body) (hHandler : Within R handler) : Within R (catchWith body handler) := by
  intro s
  have hFirst := hBody s
  show R s (finalState (catchWith body handler s))
  rw [catchWith]
  cases hRun : body.run s with
  | ok u s' =>
      rw [hRun] at hFirst
      exact hFirst
  | error e s' =>
      rw [hRun] at hFirst
      by_cases hException : e.isException = true
      · simp only [hException, if_true]
        exact IsTrans.trans _ _ _ hFirst (hHandler s')
      · simpa [hException] using hFirst

/-- Where a `try` ends: at the end of its body, or of the handler after it. -/
theorem finalState_catchWith {σ : Type} (body handler : Program σ Unit) (s : σ) :
    finalState ((catchWith body handler).run s) = finalState (body.run s) ∨
      finalState ((catchWith body handler).run s) = finalState (handler.run (finalState (body.run s))) := by
  show finalState (catchWith body handler s) = _ ∨ finalState (catchWith body handler s) = _
  rw [catchWith]
  cases hRun : body.run s with
  | ok u s' => exact .inl rfl
  | error e s' =>
      cases hException : e.isException with
      | false => exact .inl (by simp [hException])
      | true => exact .inr (by simp [hException])

namespace SignalingClient

variable (lib : Libraries)

/-- Change the WebSocket client. -/
def modifyWs (f : WebSocketClientImpl → WebSocketClientImpl) : Program SignalingClient Unit :=
  modify fun s => { s with wsClient := f s.wsClient }

/-- A call on the current client, and waiting for it. -/
def wsCall (call : WsCall) : Program SignalingClient Unit := do
  let place := (← get).wsClient.calls.length
  modifyWs fun ws => { ws with calls := ws.calls ++ [call] }
  if lib.fails place then throw (.exception "websocket_exception") else pure ()

/-! ## Sending -/

/-- `WebSocketClientImpl::sendJson`, down to `m_client->send(msg).wait()`. -/
def sendJson (message : Json) : Program SignalingClient Unit := do
  if (← get).wsClient.mConnected then wsCall lib (.send message) else pure ()

/-- `SignalingClient::SendWsMessage`. -/
def sendWsMessage (message : Json) : Program SignalingClient Unit := do
  if (← get).wsClient.mConnected then sendJson lib message else pure ()

/-- The message that `SendState` sends. -/
def stateMessage (state : Int) : Json :=
  .object [("type", .string "status.update"), ("data", .object [("status", .int state)])]

/-- `SignalingClient::SendState`. -/
def sendState (state : Int) : Program SignalingClient Unit := do
  modify fun s => { s with latestState := state }
  if (← get).isConnected then sendWsMessage lib (stateMessage state) else pure ()

/-- The message that `SendSdpAnswer` sends. -/
def sdpAnswerMessage (rtcConnectionId : String) (sdp : SessionDescription) : Json :=
  .object
    [("type", .string "signaling.send_sdp_answer"),
      ("data", .object
        [("rtcConnectionId", .string rtcConnectionId), ("sdpAnswer", .string sdp.sdp)])]

/-- `SignalingClient::SendSdpAnswer`. -/
def sendSdpAnswer (sdp : SessionDescription) : Program SignalingClient Unit := do
  let s ← get
  if ¬ s.isConnected ∨ s.currentRtcConnectionId = "" then pure ()
  else sendWsMessage lib (sdpAnswerMessage s.currentRtcConnectionId sdp)

/-- The message that `SendIceCandidate` sends. -/
def iceCandidateMessage (rtcConnectionId : String) (candidate : IceCandidate) : Json :=
  .object
    [("type", .string "signaling.exchange_ice_candidate"),
      ("data", .object
        [("rtcConnectionId", .string rtcConnectionId),
          ("iceCandidate", .object
            [("candidate", .string candidate.init.candidate),
              ("sdpMid", .string candidate.init.sdpMid),
              ("sdpMLineIndex", .int candidate.init.sdpMLineIndex)])])]

/-- `SignalingClient::SendIceCandidate`. -/
def sendIceCandidate (candidate : IceCandidate) : Program SignalingClient Unit := do
  let s ← get
  if ¬ s.isConnected ∨ s.currentRtcConnectionId = "" then pure ()
  else sendWsMessage lib (iceCandidateMessage s.currentRtcConnectionId candidate)

/-! ## The callbacks set on the WebSocket client -/

/-- `setOnConnected`. -/
def onConnected : Program SignalingClient Unit := do
  modify fun s => { s with isConnected := true }
  let s ← get
  if s.latestState ≠ -1 then sendState lib s.latestState else pure ()

/-- `setOnDisconnected`. -/
def onDisconnected : Program SignalingClient Unit :=
  modify fun s => { s with isConnected := false }

/-- `setOnError`. -/
def onError : Program SignalingClient Unit :=
  modify fun s => { s with isConnected := false }

/-! ## `WebSocketClientImpl` -/

/-- `WebSocketClientImpl::handleClose`: the reconnect thread is detached. -/
def handleClose : Program SignalingClient Unit := do
  modifyWs fun ws => { ws with mConnected := false }
  onDisconnected
  modifyWs fun ws => { ws with reconnectThreads := ws.reconnectThreads + 1 }

/-- The connection of a client ends. -/
def dropConnection (client : Nat) : Program SignalingClient Unit :=
  modifyWs fun ws => { ws with connections := ws.connections.filter (· ≠ client) }

/-- `m_client->close().wait()`. -/
def closeClient : Program SignalingClient Unit := do
  let client ← dereference "m_client" (← get).wsClient.mClient
  wsCall lib .close
  if client ∈ (← get).wsClient.connections then do
    dropConnection client
    if lib.closeNotifies then handleClose else pure ()
  else pure ()

/-- `WebSocketClientImpl::disconnect`. -/
def disconnect : Program SignalingClient Unit := do
  if ¬ (← get).wsClient.mConnected then pure ()
  else do
    modifyWs fun ws => { ws with mConnected := false }
    closeClient lib
    onDisconnected

/-- `WebSocketClientImpl::connectInternal`, up to the wait. -/
def connectInternal : Program SignalingClient Unit :=
  modifyWs fun ws =>
    { ws with
      mClient := some ws.clients
      clients := ws.clients + 1
      connecting := ws.connecting ++ [ws.clients]
      calls := ws.calls ++ [.connect ws.clients ws.mUri] }

/-- The connection of a client is there; what the continuation throws is only logged. -/
def connectSucceeded (client : Nat) : Program SignalingClient Unit := do
  if client ∈ (← get).wsClient.connecting then do
    modifyWs fun ws =>
      { ws with
        connecting := ws.connecting.filter (· ≠ client)
        connections := ws.connections ++ [client] }
    modifyWs fun ws => { ws with mConnected := true }
    catchException (onConnected lib)
  else pure ()

/-- The attempt of a client fails. -/
def connectFailed (client : Nat) : Program SignalingClient Unit := do
  if client ∈ (← get).wsClient.connecting then do
    modifyWs fun ws => { ws with connecting := ws.connecting.filter (· ≠ client) }
    if lib.failNotifies then handleClose else pure ()
  else pure ()

/-- The server closes the connection of a client. -/
def serverClosed (client : Nat) : Program SignalingClient Unit := do
  if client ∈ (← get).wsClient.connections then do
    dropConnection client
    handleClose
  else pure ()

/-- A reconnect thread has slept its five seconds. -/
def reconnectThreadWakes : Program SignalingClient Unit := do
  if 0 < (← get).wsClient.reconnectThreads then do
    modifyWs fun ws => { ws with reconnectThreads := ws.reconnectThreads - 1 }
    connectInternal
  else pure ()

/-- `WebSocketClientImpl::connect` of the WebSocket client that there is.  For a new one this is all that `Start` does
to it.  A second `Start`, which puts a new WebSocket client in the place of the one in `ws_client_`, is no such call. -/
def connect (uri : String) : Program SignalingClient Unit := do
  modifyWs fun ws => { ws with mUri := uri, mConnected := false }
  connectInternal

/-! ## `SignalingClient` -/

/-- `SignalingClient::Stop`. -/
def stop : Program SignalingClient Unit := do
  if (← get).isConnected then do
    disconnect lib
    modify fun s => { s with isConnected := false }
  else pure ()

/-- `~SignalingClient`, and `~WebSocketClient` of the client it owns. -/
def destroy : Program SignalingClient Unit := do
  stop lib
  if (← get).wsClient.mConnected then disconnect lib else pure ()

/-- `SetMosaicConnector`. -/
def setMosaicConnector : Program SignalingClient Unit :=
  modify fun s => { s with mosaicConnector := true }

/-- `HandleAuthenticationReq` of the authenticators. -/
def handleAuthenticationReq : Program SignalingClient Unit := do
  let authenticator := (← get).authenticator
  sendWsMessage lib <|
    .object
      [("type", .string "authorize"),
        ("data", .object <|
          ("robotId", .string authenticator.robotId) ::
            authenticator.token.toList.map fun token => ("data", .string token))]

/-- `HandleAuthenticationComplete` of the authenticators. -/
def handleAuthenticationComplete : Program SignalingClient Unit :=
  modify fun s => { s with authenticator := { s.authenticator with authenticated := true } }

/-- `SignalingClient::HandleAuthorizationMessage`; `HandleAuthenticationMessage` only logs. -/
def handleAuthorizationMessage (type : String) (message : Json) : Program SignalingClient Unit := do
  if type = "authorize.req" then handleAuthenticationReq lib
  else if type = "authorize.res" then
    if message.isNull then pure ()
    else do
      let code ← orThrow message.asInt
      if code = 100 then handleAuthenticationComplete else pure ()
  else pure ()

/-- `SignalingClient::HandlePrepareConnection`. -/
def handlePrepareConnection (message : Json) : Program SignalingClient Unit := do
  let id ← orThrow (message.get "rtcConnectionId")
  let text ← orThrow (id.asString lib.realText)
  modify fun s => { s with currentRtcConnectionId := text }

/-- `SignalingClient::HandlePingPong`. -/
def handlePingPong (message : Json) : Program SignalingClient Unit :=
  sendWsMessage lib (message.set "type" (.string "ping.pong"))

/-- The signaling client as the connector sees it. -/
def iface : ISignalingClient SignalingClient where
  stop := stop lib
  sendSdpAnswer := sendSdpAnswer lib
  sendIceCandidate := sendIceCandidate lib
  sendState := sendState lib

/-! ## What a send does -/

variable {lib}

/-- The state after a call. -/
def called (s : SignalingClient) (call : WsCall) : SignalingClient :=
  { s with wsClient := { s.wsClient with calls := s.wsClient.calls ++ [call] } }

theorem wsCall_run (call : WsCall) (s : SignalingClient) : (wsCall lib call).run s =
    if lib.fails s.wsClient.calls.length then .error (.exception "websocket_exception") (called s call)
    else .ok () (called s call) := by
  by_cases hFails : lib.fails s.wsClient.calls.length = true
  · simp [wsCall, modifyWs, hFails, called]
  · simp [wsCall, modifyWs, hFails, called]

variable (lib) in
/-- The client after the connection of a client was closed on its request. -/
def closedOn (client : Nat) (s : SignalingClient) : SignalingClient :=
  if client ∈ s.wsClient.connections then
    finalState ((dropConnection client >>= fun _ =>
      if lib.closeNotifies then handleClose else pure ()).run (called s .close))
  else called s .close

theorem closeClient_none {s : SignalingClient} (hNone : s.wsClient.mClient = none) :
    (closeClient lib).run s = .error (.nullDereference "m_client") s := by
  simp [closeClient, hNone]

/-- Only the call itself can fail. -/
theorem closeClient_some {s : SignalingClient} {client : Nat} (hClient : s.wsClient.mClient = some client) :
    (closeClient lib).run s =
      if lib.fails s.wsClient.calls.length then .error (.exception "websocket_exception") (called s .close)
      else .ok () (closedOn lib client s) := by
  have hRun : (closeClient lib).run s = (wsCall lib .close >>= fun _ => do
      if client ∈ (← get).wsClient.connections then do
        dropConnection client
        if lib.closeNotifies then handleClose else pure ()
      else pure ()).run s := by
    simp [closeClient, hClient]
  rw [hRun, EStateM.run_bind, wsCall_run]
  by_cases hFails : lib.fails s.wsClient.calls.length = true
  · simp [hFails]
  simp only [hFails, Bool.false_eq_true, if_false]
  by_cases hOpen : client ∈ s.wsClient.connections
  · have hMem : client ∈ (called s .close).wsClient.connections := hOpen
    rw [EStateM.run_bind, EStateM.run_get]
    simp only [if_pos hMem, closedOn, if_pos hOpen]
    cases lib.closeNotifies with
    | true => rfl
    | false => rfl
  · have hNot : client ∉ (called s .close).wsClient.connections := hOpen
    rw [EStateM.run_bind, EStateM.run_get]
    simp only [if_neg hNot, closedOn, if_neg hOpen]
    rfl

variable (lib) in
theorem sendWsMessage_up {s : SignalingClient} (hUp : s.wsClient.mConnected = true) (message : Json) :
    (sendWsMessage lib message).run s = (wsCall lib (.send message)).run s := by
  simp [sendWsMessage, sendJson, hUp]

theorem sendWsMessage_down {s : SignalingClient} (hDown : s.wsClient.mConnected = false)
    (message : Json) : (sendWsMessage lib message).run s = .ok () s := by
  simp [sendWsMessage, hDown]

theorem sendState_live {s : SignalingClient} (hConnected : s.isConnected = true)
    (hUp : s.wsClient.mConnected = true) (state : Int) : (sendState lib state).run s =
      (wsCall lib (.send (stateMessage state))).run { s with latestState := state } := by
  have hSend := sendWsMessage_up lib (s := { s with latestState := state }) hUp
    (stateMessage state)
  simpa [sendState, hConnected] using hSend

/-- The client after `SendState`, whether the send succeeds or not. -/
def told (s : SignalingClient) (state : Int) : SignalingClient :=
  if s.isConnected ∧ s.wsClient.mConnected then
    called { s with latestState := state } (.send (stateMessage state))
  else { s with latestState := state }

variable (lib) in
theorem sendState_run (s : SignalingClient) (state : Int) : (sendState lib state).run s =
    if s.isConnected && s.wsClient.mConnected && lib.fails s.wsClient.calls.length then
      .error (.exception "websocket_exception") (told s state)
    else .ok () (told s state) := by
  cases hConnected : s.isConnected with
  | false => simp [sendState, told, hConnected]
  | true =>
      cases hUp : s.wsClient.mConnected with
      | false => simp [sendState, sendWsMessage, told, hConnected, hUp]
      | true =>
          rw [sendState_live hConnected hUp, wsCall_run]
          simp [told, hConnected, hUp]

@[simp] theorem told_latestState (s : SignalingClient) (state : Int) : (told s state).latestState = state := by
  unfold told called
  split <;> rfl

@[simp] theorem told_isConnected (s : SignalingClient) (state : Int) :
    (told s state).isConnected = s.isConnected := by
  unfold told called
  split <;> rfl

@[simp] theorem told_mConnected (s : SignalingClient) (state : Int) :
    (told s state).wsClient.mConnected = s.wsClient.mConnected := by
  unfold told called
  split <;> rfl

theorem told_calls (s : SignalingClient) (state : Int) : (told s state).wsClient.calls =
    s.wsClient.calls ++
      if s.isConnected ∧ s.wsClient.mConnected then [.send (stateMessage state)] else [] := by
  unfold told called
  split <;> simp

/-! ## Rules for the routines

A routine moves the client along a preorder if its primitive steps do. -/

section Rules

variable {R : SignalingClient → SignalingClient → Prop}

theorem within_wsCall {call : WsCall} (hCall : ∀ s, R s (called s call)) :
    Within R (wsCall lib call) := by
  intro s
  rw [wsCall_run]
  split_ifs
  · exact hCall s
  · exact hCall s

variable [IsPreorder SignalingClient R]

theorem within_sendWsMessage {message : Json} (hSend : Within R (wsCall lib (.send message))) :
    Within R (sendWsMessage lib message) := by
  apply within_get_bind
  intro _
  refine within_ite ?_ (within_pure _)
  apply within_get_bind
  intro _
  exact within_ite hSend (within_pure _)

theorem within_sendState {state : Int} (hLatest : ∀ s : SignalingClient, R s { s with latestState := state })
    (hSend : Within R (sendWsMessage lib (stateMessage state))) : Within R (sendState lib state) := by
  apply within_bind
  · exact within_modify hLatest
  intro _
  apply within_get_bind
  intro _
  exact within_ite hSend (within_pure _)

theorem within_handleAuthorizationMessage (hReq : Within R (handleAuthenticationReq lib))
    (hComplete : Within R handleAuthenticationComplete) (type : String) (message : Json) :
    Within R (handleAuthorizationMessage lib type message) := by
  apply within_ite
  · exact hReq
  refine within_ite ?_ (within_pure _)
  apply within_ite
  · exact within_pure _
  apply within_orThrow_bind
  intro _
  exact within_ite hComplete (within_pure _)

theorem within_onConnected (hUp : ∀ s : SignalingClient, R s { s with isConnected := true })
    (hState : ∀ state, Within R (sendState lib state)) : Within R (onConnected lib) := by
  apply within_bind
  · exact within_modify hUp
  intro _
  apply within_get_bind
  intro _
  exact within_ite (hState _) (within_pure _)

theorem within_handleClose (hDown : Within R (modifyWs fun ws => { ws with mConnected := false }))
    (hClear : Within R onDisconnected)
    (hThread : Within R (modifyWs fun ws => { ws with reconnectThreads := ws.reconnectThreads + 1 })) :
    Within R handleClose := by
  apply within_bind
  · exact hDown
  intro _
  apply within_bind
  · exact hClear
  intro _
  exact hThread

theorem within_closeClient (hCall : Within R (wsCall lib .close))
    (hDrop : ∀ client, Within R (dropConnection client)) (hHandle : Within R handleClose) :
    Within R (closeClient lib) := by
  apply within_get_bind
  intro _
  apply within_dereference_bind
  intro client
  apply within_bind
  · exact hCall
  intro _
  apply within_get_bind
  intro _
  refine within_ite ?_ (within_pure _)
  apply within_bind
  · exact hDrop client
  intro _
  exact within_ite hHandle (within_pure _)

theorem within_connect {uri : String}
    (hUri : Within R (modifyWs fun ws => { ws with mUri := uri, mConnected := false }))
    (hConnect : Within R connectInternal) : Within R (connect uri) := by
  apply within_bind
  · exact hUri
  intro _
  exact hConnect

theorem within_connectSucceeded {client : Nat}
    (hOpen : Within R (modifyWs fun ws =>
      { ws with
        connecting := ws.connecting.filter (· ≠ client)
        connections := ws.connections ++ [client] }))
    (hUp : Within R (modifyWs fun ws => { ws with mConnected := true }))
    (hConnected : Within R (onConnected lib)) : Within R (connectSucceeded lib client) := by
  apply within_get_bind
  intro _
  refine within_ite ?_ (within_pure _)
  apply within_bind
  · exact hOpen
  intro _
  apply within_bind
  · exact hUp
  intro _
  exact within_recover hConnected _

theorem within_connectFailed {client : Nat}
    (hForget : Within R (modifyWs fun ws => { ws with connecting := ws.connecting.filter (· ≠ client) }))
    (hHandle : Within R handleClose) : Within R (connectFailed lib client) := by
  apply within_get_bind
  intro _
  refine within_ite ?_ (within_pure _)
  apply within_bind
  · exact hForget
  intro _
  exact within_ite hHandle (within_pure _)

theorem within_serverClosed {client : Nat} (hDrop : Within R (dropConnection client))
    (hHandle : Within R handleClose) : Within R (serverClosed client) := by
  apply within_get_bind
  intro _
  refine within_ite ?_ (within_pure _)
  apply within_bind
  · exact hDrop
  intro _
  exact hHandle

theorem within_reconnectThreadWakes
    (hTake : Within R (modifyWs fun ws => { ws with reconnectThreads := ws.reconnectThreads - 1 }))
    (hConnect : Within R connectInternal) : Within R reconnectThreadWakes := by
  apply within_get_bind
  intro _
  refine within_ite ?_ (within_pure _)
  apply within_bind
  · exact hTake
  intro _
  exact hConnect

variable (hDown : Within R (modifyWs fun ws => { ws with mConnected := false }))
variable (hClose : Within R (closeClient lib)) (hClear : Within R onDisconnected)

include hDown hClose hClear

theorem within_disconnect : Within R (disconnect lib) := by
  apply within_get_bind
  intro _
  apply within_ite
  · exact within_pure _
  apply within_bind
  · exact hDown
  intro _
  apply within_bind
  · exact hClose
  intro _
  exact hClear

theorem within_stop : Within R (stop lib) := by
  apply within_get_bind
  intro _
  refine within_ite ?_ (within_pure _)
  apply within_bind
  · exact within_disconnect hDown hClose hClear
  intro _
  exact hClear

theorem within_destroy : Within R (destroy lib) := by
  apply within_bind
  · exact within_stop hDown hClose hClear
  intro _
  apply within_get_bind
  intro _
  exact within_ite (within_disconnect hDown hClose hClear) (within_pure _)

end Rules

/-! ## What sends leave alone -/

/-- What the client knows of its connection: all that sends leave alone. -/
def socket (s : SignalingClient) : Bool × WebSocketClientImpl :=
  (s.isConnected, { s.wsClient with calls := [] })

/-- The routine changes nothing about the connection. -/
def KeepsSocket (p : Program SignalingClient Unit) : Prop :=
  Within (fun s s' => socket s' = socket s) p

theorem keepsSocket_wsCall (call : WsCall) : KeepsSocket (wsCall lib call) :=
  within_wsCall fun _ => rfl

theorem keepsSocket_sendWsMessage (message : Json) : KeepsSocket (sendWsMessage lib message) :=
  within_sendWsMessage (keepsSocket_wsCall _)

theorem keepsSocket_sendState (state : Int) : KeepsSocket (sendState lib state) :=
  within_sendState (fun _ => rfl) (keepsSocket_sendWsMessage _)

theorem keepsSocket_sendSdpAnswer (sdp : SessionDescription) : KeepsSocket (sendSdpAnswer lib sdp) := by
  apply within_get_bind
  intro _
  exact within_ite (within_pure _) (keepsSocket_sendWsMessage _)

theorem keepsSocket_sendIceCandidate (candidate : IceCandidate) :
    KeepsSocket (sendIceCandidate lib candidate) := by
  apply within_get_bind
  intro _
  exact within_ite (within_pure _) (keepsSocket_sendWsMessage _)

theorem keepsSocket_handlePrepareConnection (message : Json) :
    KeepsSocket (handlePrepareConnection lib message) := by
  apply within_orThrow_bind
  intro _
  apply within_orThrow_bind
  intro _
  exact within_modify fun _ => rfl

theorem keepsSocket_handleAuthorizationMessage (type : String) (message : Json) :
    KeepsSocket (handleAuthorizationMessage lib type message) := by
  have hReq : KeepsSocket (handleAuthenticationReq lib) := by
    apply within_get_bind
    intro _
    exact keepsSocket_sendWsMessage _
  exact within_handleAuthorizationMessage hReq (within_modify fun _ => rfl) type message

/-- Sends leave at most through exceptions. -/
theorem faultsOnly_sendWsMessage (message : Json) :
    FaultsOnly (·.isException) (sendWsMessage lib message) := by
  intro s e s' hRun
  cases hUp : s.wsClient.mConnected with
  | false =>
      rw [sendWsMessage_down hUp] at hRun
      cases hRun
  | true =>
      rw [sendWsMessage_up _ hUp, wsCall_run] at hRun
      split_ifs at hRun
      cases hRun
      rfl

theorem throwsExceptions_iface : (iface lib).ThrowsExceptions where
  sendSdpAnswer sdp := by
    refine faultsOnly_bind neverFaults_get.faultsOnly fun s => faultsOnly_ite ?_ ?_
    · exact (neverFaults_pure _).faultsOnly
    · exact faultsOnly_sendWsMessage _
  sendIceCandidate candidate := by
    refine faultsOnly_bind neverFaults_get.faultsOnly fun s => faultsOnly_ite ?_ ?_
    · exact (neverFaults_pure _).faultsOnly
    · exact faultsOnly_sendWsMessage _

end SignalingClient

end MosaicCore
