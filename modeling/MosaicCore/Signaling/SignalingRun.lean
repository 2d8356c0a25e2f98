import MosaicCore.Core.ConnectorRun
import MosaicCore.Core.SignalingSide
import MosaicCore.Signaling.SignalingClient

/-!
# Runs of a connector with its signaling client

The object graph of a connector whose signaling client is a `SignalingClient`: what arrives over the WebSocket
is handled by routines of both.  `SystemEvent` lists everything that can happen next; a message carries its
bytes, and the choices that libwebrtc makes while it is handled.

A handler that throws ends in the `catch` block of `handleMessage`, which calls `onError`.
-/

namespace MosaicCore

open EffectProgram EventRun

/-- An incoming message. -/
inductive WsMessage
  | ping
  | pong
  | close
  | text (body : List UInt8)

/-- The connector and its signaling client. -/
abbrev System := World SignalingClient

/-- What happens next. -/
inductive SystemEvent
  /-- `connect` of the WebSocket client in `ws_client_`, in the first `Start` or by itself. -/
  | connect (uri : String)
  | connectSucceeded (client : Nat)
  | connectFailed (client : Nat)
  | serverClosed (client : Nat)
  | reconnectThreadWakes
  /-- `created` and `inside` are what `CreatePeerConnectionOrError` and `Close()` do. -/
  | message (message : WsMessage) (created : Bool) (inside : Reentry)
  | stop
  | disconnect
  | destroy
  | setMosaicConnector
  | connector (event : ConnectorEvent)

/-- `connect` is called, by the first `Start` or by itself. -/
def SystemEvent.isConnect : SystemEvent → Bool
  | .connect _ => true
  | _ => false

namespace System

open World

variable (lib : Libraries) (env : Environment)

/-- Use `mosaic_connector_`. -/
def useConnector : Program System Unit := do
  if (← get).signaling.mosaicConnector then pure ()
  else throw (.nullDereference "mosaic_connector_")

/-- `SignalingClient::HandleSendSdpOffer`, with `ResolveSdpOffer`. -/
def handleSendSdpOffer (message : Json) (created : Bool) (inside : Reentry) : Program System Unit := do
  let offer ← orThrow (message.get "sdpOffer")
  if offer.isNull then pure ()
  else do
    let text ← orThrow (offer.asString lib.realText)
    if lib.createSessionDescription text then do
      useConnector
      handleSdpOffer (SignalingClient.iface lib) env text created inside
    else pure ()

/-- `ResolveIceCandidate`. -/
def resolveIceCandidate (iceCandidate : Json) : Program System (Option CandidateInit) := do
  let candidate ← orThrow (iceCandidate.get "candidate")
  -- The text is read for the log before any of the three is tested.
  let text ← orThrow (candidate.asString lib.realText)
  let sdpMid ← orThrow (iceCandidate.get "sdpMid")
  let sdpMLineIndex ← orThrow (iceCandidate.get "sdpMLineIndex")
  if candidate.isNull ∨ sdpMid.isNull ∨ sdpMLineIndex.isNull then pure none
  else do
    let mid ← orThrow (sdpMid.asString lib.realText)
    let index ← orThrow sdpMLineIndex.asInt
    pure (if lib.createIceCandidate mid index text then some ⟨text, mid, index⟩ else none)

/-- `SignalingClient::HandleExchangeIceCandidate`. -/
def handleExchangeIceCandidate (message : Json) : Program System Unit := do
  let iceCandidate ← orThrow (message.get "iceCandidate")
  if iceCandidate.isNull then pure ()
  else do
    match ← resolveIceCandidate lib iceCandidate with
    | none => pure ()
    | some candidate => do
        useConnector
        handleIceCandidateFromSignaling candidate

/-- `SignalingClient::HandleCloseConnection`. -/
def handleCloseConnection (inside : Reentry) : Program System Unit := do
  useConnector
  let sc := SignalingClient.iface lib
  closePeerConnection sc env (deliver sc env inside)

/-- The branches of `SignalingClient::OnMessage`. -/
def dispatch (type : String) (message : Json) (created : Bool) (inside : Reentry) :
    Program System Unit := do
  if type = "signaling.send_sdp_offer" then do
    let data ← orThrow (message.get "data")
    handleSendSdpOffer lib env data created inside
  else if type = "signaling.prepare_connection" then do
    let data ← orThrow (message.get "data")
    onSignaling (SignalingClient.handlePrepareConnection lib data)
  else if type = "signaling.exchange_ice_candidate" then do
    let data ← orThrow (message.get "data")
    handleExchangeIceCandidate lib data
  else if type = "signaling.close_peer_connection" then handleCloseConnection lib env inside
  else if "authorize".toList.isPrefixOf type.toList then do
    let data ← orThrow (message.get "data")
    onSignaling (SignalingClient.handleAuthorizationMessage lib type data)
  else if type = "ping.ping" then onSignaling (SignalingClient.handlePingPong lib message)
  else pure ()

/-- `SignalingClient::OnMessage`. -/
def onMessage (message : Json) (created : Bool) (inside : Reentry) : Program System Unit := do
  let type ← orThrow (message.get "type")
  if type.isNull then pure ()
  else do
    let text ← orThrow (type.asString lib.realText)
    dispatch lib env text message created inside

/-- `SignalingClient::OnWsMessage`. -/
def onWsMessage (body : List UInt8) (created : Bool) (inside : Reentry) : Program System Unit :=
  match lib.parse body with
  | .failed => pure ()
  | .threw => throw (.exception "Json::RuntimeError")
  | .parsed message => onMessage lib env message created inside

/-- The `try` block of `handleMessage`. -/
def receive (message : WsMessage) (created : Bool) (inside : Reentry) : Program System Unit :=
  match message with
  | .ping => onSignaling (SignalingClient.wsCall lib .sendPong)
  | .pong => pure ()
  | .close => onSignaling (SignalingClient.closeClient lib)
  | .text body => onWsMessage lib env body created inside

/-- `WebSocketClientImpl::handleMessage`. -/
def handleMessage (message : WsMessage) (created : Bool) (inside : Reentry) : Program System Unit :=
  catchWith (receive lib env message created inside) (onSignaling SignalingClient.onError)

/-- The routine an event runs. -/
def handle : SystemEvent → Program System Unit
  | .connect uri => onSignaling (SignalingClient.connect uri)
  | .connectSucceeded client => onSignaling (SignalingClient.connectSucceeded lib client)
  | .connectFailed client => onSignaling (SignalingClient.connectFailed lib client)
  | .serverClosed client => onSignaling (SignalingClient.serverClosed client)
  | .reconnectThreadWakes => onSignaling SignalingClient.reconnectThreadWakes
  | .message message created inside => handleMessage lib env message created inside
  | .stop => onSignaling (SignalingClient.stop lib)
  | .disconnect => onSignaling (SignalingClient.disconnect lib)
  | .destroy => onSignaling (SignalingClient.destroy lib)
  | .setMosaicConnector => onSignaling SignalingClient.setMosaicConnector
  | .connector event => World.handle (SignalingClient.iface lib) env event

/-- The state after an event. -/
def step (s : System) (event : SystemEvent) : System :=
  finalState ((handle lib env event).run s)

/-- A new signaling client, and a connector wired to it. -/
def initial (wsUri : String) (authenticator : Authenticator) (states : Nat → DataState)
    (iceServers : List IceServerConfig) : System :=
  World.wired { wsUri := wsUri, authenticator := authenticator } states iceServers

/-! ## The messages that reach `dispatch` -/

/-- The type and the message of a text that can be read. -/
def dispatched (body : List UInt8) : Option (String × Json) :=
  match lib.parse body with
  | .parsed message =>
      let type := message.field "type"
      if message.isTable ∧ ¬ type.isNull ∧ type.isText then some (type.text lib.realText, message) else none
  | _ => none

variable {lib} in
theorem isTable_of_dispatched {body : List UInt8} {type : String} {message : Json}
    (hReads : dispatched lib body = some (type, message)) : message.isTable = true := by
  unfold dispatched at hReads
  cases hParse : lib.parse body with
  | failed => simp [hParse] at hReads
  | threw => simp [hParse] at hReads
  | parsed value =>
      simp only [hParse, Option.ite_none_right_eq_some, Option.some.injEq, Prod.mk.injEq] at hReads
      obtain ⟨⟨hTable, -, -⟩, -, rfl⟩ := hReads
      exact hTable

variable {lib env} in
/-- A text that can be read is dispatched, any other changes nothing. -/
theorem finalState_onWsMessage (body : List UInt8) (created : Bool) (inside : Reentry) (w : System) :
    finalState ((onWsMessage lib env body created inside).run w) =
      match dispatched lib body with
      | some (type, message) => finalState ((dispatch lib env type message created inside).run w)
      | none => w := by
  rw [onWsMessage, dispatched]
  cases lib.parse body with
  | failed => rfl
  | threw => rfl
  | parsed message =>
      show finalState ((onMessage lib env message created inside).run w) = _
      rw [onMessage]
      cases hTable : message.isTable with
      | false =>
          obtain ⟨what, hThrow⟩ := Json.get_of_not_isTable hTable "type"
          simp [hThrow, hTable]
      | true =>
          rw [Json.get_of_isTable hTable, orThrow_ok, pure_bind]
          cases hNull : (message.field "type").isNull with
          | true => simp [hNull]
          | false =>
              cases hText : (message.field "type").isText with
              | false =>
                  obtain ⟨what, hThrow⟩ := Json.asString_of_not_isText hText lib.realText
                  simp [hThrow, hTable, hNull, hText]
              | true =>
                  rw [Json.asString_of_isText hText, orThrow_ok, pure_bind]
                  simp [hTable, hNull, hText]

/-- A routine of the signaling client does to it what it does alone. -/
theorem signaling_onSignaling (p : Program SignalingClient Unit) (s : System) :
    (finalState ((onSignaling p).run s)).signaling = finalState (p.run s.signaling) := by
  rw [onSignaling, finalState_zoom]

variable {lib env} in
/-- After a message the signaling client is as the `try` block leaves it, but for the flag that `onError` puts
down. -/
theorem signaling_step_message (w : System) (message : WsMessage) (created : Bool) (inside : Reentry) :
    let s := (finalState ((receive lib env message created inside).run w)).signaling
    let s' := (step lib env w (.message message created inside)).signaling
    s' = s ∨ s' = { s with isConnected := false } := by
  intro s s'
  have hStep : s' = (finalState ((handleMessage lib env message created inside).run w)).signaling := rfl
  rw [handleMessage] at hStep
  rcases finalState_catchWith (receive lib env message created inside)
    (onSignaling SignalingClient.onError) w with hFinal | hFinal
  · rw [hFinal] at hStep
    exact .inl hStep
  · rw [hFinal, signaling_onSignaling] at hStep
    exact .inr hStep

/-! ## What messages do to the signaling client -/

section Moves

variable {lib : Libraries} {env : Environment} {R : SignalingClient → SignalingClient → Prop}
variable [IsPreorder SignalingClient R]

theorem signalingMoves_useConnector : SignalingMoves R useConnector := by
  apply within_get_bind
  intro _
  exact within_ite (within_pure _) (within_throw _)

theorem signalingMoves_resolveIceCandidate (iceCandidate : Json) :
    SignalingMoves R (resolveIceCandidate lib iceCandidate) := by
  -- Reading a member or converting it may throw, and changes nothing.
  apply within_orThrow_bind
  intro _
  apply within_orThrow_bind
  intro _
  apply within_orThrow_bind
  intro _
  apply within_orThrow_bind
  intro _
  apply within_ite
  · exact within_pure _
  apply within_orThrow_bind
  intro _
  apply within_orThrow_bind
  intro _
  exact within_pure _

theorem signalingMoves_handleExchangeIceCandidate (message : Json) :
    SignalingMoves R (handleExchangeIceCandidate lib message) := by
  apply within_orThrow_bind
  intro _
  apply within_ite
  · exact within_pure _
  apply within_bind
  · exact signalingMoves_resolveIceCandidate _
  intro candidate
  cases candidate with
  | none => exact within_pure _
  | some candidate =>
      apply within_bind
      · exact signalingMoves_useConnector
      intro _
      exact signalingMoves_handleIceCandidate candidate

variable (hState : ∀ state, Within R (SignalingClient.sendState lib state))

include hState

theorem signalingMoves_handleSendSdpOffer (message : Json) (created : Bool) (inside : Reentry) :
    SignalingMoves R (handleSendSdpOffer lib env message created inside) := by
  apply within_orThrow_bind
  intro _
  apply within_ite
  · exact within_pure _
  apply within_orThrow_bind
  intro _
  refine within_ite ?_ (within_pure _)
  apply within_bind
  · exact signalingMoves_useConnector
  intro _
  exact signalingMoves_handleSdpOffer (SignalingClient.iface lib) hState _ _ _

theorem signalingMoves_handleCloseConnection (inside : Reentry) :
    SignalingMoves R (handleCloseConnection lib env inside) := by
  apply within_bind
  · exact signalingMoves_useConnector
  intro _
  exact signalingMoves_closePeerConnection (SignalingClient.iface lib) hState
    (signalingMoves_deliver (SignalingClient.iface lib) hState inside)

variable (hPing : ∀ message, Within R (SignalingClient.handlePingPong lib message))

include hPing

/-- A message of any type moves the signaling client only by its own routines. -/
theorem signalingMoves_dispatch {type : String}
    (hAuthorize : ∀ message, Within R (SignalingClient.handleAuthorizationMessage lib type message))
    (hPrepare : type = "signaling.prepare_connection" →
      ∀ message, Within R (SignalingClient.handlePrepareConnection lib message)) (message : Json)
    (created : Bool) (inside : Reentry) :
    SignalingMoves R (dispatch lib env type message created inside) := by
  have hData {p : Json → Program System Unit} (hp : ∀ data, SignalingMoves R (p data)) :
      SignalingMoves R (orThrow (message.get "data") >>= p) := by
    apply within_bind
    · exact within_orThrow _
    exact hp
  -- One case for each branch, in the order of the source.
  apply within_ite
  · exact hData fun _ => signalingMoves_handleSendSdpOffer hState _ _ _
  apply within_ite_of
  · exact fun hType => hData fun _ => signalingMoves_onSignaling (hPrepare hType _)
  apply within_ite
  · exact hData fun _ => signalingMoves_handleExchangeIceCandidate _
  apply within_ite
  · exact signalingMoves_handleCloseConnection hState _
  apply within_ite
  · exact hData fun _ => signalingMoves_onSignaling (hAuthorize _)
  apply within_ite
  · exact signalingMoves_onSignaling (hPing _)
  exact within_pure _

variable (hAuthorize : ∀ type message,
  Within R (SignalingClient.handleAuthorizationMessage lib type message))
variable (hPrepare : ∀ message, Within R (SignalingClient.handlePrepareConnection lib message))

include hAuthorize hPrepare

/-- A text message moves the signaling client only by its own routines. -/
theorem signalingMoves_onWsMessage (body : List UInt8) (created : Bool) (inside : Reentry) :
    SignalingMoves R (onWsMessage lib env body created inside) := by
  rw [onWsMessage]
  cases lib.parse body with
  | failed => exact within_pure _
  | threw => exact within_throw _
  | parsed message =>
      apply within_orThrow_bind
      intro _
      apply within_ite
      · exact within_pure _
      apply within_orThrow_bind
      intro type
      exact signalingMoves_dispatch hState hPing (hAuthorize type) (fun _ => hPrepare) message created inside

/-- An incoming message moves the signaling client only by its own routines. -/
theorem signalingMoves_receive (hPong : Within R (SignalingClient.wsCall lib .sendPong))
    (hClose : Within R (SignalingClient.closeClient lib)) (message : WsMessage) (created : Bool)
    (inside : Reentry) : SignalingMoves R (receive lib env message created inside) := by
  cases message with
  | ping => exact signalingMoves_onSignaling hPong
  | pong => exact within_pure _
  | close => exact signalingMoves_onSignaling hClose
  | text body => exact signalingMoves_onWsMessage hState hPing hAuthorize hPrepare _ _ _

end Moves

/-! ## Relations that sends do not touch -/

section OfSocket

open SignalingClient

variable {lib : Libraries} {env : Environment} {R : SignalingClient → SignalingClient → Prop}
variable [IsPreorder SignalingClient R] (hSocket : ∀ {s s'}, socket s' = socket s → R s s')

include hSocket

/-- An incoming message moves the signaling client by closing and by clearing the flag only. -/
theorem signalingMoves_handleMessage (hClose : Within R (closeClient lib)) (hError : Within R onError)
    (message : WsMessage) (created : Bool) (inside : Reentry) :
    SignalingMoves R (handleMessage lib env message created inside) := by
  apply within_catchWith
  · apply signalingMoves_receive
    · exact fun _ => (keepsSocket_sendState _).mono fun _ _ => hSocket
    · exact fun _ => (keepsSocket_sendWsMessage _).mono fun _ _ => hSocket
    · exact fun _ _ => (keepsSocket_handleAuthorizationMessage _ _).mono fun _ _ => hSocket
    · exact fun _ => (keepsSocket_handlePrepareConnection _).mono fun _ _ => hSocket
    · exact (keepsSocket_wsCall _).mono fun _ _ => hSocket
    · exact hClose
  · exact signalingMoves_onSignaling hError

/-- What the connector does moves the signaling client by stopping it only. -/
theorem signalingMoves_connector {event : ConnectorEvent}
    (hStop : ∀ inside, event = .shuttingDown inside → Within R (stop lib)) :
    SignalingMoves R (World.handle (SignalingClient.iface lib) env event) := by
  apply signalingMoves_handle
  · exact fun _ => (keepsSocket_sendState _).mono fun _ _ => hSocket
  · exact hStop
  · exact fun _ _ => (keepsSocket_sendSdpAnswer _).mono fun _ _ => hSocket
  · exact fun _ _ _ => (keepsSocket_sendIceCandidate _).mono fun _ _ => hSocket

end OfSocket

end System

end MosaicCore
