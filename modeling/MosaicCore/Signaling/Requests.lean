import MosaicCore.Signaling.SignalingRun

/-!
# What a message asks for

`OnWsMessage` reads a message and then acts on it.  `interpret` is the first half: a `Request`, or the exception
of the accessor that met a value of the wrong kind.  `onWsMessage_eq` says that acting on the request is all the
rest, so that what a message does can be told from its request.
-/

namespace MosaicCore

open EffectProgram

/-- What a message asks for. -/
inductive Request
  | nothing
  | sdpOffer (text : String)
  | prepareConnection (data : Json)
  | iceCandidate (candidate : CandidateInit)
  | closeConnection
  | authorization (type : String) (data : Json)
  | ping (message : Json)

namespace System

open World

variable (lib : Libraries) (env : Environment)

/-- What the data of an offer asks for. -/
def offerRequest (data : Json) : Except String Request := do
  let offer ← data.get "sdpOffer"
  if offer.isNull then pure .nothing
  else do
    let text ← offer.asString lib.realText
    pure (if lib.createSessionDescription text then .sdpOffer text else .nothing)

/-- What the data of a candidate asks for. -/
def candidateRequest (data : Json) : Except String Request := do
  let iceCandidate ← data.get "iceCandidate"
  if iceCandidate.isNull then pure .nothing
  else do
    let candidate ← iceCandidate.get "candidate"
    let text ← candidate.asString lib.realText
    let sdpMid ← iceCandidate.get "sdpMid"
    let sdpMLineIndex ← iceCandidate.get "sdpMLineIndex"
    if candidate.isNull ∨ sdpMid.isNull ∨ sdpMLineIndex.isNull then pure .nothing
    else do
      let mid ← sdpMid.asString lib.realText
      let index ← sdpMLineIndex.asInt
      pure (if lib.createIceCandidate mid index text then .iceCandidate ⟨text, mid, index⟩ else .nothing)

/-- What a message of a type asks for. -/
def request (type : String) (message : Json) : Except String Request :=
  if type = "signaling.send_sdp_offer" then message.get "data" >>= offerRequest lib
  else if type = "signaling.prepare_connection" then
    message.get "data" >>= fun data => pure (.prepareConnection data)
  else if type = "signaling.exchange_ice_candidate" then message.get "data" >>= candidateRequest lib
  else if type = "signaling.close_peer_connection" then pure .closeConnection
  else if "authorize".toList.isPrefixOf type.toList then
    message.get "data" >>= fun data => pure (.authorization type data)
  else if type = "ping.ping" then pure (.ping message)
  else pure .nothing

/-- What a text asks for. -/
def interpret (body : List UInt8) : Except String Request :=
  match lib.parse body with
  | .failed => pure .nothing
  | .threw => throw "Json::RuntimeError"
  | .parsed message => do
      let type ← message.get "type"
      if type.isNull then pure .nothing
      else do
        let text ← type.asString lib.realText
        request lib text message

/-- Act on a request. -/
def perform (created : Bool) (inside : Reentry) : Request → Program System Unit
  | .nothing => pure ()
  | .sdpOffer text => do
      useConnector
      handleSdpOffer (SignalingClient.iface lib) env text created inside
  | .prepareConnection data => onSignaling (SignalingClient.handlePrepareConnection lib data)
  | .iceCandidate candidate => do
      useConnector
      handleIceCandidateFromSignaling candidate
  | .closeConnection => do
      useConnector
      closePeerConnection (SignalingClient.iface lib) env (deliver (SignalingClient.iface lib) env inside)
  | .authorization type data => onSignaling (SignalingClient.handleAuthorizationMessage lib type data)
  | .ping message => onSignaling (SignalingClient.handlePingPong lib message)

/-- Reading first and acting afterwards. -/
theorem orThrow_bind {α β σ : Type} (result : Except String α) (k : α → Except String β)
    (p : β → Program σ Unit) :
    (orThrow (result >>= k) >>= p : Program σ Unit) = orThrow result >>= fun a => orThrow (k a) >>= p := by
  cases result with
  | ok a => rfl
  | error what => rfl

theorem handleSendSdpOffer_eq (data : Json) (created : Bool) (inside : Reentry) :
    handleSendSdpOffer lib env data created inside =
      orThrow (offerRequest lib data) >>= perform lib env created inside := by
  rw [offerRequest, orThrow_bind, handleSendSdpOffer]
  congr 1
  funext offer
  by_cases hNull : offer.isNull = true
  · simp only [hNull, if_true]
    rfl
  · simp only [hNull, if_false, Bool.false_eq_true]
    rw [orThrow_bind]
    congr 1
    funext text
    by_cases hCreated : lib.createSessionDescription text = true
    · simp only [hCreated, if_true]
      rfl
    · simp only [hCreated, if_false, Bool.false_eq_true]
      rfl

theorem handleExchangeIceCandidate_eq (data : Json) (created : Bool) (inside : Reentry) :
    handleExchangeIceCandidate lib data =
      orThrow (candidateRequest lib data) >>= perform lib env created inside := by
  rw [candidateRequest, orThrow_bind, handleExchangeIceCandidate]
  congr 1
  funext iceCandidate
  by_cases hNull : iceCandidate.isNull = true
  · simp only [hNull, if_true]
    rfl
  · simp only [hNull, if_false, Bool.false_eq_true, resolveIceCandidate, bind_assoc]
    -- The four members are read one after the other in both.
    rw [orThrow_bind]
    congr 1
    funext candidate
    rw [orThrow_bind]
    congr 1
    funext text
    rw [orThrow_bind]
    congr 1
    funext sdpMid
    rw [orThrow_bind]
    congr 1
    funext sdpMLineIndex
    by_cases hMissing : candidate.isNull = true ∨ sdpMid.isNull = true ∨ sdpMLineIndex.isNull = true
    · simp only [hMissing, if_true]
      rfl
    · simp only [hMissing, if_false, bind_assoc]
      rw [orThrow_bind]
      congr 1
      funext mid
      rw [orThrow_bind]
      congr 1
      funext index
      by_cases hCreated : lib.createIceCandidate mid index text = true
      · simp only [hCreated, if_true]
        rfl
      · simp only [hCreated, if_false, Bool.false_eq_true]
        rfl

theorem dispatch_eq (type : String) (message : Json) (created : Bool) (inside : Reentry) :
    dispatch lib env type message created inside =
      orThrow (request lib type message) >>= perform lib env created inside := by
  unfold dispatch request
  split_ifs
  · rw [orThrow_bind]
    congr 1
    funext data
    exact handleSendSdpOffer_eq lib env data created inside
  · rw [orThrow_bind]
    rfl
  · rw [orThrow_bind]
    congr 1
    funext data
    exact handleExchangeIceCandidate_eq lib env data created inside
  · rfl
  · rw [orThrow_bind]
    rfl
  · rfl
  · rfl

/-- **A message does what it asks for.** -/
theorem onWsMessage_eq (body : List UInt8) (created : Bool) (inside : Reentry) :
    onWsMessage lib env body created inside =
      orThrow (interpret lib body) >>= perform lib env created inside := by
  unfold onWsMessage interpret
  cases lib.parse body with
  | failed => rfl
  | threw => rfl
  | parsed message =>
      show onMessage lib env message created inside = _
      rw [onMessage, orThrow_bind]
      congr 1
      funext type
      by_cases hNull : type.isNull = true
      · simp only [hNull, if_true]
        rfl
      · simp only [hNull, if_false, Bool.false_eq_true]
        rw [orThrow_bind]
        congr 1
        funext text
        exact dispatch_eq lib env text message created inside

end System

end MosaicCore
