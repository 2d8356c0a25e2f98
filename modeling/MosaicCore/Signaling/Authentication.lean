import MosaicCore.Signaling.Stopped

/-!
# The `authenticated_` flag

`AMosaicAuthenticator` has one flag and one assignment to it: `HandleAuthenticationComplete` sets it.  Nothing
in the library resets it, neither a response that denies nor the end of a connection, and the interface of the
authenticators has no way to.  So the flag is a latch over the whole life of the authenticator.

* `authorizationResult` — the data of the `authorize.res` that a message is.
* `authenticated_step` — one event sets the flag if it is such a message carrying 100, and otherwise leaves it.
* `authenticated_iff` — over a run, the flag says whether there has been such a message at all.

`Authorizing` watches a run for the last response on the connection, to compare the flag with it.
-/

namespace MosaicCore

open EffectProgram EventRun

/-- The response means success: its value as an `int` is 100. -/
def grants (data : Json) : Bool :=
  match data.asInt with
  | .ok code => code = 100
  | .error _ => false

namespace SignalingClient

variable {lib : Libraries}

/-- The flag stays as it is. -/
def KeepsAuthenticated (s s' : SignalingClient) : Prop :=
  s'.authenticator.authenticated = s.authenticator.authenticated

instance : IsPreorder SignalingClient KeepsAuthenticated where
  refl _ := rfl
  trans _ _ _ hFirst hSecond := Eq.trans hSecond hFirst

theorem keepsAuthenticated_modify {f : SignalingClient → SignalingClient}
    (hf : ∀ s, (f s).authenticator = s.authenticator) :
    Within KeepsAuthenticated (modify f : Program SignalingClient Unit) :=
  within_modify fun s => congrArg Authenticator.authenticated (hf s)

theorem keepsAuthenticated_modifyWs (f : WebSocketClientImpl → WebSocketClientImpl) :
    Within KeepsAuthenticated (modifyWs f) :=
  keepsAuthenticated_modify fun _ => rfl

theorem keepsAuthenticated_wsCall (call : WsCall) : Within KeepsAuthenticated (wsCall lib call) :=
  within_wsCall fun _ => rfl

theorem keepsAuthenticated_sendWsMessage (message : Json) :
    Within KeepsAuthenticated (sendWsMessage lib message) :=
  within_sendWsMessage (keepsAuthenticated_wsCall _)

theorem keepsAuthenticated_sendState (state : Int) : Within KeepsAuthenticated (sendState lib state) :=
  within_sendState (fun _ => rfl) (keepsAuthenticated_sendWsMessage _)

theorem keepsAuthenticated_sendSdpAnswer (sdp : SessionDescription) :
    Within KeepsAuthenticated (sendSdpAnswer lib sdp) := by
  apply within_get_bind
  intro _
  exact within_ite (within_pure _) (keepsAuthenticated_sendWsMessage _)

theorem keepsAuthenticated_sendIceCandidate (candidate : IceCandidate) :
    Within KeepsAuthenticated (sendIceCandidate lib candidate) := by
  apply within_get_bind
  intro _
  exact within_ite (within_pure _) (keepsAuthenticated_sendWsMessage _)

theorem keepsAuthenticated_onError : Within KeepsAuthenticated onError :=
  keepsAuthenticated_modify fun _ => rfl

theorem keepsAuthenticated_handleClose : Within KeepsAuthenticated handleClose :=
  within_handleClose (keepsAuthenticated_modifyWs _) keepsAuthenticated_onError
    (keepsAuthenticated_modifyWs _)

theorem keepsAuthenticated_closeClient : Within KeepsAuthenticated (closeClient lib) :=
  within_closeClient (keepsAuthenticated_wsCall _) (fun _ => keepsAuthenticated_modifyWs _)
    keepsAuthenticated_handleClose

theorem keepsAuthenticated_connectInternal : Within KeepsAuthenticated connectInternal :=
  keepsAuthenticated_modifyWs _

theorem keepsAuthenticated_halt (halt : Halt) : Within KeepsAuthenticated (halt.program lib) :=
  within_halt (keepsAuthenticated_modifyWs _) keepsAuthenticated_closeClient keepsAuthenticated_onError halt

theorem keepsAuthenticated_handlePrepareConnection (message : Json) :
    Within KeepsAuthenticated (handlePrepareConnection lib message) := by
  apply within_orThrow_bind
  intro _
  apply within_orThrow_bind
  intro _
  exact keepsAuthenticated_modify fun _ => rfl

/-- Every authorization message but the response leaves the flag alone. -/
theorem keepsAuthenticated_handleAuthorizationMessage {type : String} (hType : type ≠ "authorize.res")
    (message : Json) : Within KeepsAuthenticated (handleAuthorizationMessage lib type message) := by
  apply within_ite
  · apply within_get_bind
    intro _
    exact keepsAuthenticated_sendWsMessage _
  · rw [if_neg hType]
    exact within_pure _

/-- The response sets the flag if it grants, and never resets it. -/
theorem authenticated_response (s : SignalingClient) (data : Json) :
    (finalState ((handleAuthorizationMessage lib "authorize.res" data).run s)).authenticator.authenticated =
      (s.authenticator.authenticated || grants data) := by
  have hBranch : handleAuthorizationMessage lib "authorize.res" data =
      if data.isNull then pure ()
      else orThrow data.asInt >>= fun code =>
        if code = 100 then handleAuthenticationComplete else pure () := by
    simp [handleAuthorizationMessage]
  rw [hBranch]
  cases hNull : data.isNull with
  | true =>
      -- a missing code reads as 0
      rw [Json.eq_null_of_isNull hNull]
      simp [grants, Json.asInt]
  | false =>
      cases hCode : data.asInt with
      | error what => simp [grants, hCode]
      | ok code =>
          by_cases hGrant : code = 100
          · simp [grants, hCode, hGrant, handleAuthenticationComplete]
          · simp [grants, hCode, hGrant]

end SignalingClient

namespace System

open World SignalingClient

variable {lib : Libraries} {env : Environment}

variable (lib) in
/-- The data of the `authorize.res` that an event is. -/
def authorizationResult : SystemEvent → Option Json
  | .message (.text body) _ _ =>
      match dispatched lib body with
      | some (type, message) => if type = "authorize.res" then some (message.field "data") else none
      | none => none
  | _ => none

variable (lib) in
/-- The event is an `authorize.res` that grants. -/
def authenticates (event : SystemEvent) : Bool := (authorizationResult lib event).any grants

/-- A text sets the flag if it is a response that grants. -/
theorem authenticated_onWsMessage (body : List UInt8) (created : Bool) (inside : Reentry) (w : System) :
    (finalState ((onWsMessage lib env body created inside).run w)).signaling.authenticator.authenticated =
      (w.signaling.authenticator.authenticated ||
        authenticates lib (.message (.text body) created inside)) := by
  rw [finalState_onWsMessage, authenticates, authorizationResult]
  cases hReads : dispatched lib body with
  | none => simp
  | some read =>
      obtain ⟨type, message⟩ := read
      have hTable : message.isTable = true := isTable_of_dispatched hReads
      -- Of all requests only `authorize.res` writes the flag.
      by_cases hType : type = "authorize.res"
      · subst hType
        have hRun : dispatch lib env "authorize.res" message created inside =
            onSignaling (handleAuthorizationMessage lib "authorize.res" (message.field "data")) := by
          have hPrefix : "authorize".toList.isPrefixOf "authorize.res".toList = true := by decide
          simp only [dispatch, Json.get_of_isTable hTable, orThrow_ok, pure_bind, hPrefix]
          rfl
        simp only [hRun, signaling_onSignaling, authenticated_response, if_true, Option.any_some]
      · have hMoves : SignalingMoves KeepsAuthenticated (dispatch lib env type message created inside) :=
          signalingMoves_dispatch keepsAuthenticated_sendState (fun _ => keepsAuthenticated_sendWsMessage _)
            (keepsAuthenticated_handleAuthorizationMessage hType)
            (fun _ => keepsAuthenticated_handlePrepareConnection) message created inside
        have hKeeps := hMoves w
        unfold KeepsAuthenticated at hKeeps
        simpa [hType] using hKeeps

/-- An incoming message sets the flag if it is a response that grants, also when handling it ends in the
`catch` block. -/
theorem authenticated_message (w : System) (message : WsMessage) (created : Bool) (inside : Reentry) :
    (step lib env w (.message message created inside)).signaling.authenticator.authenticated =
      (w.signaling.authenticator.authenticated || authenticates lib (.message message created inside)) := by
  have hNone (hText : ∀ body, message ≠ .text body) :
      authenticates lib (.message message created inside) = false := by
    cases message with
    | text body => exact absurd rfl (hText body)
    | _ => rfl
  have hTry : (finalState ((receive lib env message created inside).run w)).signaling.authenticator.authenticated
      = (w.signaling.authenticator.authenticated ||
        authenticates lib (.message message created inside)) := by
    cases message with
    | ping =>
        rw [hNone (by simp), Bool.or_false]
        exact signalingMoves_onSignaling (R := KeepsAuthenticated) (keepsAuthenticated_wsCall _) w
    | pong =>
        rw [hNone (by simp), Bool.or_false]
        rfl
    | close =>
        rw [hNone (by simp), Bool.or_false]
        exact signalingMoves_onSignaling (R := KeepsAuthenticated) keepsAuthenticated_closeClient w
    | text body => exact authenticated_onWsMessage body created inside w
  rcases signaling_step_message w message created inside with hStep | hStep
  · rw [hStep]
    exact hTry
  · rw [hStep]
    exact hTry

/-- Whatever else happens leaves the flag alone. -/
theorem keepsAuthenticated_other (w : System) {event : SystemEvent}
    (hMessage : ∀ message created inside, event ≠ .message message created inside) :
    KeepsAuthenticated w.signaling (step lib env w event).signaling := by
  have hMoves : SignalingMoves KeepsAuthenticated (handle lib env event) := by
    cases event with
    | message message created inside => exact absurd rfl (hMessage message created inside)
    | connect uri =>
        exact signalingMoves_onSignaling
          (within_connect (keepsAuthenticated_modifyWs _) keepsAuthenticated_connectInternal)
    | connectSucceeded client =>
        exact signalingMoves_onSignaling (within_connectSucceeded (keepsAuthenticated_modifyWs _)
          (keepsAuthenticated_modifyWs _) (within_onConnected (fun _ => rfl) keepsAuthenticated_sendState))
    | connectFailed client =>
        exact signalingMoves_onSignaling
          (within_connectFailed (keepsAuthenticated_modifyWs _) keepsAuthenticated_handleClose)
    | serverClosed client =>
        exact signalingMoves_onSignaling
          (within_serverClosed (keepsAuthenticated_modifyWs _) keepsAuthenticated_handleClose)
    | reconnectThreadWakes =>
        exact signalingMoves_onSignaling
          (within_reconnectThreadWakes (keepsAuthenticated_modifyWs _) keepsAuthenticated_connectInternal)
    | stop => exact signalingMoves_onSignaling (keepsAuthenticated_halt .stop)
    | disconnect => exact signalingMoves_onSignaling (keepsAuthenticated_halt .disconnect)
    | destroy => exact signalingMoves_onSignaling (keepsAuthenticated_halt .destroy)
    | setMosaicConnector => exact signalingMoves_onSignaling (keepsAuthenticated_modify fun _ => rfl)
    | connector event =>
        exact signalingMoves_handle (SignalingClient.iface lib) keepsAuthenticated_sendState
          (fun _ _ => keepsAuthenticated_halt .stop) (fun _ _ => keepsAuthenticated_sendSdpAnswer _)
          fun _ _ _ => keepsAuthenticated_sendIceCandidate _
  exact hMoves w

/-- One event sets the flag if it is a response that grants, and nothing resets it. -/
theorem authenticated_step (w : System) (event : SystemEvent) :
    (step lib env w event).signaling.authenticator.authenticated =
      (w.signaling.authenticator.authenticated || authenticates lib event) := by
  by_cases hMessage : ∃ message created inside, event = .message message created inside
  · obtain ⟨message, created, inside, rfl⟩ := hMessage
    exact authenticated_message w message created inside
  · have hKeeps : KeepsAuthenticated w.signaling (step lib env w event).signaling :=
      keepsAuthenticated_other w fun message created inside hSame =>
        hMessage ⟨message, created, inside, hSame⟩
    have hNone : authenticates lib event = false := by
      cases event with
      | message message created inside => exact absurd ⟨message, created, inside, rfl⟩ hMessage
      | _ => rfl
    rw [hNone, Bool.or_false]
    exact hKeeps

/-- The flag after a run: whether it was set before, or a response of the run has granted. -/
theorem authenticated_run (w : System) (events : List SystemEvent) :
    (run (step lib env) w events).signaling.authenticator.authenticated =
      (w.signaling.authenticator.authenticated || events.any (authenticates lib)) := by
  induction events generalizing w with
  | nil => simp
  | cons event events ih => rw [run_cons, ih, authenticated_step, List.any_cons, Bool.or_assoc]

/-- **Authentication is a latch.**  After any run the client counts as authenticated exactly if some
`authorize.res` of the run, on whatever connection, carried a value that is 100 as an `int`; no disconnect, no
reconnect, no stop and no later response undoes it. -/
theorem authenticated_iff (lib : Libraries) (env : Environment) (wsUri robotId : String)
    (token : Option String) (states : Nat → DataState) (iceServers : List IceServerConfig)
    (events : List SystemEvent) :
    let start := initial wsUri { robotId := robotId, token := token } states iceServers
    (run (step lib env) start events).signaling.authenticator.authenticated = true ↔
      ∃ event ∈ events, ∃ data, authorizationResult lib event = some data ∧ data.asInt = .ok 100 := by
  intro start
  rw [authenticated_run]
  have hBefore : start.signaling.authenticator.authenticated = false := rfl
  rw [hBefore, Bool.false_or, List.any_eq_true]
  have hGrants (data : Json) : grants data = true ↔ data.asInt = .ok 100 := by
    cases hCode : data.asInt <;> simp [grants, hCode]
  constructor
  · rintro ⟨event, hMem, hGranted⟩
    rw [authenticates, Option.any_eq_true] at hGranted
    obtain ⟨data, hResult, hData⟩ := hGranted
    exact ⟨event, hMem, data, hResult, (hGrants data).mp hData⟩
  · rintro ⟨event, hMem, data, hResult, hData⟩
    refine ⟨event, hMem, ?_⟩
    rw [authenticates, hResult]
    exact (hGrants data).mpr hData

end System

/-! ## The flag and the live connection -/

/-- A run with the last response on the current connection. -/
structure Authorizing where
  system : System
  lastResult : Option Json := none

namespace Authorizing

variable (lib : Libraries) (env : Environment)

/-- Handle an event. -/
def step (a : Authorizing) (event : SystemEvent) : Authorizing where
  system := System.step lib env a.system event
  lastResult :=
    match System.authorizationResult lib event, event with
    | some data, _ => some data
    | none, .connectSucceeded _ => none
    | none, _ => a.lastResult

/-- The client counts as authenticated exactly while it is connected and the last response on the connection
has granted. -/
def TiedToConnection (a : Authorizing) : Prop :=
  a.system.signaling.authenticator.authenticated = true ↔
    a.system.signaling.isConnected = true ∧ a.lastResult.any grants = true

instance : DecidablePred TiedToConnection := fun _ => inferInstanceAs (Decidable (_ ↔ _))

/-- The response with a code. -/
def response (code : Int) : Json :=
  .object [("type", .string "authorize.res"), ("data", .int code)]

/-- Libraries for which the texts `+` and `-` are a response that grants and one that denies. -/
def signs : Libraries :=
  { Libraries.silent with
    parse := fun body =>
      if body = [43] then .parsed (response 100)
      else if body = [45] then .parsed (response 401)
      else .failed }

/-- The flag outlives the connection, and on one connection it outlives a response that denies. -/
theorem authenticated_outlives_connection :
    let events : List SystemEvent :=
      [.connect "ws://server", .connectSucceeded 0, .message (.text [43]) true .done]
    ¬ Throughout (step signs .calm) TiedToConnection { system := System.fresh }
        (events ++ [.serverClosed 0]) ∧
      ¬ Throughout (step signs .calm) TiedToConnection { system := System.fresh }
        (events ++ [.message (.text [45]) true .done]) ∧
      Throughout (step signs .calm) TiedToConnection { system := System.fresh } events := by
  decide +kernel

end Authorizing

end MosaicCore
