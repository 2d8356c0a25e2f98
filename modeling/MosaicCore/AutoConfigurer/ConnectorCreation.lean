import MosaicCore.AutoConfigurer.YamlConfigReader
import MosaicCore.Signaling.Startup

/-!
# `MosaicConnectorFactory::Create`

From the server part of a configuration a connector is created, unless there is no authenticator for its type: then
`Create` answers null.  The statements of `Create` are those of `Startup`, in the case that no message interrupts them.
-/

namespace MosaicCore

open EffectProgram

/-! ## Authenticators -/

namespace AuthenticatorResolver

open Configs

/-- `factory_map_`, with what the factories make: `NoAuthAuthenticator` and `SimpleTokenAuthenticator`. -/
def factoryMap : List (String × (AuthConfig → Authenticator)) :=
  [("no-authorization", fun authConfig => { robotId := authConfig.robotId }),
    ("simple-token", fun authConfig =>
      { robotId := authConfig.robotId, token := some ((authConfig.params.find? "token").getD "") })]

/-- `AuthenticatorResolver::CreateAuthenticator`. -/
def createAuthenticator (authConfig : AuthConfig) : Option Authenticator :=
  (factoryMap.lookup authConfig.type).map fun factory => factory authConfig

/-- The type is one of the two that there are authenticators for. -/
def isSupported (authConfig : AuthConfig) : Bool :=
  authConfig.type = "no-authorization" || authConfig.type = "simple-token"

theorem isSome_createAuthenticator (authConfig : AuthConfig) :
    (createAuthenticator authConfig).isSome = isSupported authConfig := by
  unfold createAuthenticator factoryMap isSupported
  by_cases hNone : authConfig.type = "no-authorization"
  · simp [hNone]
  · by_cases hToken : authConfig.type = "simple-token"
    · simp [hToken]
    · simp [List.lookup_cons, hNone, hToken, beq_eq_false_iff_ne.mpr hNone, beq_eq_false_iff_ne.mpr hToken]

end AuthenticatorResolver

/-- `GetSignalingUrl`. -/
def Configs.ServerConfig.getSignalingUrl (server : Configs.ServerConfig) : String := server.wsUrl ++ "/ws/robot"

/-! ## `MosaicConnectorFactory` -/

/-- What the network and libwebrtc do while a connector is created. -/
structure Surroundings where
  lib : Libraries
  /-- Whether the first connection comes up. -/
  comesUp : Bool
  /-- Whether libwebrtc makes a peer connection factory. -/
  factory : Bool
  states : Nat → DataState

namespace MosaicConnectorFactory

variable (around : Surroundings)

/-- `SignalingClient::Start`; a connection that does not come up is only logged. -/
def start : Program SignalingClient Unit := do
  if around.comesUp then Startup.start around.lib
  else do
    let s ← get
    SignalingClient.connect s.wsUri
    SignalingClient.connectFailed around.lib s.wsClient.clients

/-- A step of `Create`. -/
def runStep (authenticator : Authenticator) (step : CreateStep) : Program Startup Unit := do
  modify fun s => { s with remaining := s.remaining.tail }
  if step = .start then Startup.onSystem (World.onSignaling (start around))
  else Startup.runStep around.lib { authenticator := authenticator, factory := around.factory } step

/-- `MosaicConnectorFactory::Create`: null where there is no authenticator. -/
def create (server : Configs.ServerConfig) : Except Fault (Option Startup) :=
  match AuthenticatorResolver.createAuthenticator server.authConfig with
  | none => .ok none
  | some authenticator =>
      match (createSteps.forM (runStep around authenticator)).run
          (Startup.fresh server.getSignalingUrl around.states server.webrtcConfig.iceServers) with
      | .ok _ s => .ok (some s)
      | .error e _ => .error e

end MosaicConnectorFactory

namespace MosaicConnectorFactory

variable {around : Surroundings} {server : Configs.ServerConfig}

/-- READY_TO_CONNECT, the first thing that is sent on a connection, cannot be sent. -/
def announcementFails (around : Surroundings) : Bool := around.comesUp && around.lib.fails 1

theorem create_of_unsupported (hType : AuthenticatorResolver.isSupported server.authConfig = false) :
    create around server = .ok none := by
  have hNone : AuthenticatorResolver.createAuthenticator server.authConfig = none := by
    rw [← Option.not_isSome_iff_eq_none, AuthenticatorResolver.isSome_createAuthenticator, hType]
    simp
  rw [create, hNone]

/-- `Start` returns, with a client that is connected if the connection came up. -/
theorem start_run (around : Surroundings) (wsUri : String) (authenticator : Authenticator) :
    ∃ s : SignalingClient,
      (start around).run { wsUri := wsUri, authenticator := authenticator } = .ok () s ∧
        s.isConnected = around.comesUp ∧
        (around.comesUp = true → s.wsClient.mConnected = true ∧ s.wsClient.calls.length = 1) := by
  obtain ⟨⟨fails, closeNotifies, failNotifies, parse, session, candidate, realText⟩, comesUp, factory, states⟩ := around
  cases comesUp with
  | true => exact ⟨_, rfl, rfl, fun _ => ⟨rfl, rfl⟩⟩
  | false => cases failNotifies <;> exact ⟨_, rfl, rfl, fun hUp => Bool.noConfusion hUp⟩

/-- Once the signaling client is started, the rest of `Create` comes to `InitializeWebRTC`. -/
theorem steps_eq {authenticator : Authenticator} {wsUri : String} {client : SignalingClient}
    (hStart : (start around).run { wsUri := wsUri, authenticator := authenticator } = .ok () client)
    (iceServers : List IceServerConfig) :
    (createSteps.forM (runStep around authenticator)).run (Startup.fresh wsUri around.states iceServers) =
      (Startup.onSystem (World.initializeWebRTC (SignalingClient.iface around.lib) around.factory)).run
        { system := World.wired { client with mosaicConnector := true } around.states iceServers
          peerConnectionManager := true
          remaining := [] } := by
  have hFirst : (runStep around authenticator .setAuthenticator).run
      (Startup.fresh wsUri around.states iceServers) =
      .ok () { system := System.initial wsUri authenticator around.states iceServers
               remaining := createSteps.tail } := rfl
  have hSecond : (runStep around authenticator .start).run
      { system := System.initial wsUri authenticator around.states iceServers
        remaining := createSteps.tail } =
      .ok () { system := World.wired client around.states iceServers, remaining := createSteps.tail.tail } :=
    Startup.onSignaling_run hStart
  show (runStep around authenticator .setAuthenticator >>= fun _ => runStep around authenticator .start >>= fun _ =>
    createSteps.tail.tail.forM (runStep around authenticator)).run _ = _
  rw [EStateM.run_bind, hFirst]
  show (runStep around authenticator .start >>= fun _ =>
    createSteps.tail.tail.forM (runStep around authenticator)).run _ = _
  rw [EStateM.run_bind, hSecond]
  -- The steps between set fields only.
  show (Startup.onSystem (World.initializeWebRTC (SignalingClient.iface around.lib) around.factory) >>= fun _ =>
    pure ()).run _ = _
  rw [bind_pure_unit]
  rfl

/-- The steps of `Create` throw where READY_TO_CONNECT cannot be sent, and return otherwise. -/
theorem steps_run (around : Surroundings) (authenticator : Authenticator) (wsUri : String)
    (iceServers : List IceServerConfig) :
    ∃ s, (createSteps.forM (runStep around authenticator)).run (Startup.fresh wsUri around.states iceServers) =
      if announcementFails around then .error (.exception "websocket_exception") s else .ok () s := by
  obtain ⟨client, hStart, hConnected, hLive⟩ := start_run around wsUri authenticator
  let w : System := World.wired { client with mosaicConnector := true } around.states iceServers
  have hSteps := steps_eq hStart iceServers
  obtain ⟨w', -, -, hRun⟩ := Startup.initializeWebRTC_run around.lib around.factory w
  have hLost : System.lostSend around.lib w 0 = announcementFails around := by
    show (client.isConnected && client.wsClient.mConnected &&
      (true && around.lib.fails (client.wsClient.calls.length + 0))) = _
    rw [hConnected, announcementFails]
    cases hUp : around.comesUp with
    | false => simp
    | true => simp [hLive hUp]
  refine ⟨{ system := w', peerConnectionManager := true, remaining := [] }, ?_⟩
  rw [hSteps, Startup.onSystem, zoom_run, hRun, hLost]
  cases announcementFails around <;> rfl

/-- What `Create` answers where there is an authenticator. -/
theorem create_of_supported (around : Surroundings) {server : Configs.ServerConfig}
    (hType : AuthenticatorResolver.isSupported server.authConfig = true) :
    if announcementFails around then create around server = .error (.exception "websocket_exception")
    else ∃ s, create around server = .ok (some s) := by
  obtain ⟨authenticator, hSome⟩ := Option.isSome_iff_exists.mp
    ((AuthenticatorResolver.isSome_createAuthenticator server.authConfig).trans hType)
  obtain ⟨s, hRun⟩ := steps_run around authenticator server.getSignalingUrl server.webrtcConfig.iceServers
  rw [create, hSome]
  cases hFails : announcementFails around with
  | true => simp only [hRun, hFails, if_true]
  | false => simp [hRun, hFails, -List.forM_eq_forM]

end MosaicConnectorFactory

end MosaicCore
