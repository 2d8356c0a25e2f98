import MosaicCore.AutoConfigurer.CleanFailures

/-!
# From a configuration file to a connector

What `AutoConfigure` is for: a file describes a connector, and afterwards there is that connector.  `MeansServer` is
the connector that the server part describes, and `LibraryHandlers.asksFor` is what an entry of the connectors part
asks for, both said without looking at the stages.  `autoConfigure_from_file` puts the stages together: the file is
read as what it describes, the factory creates the connector with its signaling client, and the handlers are
registered in the order of the file, the first of a name with the connector and the last in the maps of the
`AutoConfigurer`.
-/

namespace MosaicCore

open AutoConfigurer (HandlerObject)
open EffectProgram Registration ThrowingSteps

/-! ## The connector of the server part -/

/-- The connector and its signaling client are those that the server part describes, and the connector waits for an
offer. -/
structure MeansServer (around : Surroundings) (server : Configs.ServerConfig) (w : System) : Prop where
  wsUri : w.signaling.wsUri = server.getSignalingUrl
  authenticator : AuthenticatorResolver.createAuthenticator server.authConfig = some w.signaling.authenticator
  wired : w.signaling.mosaicConnector = true
  connected : w.signaling.isConnected = around.comesUp
  latestState : w.signaling.latestState = ConnectorState.readyToConnect.stateToInt
  iceServers : w.manager.iceServers = server.webrtcConfig.iceServers
  session : World.session w =
    { state := .readyToConnect
      peerConnectionFactory := around.factory
      peerConnection := none
      created := 0
      calls := [] }

namespace MosaicConnectorFactory

variable {around : Surroundings} {server : Configs.ServerConfig}

/-- `Start` keeps what the client was given. -/
theorem start_client (around : Surroundings) (wsUri : String) (authenticator : Authenticator) :
    ∃ s : SignalingClient,
      (start around).run { wsUri := wsUri, authenticator := authenticator } = .ok () s ∧
        s.isConnected = around.comesUp ∧ s.wsUri = wsUri ∧ s.authenticator = authenticator := by
  obtain ⟨⟨fails, closeNotifies, failNotifies, parse, session, candidate, realText⟩, comesUp, factory, states⟩ := around
  cases comesUp with
  | true => exact ⟨_, rfl, rfl, rfl, rfl⟩
  | false => cases failNotifies <;> exact ⟨_, rfl, rfl, rfl, rfl⟩

/-- Telling the state keeps everything else that `MeansServer` says of the client. -/
theorem told_client (s : SignalingClient) (state : Int) :
    (s.told state).wsUri = s.wsUri ∧ (s.told state).authenticator = s.authenticator ∧
      (s.told state).mosaicConnector = s.mosaicConnector ∧ (s.told state).isConnected = s.isConnected ∧
        (s.told state).latestState = state := by
  unfold SignalingClient.told
  split <;> exact ⟨rfl, rfl, rfl, rfl, rfl⟩

/-- What `Create` makes of a supported type is what the server part describes. -/
theorem create_means (hType : AuthenticatorResolver.isSupported server.authConfig = true)
    (hAnnounced : announcementFails around = false) :
    ∃ startup, create around server = .ok (some startup) ∧ MeansServer around server startup.system := by
  obtain ⟨authenticator, hSome⟩ := Option.isSome_iff_exists.mp
    ((AuthenticatorResolver.isSome_createAuthenticator server.authConfig).trans hType)
  obtain ⟨client, hStart, hConnected, hUri, hAuthenticator⟩ := start_client around server.getSignalingUrl authenticator
  let w : System := World.wired { client with mosaicConnector := true } around.states server.webrtcConfig.iceServers
  let w₁ : System :=
    { w with manager :=
        { w.manager with
          networkThread := true
          workerThread := true
          signalingThread := true
          peerConnectionFactory := around.factory } }
  obtain ⟨startup, hSteps⟩ := steps_run around authenticator server.getSignalingUrl server.webrtcConfig.iceServers
  rw [hAnnounced, if_neg Bool.false_ne_true] at hSteps
  -- The last step sets READY_TO_CONNECT over the new factory.
  have hLast : startup.system = System.announced w₁ .readyToConnect := by
    have hRun : (World.initializeWebRTC (SignalingClient.iface around.lib) around.factory).run w = _ :=
      System.setState_run around.lib .readyToConnect w₁
    rw [steps_eq hStart, Startup.onSystem, zoom_run, hRun] at hSteps
    cases hLost : System.lostSend around.lib w₁ 0 with
    | true => simp [hLost] at hSteps
    | false =>
        simp only [hLost, Bool.false_eq_true, if_false, EStateM.Result.ok.injEq, true_and] at hSteps
        rw [← hSteps]
  obtain ⟨hUri', hAuthenticator', hWired', hConnected', hState'⟩ :=
    told_client { client with mosaicConnector := true } ConnectorState.readyToConnect.stateToInt
  refine ⟨startup, ?_, ?_⟩
  · rw [create, hSome]
    simp only [hSteps]
  · rw [hLast]
    exact ⟨hUri'.trans hUri, hSome.trans (congrArg some (hAuthenticator'.trans hAuthenticator).symm), hWired',
      hConnected'.trans hConnected, hState', rfl, rfl⟩

end MosaicConnectorFactory

/-! ## The handlers of an entry -/

/-- What the connectors of the library rest on: how a frame rate is read, and the constructors of the handlers, of
which each entry's are given its place. -/
structure LibraryHandlers (ρ δ μ : Type) where
  stof : String → Except String ρ
  thirty : ρ
  openCVCameraMediaTrack : Nat → String → ρ → Int → Int → Int → μ
  connectionCheckReceiver : Nat → String → δ
  connectionCheckSender : Nat → String → δ

namespace LibraryHandlers

variable {ρ δ μ : Type} (handlers : LibraryHandlers ρ δ μ)

/-- The factories that `ConnectorResolver()` registers. -/
def resolver : ConnectorResolver δ μ :=
  .library handlers.stof handlers.thirty handlers.openCVCameraMediaTrack handlers.connectionCheckReceiver
    handlers.connectionCheckSender

/-- A setting: what its text says, or the default where there is no text. -/
def setting {α : Type} (reads : String → Except String α) (default : α) : Option String → Option α
  | none => some default
  | some text => if text = "" then some default else (reads text).toOption

/-- The track that an entry describes, if its settings can be read. -/
def cameraTrack (entry : Configs.ConnectorConfig × Nat) : Option μ := do
  let frameRate ← setting handlers.stof handlers.thirty (entry.1.params.find? "fps")
  let cameraId ← setting stoi 0 (entry.1.params.find? "camera_id")
  let width ← setting stoi 640 (entry.1.params.find? "width")
  let height ← setting stoi 480 (entry.1.params.find? "height")
  some (handlers.openCVCameraMediaTrack entry.2 entry.1.label frameRate cameraId width height)

/-- The data channel handlers and the media tracks that an entry asks for; an entry of another type asks for
nothing. -/
def asksFor (entry : Configs.ConnectorConfig × Nat) : Option (List δ × List μ) :=
  if entry.1.type = "opencv-sender-camera" then
    (handlers.cameraTrack entry).map fun track => ([], [track])
  else if entry.1.type = "connection-check" then
    some ([handlers.connectionCheckReceiver entry.2 (entry.1.label ++ "-receiver"),
      handlers.connectionCheckSender entry.2 (entry.1.label ++ "-sender")], [])
  else some ([], [])

variable {handlers}

/-- `Configure` reads a setting and goes on. -/
theorem toOption_setting_bind {α β : Type} (reads : String → Except String α) (default : α) (text : Option String)
    (f : α → Except String β) :
    (if text.getD "" ≠ "" then reads (text.getD "") >>= f else pure default >>= f).toOption =
      (setting reads default text).bind fun a => (f a).toOption := by
  cases text with
  | none => rfl
  | some text =>
      by_cases hEmpty : text = ""
      · simp [setting, hEmpty]
      · simp [setting, hEmpty, toOption_bind]

variable (handlers) in
/-- A camera configures itself as the track that its entry describes. -/
theorem toOption_configure_camera (entry : Configs.ConnectorConfig × Nat) :
    let connector : ConfigurableConnector δ μ :=
      openCVCamera handlers.stof handlers.thirty (handlers.openCVCameraMediaTrack entry.2)
    (connector.configure entry.1.forConfigurer).toOption =
      (handlers.cameraTrack entry).map fun track => .mediaTrack (some track) := by
  simp only [openCVCamera, Configs.param_forConfigurer]
  simp only [toOption_setting_bind, cameraTrack, Option.bind_eq_bind, Option.map_bind, Function.comp_def,
    Option.map_some]
  rfl

/-- `ResolveConnectors` keeps an entry of one of the two types with its connector, and no other. -/
theorem resolved_entry (entry : Configs.ConnectorConfig × Nat) :
    handlers.resolver.resolved entry =
      if entry.1.type = "opencv-sender-camera" then
        some (openCVCamera handlers.stof handlers.thirty (handlers.openCVCameraMediaTrack entry.2),
          entry.1.forConfigurer)
      else if entry.1.type = "connection-check" then
        some (connectionCheck (handlers.connectionCheckReceiver entry.2) (handlers.connectionCheckSender entry.2),
          entry.1.forConfigurer)
      else none := by
  have hType : entry.1.forConfigurer.type = entry.1.type := rfl
  unfold ConnectorResolver.resolved ConnectorEntry.admitted ConnectorResolver.isSupportedType
    ConnectorResolver.getConfigurableConnector resolver ConnectorResolver.library
  by_cases hCamera : entry.1.type = "opencv-sender-camera"
  · simp [hType, hCamera, openCVCamera]
  · by_cases hCheck : entry.1.type = "connection-check"
    · simp [hType, hCheck, connectionCheck]
    · simp [hType, hCamera, hCheck]

/-- No factory of the library throws. -/
theorem resolver_fault (entry : Configs.ConnectorConfig × Nat) : handlers.resolver.fault entry = none := by
  unfold ConnectorResolver.fault ConnectorResolver.getConfigurableConnector resolver ConnectorResolver.library
  by_cases hCamera : entry.1.type = "opencv-sender-camera"
  · simp [hCamera]
  · by_cases hCheck : entry.1.type = "connection-check"
    · simp [hCheck]
    · simp [hCamera, hCheck]

/-- What is kept for an entry contributes what the entry asks for. -/
theorem contributed_of_asksFor {entry : Configs.ConnectorConfig × Nat} {asked : List δ × List μ}
    (hAsked : handlers.asksFor entry = some asked) :
    (handlers.resolver.resolved entry).all AutoConfigurer.isSound = true ∧
      ((handlers.resolver.resolved entry).map AutoConfigurer.contributed).getD ([], []) = asked := by
  rw [resolved_entry]
  unfold asksFor at hAsked
  by_cases hCamera : entry.1.type = "opencv-sender-camera"
  · rw [if_pos hCamera] at hAsked ⊢
    obtain ⟨track, hTrack, rfl⟩ := Option.map_eq_some_iff.mp hAsked
    have hConfigure := toOption_configure_camera handlers entry
    rw [hTrack, Option.map_some, toOption_eq_some_iff] at hConfigure
    simp [AutoConfigurer.isSound, AutoConfigurer.contributed, hConfigure, Configured.isSound, Configured.dataChannels,
      Configured.mediaTracks]
  · rw [if_neg hCamera] at hAsked ⊢
    by_cases hCheck : entry.1.type = "connection-check"
    · rw [if_pos hCheck] at hAsked ⊢
      cases hAsked
      exact ⟨rfl, rfl⟩
    · rw [if_neg hCheck] at hAsked ⊢
      cases hAsked
      exact ⟨rfl, rfl⟩

/-- A connector whose entry asks for something that cannot be read throws when it configures itself. -/
theorem throws_of_asksFor {entry : Configs.ConnectorConfig × Nat} (hAsked : handlers.asksFor entry = none) :
    ∃ connector, handlers.resolver.resolved entry = some connector ∧ Configuring.throws (some connector) = true := by
  unfold asksFor at hAsked
  by_cases hCamera : entry.1.type = "opencv-sender-camera"
  · rw [if_pos hCamera, Option.map_eq_none_iff] at hAsked
    have hConfigure := toOption_configure_camera handlers entry
    rw [hAsked, Option.map_none, toOption_eq_none_iff] at hConfigure
    obtain ⟨what, hThrows⟩ := hConfigure
    refine ⟨_, (resolved_entry entry).trans (if_pos hCamera), ?_⟩
    simp [Configuring.throws, hThrows]
  · rw [if_neg hCamera] at hAsked
    by_cases hCheck : entry.1.type = "connection-check"
    · simp [hCheck] at hAsked
    · simp [hCheck] at hAsked

/-- What is kept for the entries is sound, and contributes what they ask for. -/
theorem contributed_of_mapM {entries : List (Configs.ConnectorConfig × Nat)} {asked : List (List δ × List μ)}
    (hAsked : entries.mapM handlers.asksFor = some asked) :
    (∀ connector ∈ entries.filterMap handlers.resolver.resolved, AutoConfigurer.isSound connector = true) ∧
      ∀ {α : Type} (view : List δ × List μ → List α), view ([], []) = [] →
        (entries.filterMap handlers.resolver.resolved).flatMap (fun c => view (AutoConfigurer.contributed c)) =
          asked.flatMap view := by
  induction entries generalizing asked with
  | nil =>
      cases hAsked
      exact ⟨by simp, fun _ _ => rfl⟩
  | cons entry entries ih =>
      rw [List.mapM_cons, Option.bind_eq_bind, Option.bind_eq_some_iff] at hAsked
      obtain ⟨first, hFirst, hAsked⟩ := hAsked
      obtain ⟨rest, hRest, hSame⟩ := Option.bind_eq_some_iff.mp hAsked
      cases hSame
      obtain ⟨hSound, hContributed⟩ := contributed_of_asksFor hFirst
      obtain ⟨hSoundRest, hContributedRest⟩ := ih hRest
      cases hResolved : handlers.resolver.resolved entry with
      | none =>
          rw [List.filterMap_cons_none hResolved]
          rw [hResolved] at hContributed
          refine ⟨hSoundRest, fun view hEmpty => ?_⟩
          rw [hContributedRest view hEmpty, List.flatMap_cons, ← hContributed]
          simp [hEmpty]
      | some connector =>
          rw [List.filterMap_cons_some hResolved]
          rw [hResolved] at hContributed hSound
          refine ⟨List.forall_mem_cons.mpr ⟨hSound, hSoundRest⟩, fun view hEmpty => ?_⟩
          rw [List.flatMap_cons, hContributedRest view hEmpty, List.flatMap_cons, ← hContributed]
          rfl

end LibraryHandlers

/-! ## The stages -/

/-- The connector that a configuration describes, and the handlers it asks for: registered in their order, the first
of a name with the connector and the last in the maps. -/
structure MeansConfig {δ μ : Type} (getLabel : δ → String) (getTrackName : μ → String) (around : Surroundings)
    (config : Configs.MosaicConfig) (asked : List (List δ × List μ)) (connector : CreatedConnector δ μ)
    (s : Configuring δ μ) : Prop where
  created : s.mosaicConnector = some connector
  server : MeansServer around config.server connector.startup.system
  dataChannelHandlersDict : ∀ label, connector.handlers.dataChannelHandlersDict.find? label =
    first getLabel label (asked.flatMap Prod.fst)
  mediaTrackHandlersDict : ∀ trackName, connector.handlers.mediaTrackHandlersDict.find? trackName =
    first getTrackName trackName (asked.flatMap Prod.snd)
  dcHandlerMap : ∀ label, s.dcHandlerMap label = last getLabel label (asked.flatMap Prod.fst)
  mtHandlerMap : ∀ trackName, s.mtHandlerMap trackName = last getTrackName trackName (asked.flatMap Prod.snd)

namespace Configuring

variable {ρ δ μ : Type} {getLabel : δ → String} {getTrackName : μ → String} {outside : Outside δ μ}
  {config : Configs.MosaicConfig} {s : Configuring δ μ}

/-- A file that has the layout of a configuration is read as that configuration. -/
theorem loadedConfig_of_layout {nullText : Option String} {loadFile : String → Except ReadError Yaml}
    {registered : List (Option ConfigReader)} {configFilePath : String} {t : Yaml}
    (hReaders : outside.readers = some (yamlConfigReader nullText loadFile) :: registered)
    (hExtension : extractFileExtension configFilePath = "yaml" ∨ extractFileExtension configFilePath = "yml")
    (hFile : loadFile configFilePath = .ok t) (hLayout : ConfigLayout.IsConfig config t) :
    loadedConfig outside configFilePath = .ok config := by
  obtain ⟨⟨server, hServer, hServerLayout⟩, connectors, hConnectors, hList⟩ := hLayout
  obtain ⟨ts, hLooped, hAll⟩ := hList.looped fun _ _ => ConfigLayout.parseConnectorConfig_of_layout
  have hParsed : YamlConfigReader.parseConnectorConfigs nullText (some t) = .ok config :=
    YamlConfigReader.parseConnectorConfigs_ok_iff.mpr
      ⟨⟨server, hServer.field, ConfigLayout.parseServerConfig_of_layout hServerLayout⟩,
        connectors, ts, hConnectors.field, hLooped, hAll⟩
  have hLoad : (yamlConfigReader nullText loadFile).loadConfigs configFilePath = .ok config :=
    bind_eq_ok_iff.mpr ⟨t, hFile, hParsed⟩
  rw [loadedConfig, hReaders, getConfigReader_yaml hExtension]
  exact hLoad

/-- `CreateMosaicConnector`, for a type that there is an authenticator for. -/
theorem ends_createMosaicConnector (hConfig : s.reading.mosaicConfig = some config)
    (hType : AuthenticatorResolver.isSupported config.server.authConfig = true)
    (hAnnounced : MosaicConnectorFactory.announcementFails outside.around = false) :
    Ends (createMosaicConnector outside) s fun _ s' => ∃ startup,
      MeansServer outside.around config.server startup.system ∧
        s' = { s with mosaicConnector := some { startup := startup } } := by
  obtain ⟨startup, hCreate, hMeans⟩ := MosaicConnectorFactory.create_means hType hAnnounced
  refine ⟨(), _, ?_, startup, hMeans, rfl⟩
  rw [createMosaicConnector, EStateM.run_bind, EStateM.run_get]
  simp only [hConfig, dereference_some, pure_bind, hCreate]
  rfl

/-- The connector and the maps. -/
def registered (s : Configuring δ μ) :
    Option (CreatedConnector δ μ) × (String → Option δ) × (String → Option μ) :=
  (s.mosaicConnector, s.dcHandlerMap, s.mtHandlerMap)

/-- `ResolveConnectors` registers nothing. -/
theorem within_resolveConnectors : Within (fun s s' => registered s' = registered s) (resolveConnectors outside) := by
  refine within_get_bind fun s => within_bind ?_ fun config => within_forM fun entry _ => ?_
  · cases s.reading.mosaicConfig with
    | none => exact within_throw _
    | some config => exact within_pure _
  · refine within_ite (within_pure _) (within_bind ?_ fun connector => ?_)
    · cases outside.resolver.getConfigurableConnector entry.1.type entry.2 with
      | error what => exact within_throw _
      | ok connector => exact within_pure _
    · intro s
      rw [onConfigurer, finalState_zoom, AutoConfigurer.resolveConnector_run, finalState_ok]
      cases hConnector : s.mosaicConnector <;> simp [registered, withConfigurer, configurer, hConnector]

/-- `ConfigureConnectors`, with a connector that is not null and connectors that are sound. -/
theorem ends_configureConnectors {connector : CreatedConnector δ μ}
    {connectors : List (ConfigurableConnector δ μ × ConnectorConfig)} (hConnector : s.mosaicConnector = some connector)
    (hConnectors : s.configurableConnectors = connectors.map some)
    (hSound : ∀ c ∈ connectors, AutoConfigurer.isSound c = true) :
    Ends (configureConnectors getLabel getTrackName) s fun _ s' =>
      s' = withConfigurer (AutoConfigurer.withHandlers getLabel getTrackName s.configurer
        (connectors.flatMap fun c => (AutoConfigurer.contributed c).1)
        (connectors.flatMap fun c => (AutoConfigurer.contributed c).2)) s := by
  have hSome : s.mosaicConnector.isSome = true := by rw [hConnector]; rfl
  refine Ends.congr_run (configureConnectors_run hSome) (ends_zoom ⟨(), _, ?_, rfl⟩)
  have hHeld : s.configurer.configurableConnectors = connectors.map some := hConnectors
  rw [AutoConfigurer.configureConnectors, EStateM.run_bind, EStateM.run_get]
  simp only [hHeld]
  exact AutoConfigurer.configureAll_run getLabel getTrackName hSound _

/-- No factory throws. -/
theorem resolveFault_eq_none {handlers : LibraryHandlers ρ δ μ} (hResolver : outside.resolver = handlers.resolver)
    (entries : List (Configs.ConnectorConfig × Nat)) : entries.findSome? outside.resolver.fault = none := by
  rw [List.findSome?_eq_none_iff, hResolver]
  exact fun entry _ => LibraryHandlers.resolver_fault entry

/-- With settings that can be read, every stage returns. -/
theorem ends_autoConfigure {handlers : LibraryHandlers ρ δ μ} {configFilePath : String}
    {parts : List (List δ × List μ)} (hLoaded : loadedConfig outside configFilePath = .ok config)
    (hResolver : outside.resolver = handlers.resolver)
    (hType : AuthenticatorResolver.isSupported config.server.authConfig = true)
    (hAnnounced : MosaicConnectorFactory.announcementFails outside.around = false)
    (hParts : config.connectors.zipIdx.mapM handlers.asksFor = some parts) :
    Ends (autoConfigure getLabel getTrackName outside configFilePath) {} fun _ s =>
      ∃ connector, MeansConfig getLabel getTrackName outside.around config parts connector s := by
  obtain ⟨reading, hRead⟩ := readConfigs_run_loaded outside configFilePath {}
  rw [hLoaded] at hRead
  refine ends_bind ⟨(), _, hRead, ends_bind ?_⟩
  refine (ends_createMosaicConnector rfl hType hAnnounced).imp fun _ s₂ hCreated => ends_bind ?_
  obtain ⟨startup, hServer, rfl⟩ := hCreated
  let s₂ : Configuring δ μ :=
    { reading := { reading with mosaicConfig := some config }, mosaicConnector := some { startup := startup } }
  have hConnected : Connected true s₂ := rfl
  have hResolve : Leaves (resolveConnectors outside) s₂ _ _ := leaves_resolveConnectors rfl hConnected
  rw [resolveFault_eq_none hResolver] at hResolve
  refine (Ends.and_within hResolve within_resolveConnectors).imp fun _ s₃ hResolved => ?_
  obtain ⟨⟨-, hConnectors⟩, hRegistered⟩ := hResolved
  obtain ⟨hConnector, hMaps⟩ := Prod.mk.inj hRegistered
  obtain ⟨hDcMap, hMtMap⟩ := Prod.mk.inj hMaps
  obtain ⟨hSound, hContributed⟩ := LibraryHandlers.contributed_of_mapM hParts
  rw [hResolver] at hConnectors
  -- `BeforeConfigure` and `AfterConfigure` do nothing.
  show Ends (configureConnectors getLabel getTrackName >>= fun _ => pure ()) s₃ _
  rw [bind_pure]
  refine (ends_configureConnectors hConnector hConnectors hSound).imp fun _ s₄ hConfigured => ?_
  rw [hContributed Prod.fst rfl, hContributed Prod.snd rfl] at hConfigured
  subst hConfigured
  have hDicts : s₃.configurer.mosaicConnector = {} := by
    simp only [configurer, hConnector]
    rfl
  refine ⟨{ startup := startup, handlers := _ }, congrArg (Option.map _) hConnector, hServer, fun label => ?_,
    fun trackName => ?_, fun label => ?_, fun trackName => ?_⟩
  · show (registerNew getLabel s₃.configurer.mosaicConnector.dataChannelHandlersDict _).find? label = _
    rw [find?_registerNew, hDicts, OrderedMap.find?_empty, Option.none_or]
  · show (registerNew getTrackName s₃.configurer.mosaicConnector.mediaTrackHandlersDict _).find? trackName = _
    rw [find?_registerNew, hDicts, OrderedMap.find?_empty, Option.none_or]
  · show registerOver getLabel s₃.dcHandlerMap _ label = _
    rw [registerOver_apply, hDcMap, Option.or_none]
  · show registerOver getTrackName s₃.mtHandlerMap _ trackName = _
    rw [registerOver_apply, hMtMap, Option.or_none]

/-- With a setting that cannot be read, the first camera with one throws. -/
theorem throws_autoConfigure {handlers : LibraryHandlers ρ δ μ} {configFilePath : String}
    (hLoaded : loadedConfig outside configFilePath = .ok config)
    (hResolver : outside.resolver = handlers.resolver)
    (hType : AuthenticatorResolver.isSupported config.server.authConfig = true)
    (hAnnounced : MosaicConnectorFactory.announcementFails outside.around = false)
    {entry : Configs.ConnectorConfig × Nat} (hEntry : entry ∈ config.connectors.zipIdx)
    (hUnread : handlers.asksFor entry = none) :
    ∃ what s, (autoConfigure getLabel getTrackName outside configFilePath).run {} = .error (.exception what) s := by
  let connectors := connectorsToConfigure outside config []
  have hConnectors : connectors = (config.connectors.zipIdx.filterMap handlers.resolver.resolved).map some := by
    show [] ++ (config.connectors.zipIdx.filterMap outside.resolver.resolved).map some = _
    rw [hResolver, List.nil_append]
  have hUnused : ∀ connector ∈ connectors, usesNull true connector = false := by
    intro connector hMem
    rw [hConnectors, List.mem_map] at hMem
    obtain ⟨connector, hKept, rfl⟩ := hMem
    obtain ⟨entry, -, hResolved⟩ := List.mem_filterMap.mp hKept
    exact usesNull_of_library hResolved
  obtain ⟨connector, hKept, hThrows⟩ := LibraryHandlers.throws_of_asksFor hUnread
  have hMem : some connector ∈ connectors :=
    hConnectors ▸ List.mem_map_of_mem (List.mem_filterMap.mpr ⟨entry, hEntry, hKept⟩)
  have hCreated : creationFault outside.around config.server = none := by simp [creationFault, hAnnounced]
  have hLeaves : Leaves (autoConfigure getLabel getTrackName outside configFilePath) {} _ _ :=
    leaves_autoConfigure hLoaded {}
  rw [verdict, hCreated, resolveFault_eq_none hResolver, Option.none_or, Option.none_or, hType] at hLeaves
  rcases (isClean_configureConnectors connectors).mpr (.inr ⟨rfl, hUnused⟩) with ⟨e, hFault, hException⟩ | ⟨hNone, -⟩
  · rw [hFault] at hLeaves
    obtain ⟨s, hRun⟩ := hLeaves
    cases e with
    | exception what => exact ⟨what, s, hRun⟩
    | nullDereference pointer => cases hException
  · -- A run without a fault would have passed over the connector that throws.
    obtain ⟨e, hFault, -⟩ := throws_iff.mp hThrows
    rw [List.findSome?_eq_none_iff.mp hNone _ hMem] at hFault
    cases hFault

/-- **From a file to a connector.**  Let a file with the extension of YAML have the layout of a configuration, with a
type that there is an authenticator for, and let READY_TO_CONNECT be sent if there is a connection.  Then a fresh
`AutoConfigurer` of the library ends with the connector that the configuration describes and the handlers that its
entries ask for; or, if the settings of a camera cannot be read, it throws a `std::exception`. -/
theorem autoConfigure_from_file (getLabel : δ → String) (getTrackName : μ → String) (outside : Outside δ μ)
    (handlers : LibraryHandlers ρ δ μ) (hResolver : outside.resolver = handlers.resolver)
    {nullText : Option String} {loadFile : String → Except ReadError Yaml} {registered : List (Option ConfigReader)}
    (hReaders : outside.readers = some (yamlConfigReader nullText loadFile) :: registered)
    {configFilePath : String} (hExtension : extractFileExtension configFilePath = "yaml" ∨
      extractFileExtension configFilePath = "yml")
    {t : Yaml} (hFile : loadFile configFilePath = .ok t)
    {config : Configs.MosaicConfig} (hLayout : ConfigLayout.IsConfig config t)
    (hType : AuthenticatorResolver.isSupported config.server.authConfig = true)
    (hAnnounced : MosaicConnectorFactory.announcementFails outside.around = false) :
    (∀ parts, config.connectors.zipIdx.mapM handlers.asksFor = some parts →
      Ends (autoConfigure getLabel getTrackName outside configFilePath) {} fun _ s =>
        ∃ connector, MeansConfig getLabel getTrackName outside.around config parts connector s) ∧
    ((∃ entry ∈ config.connectors.zipIdx, handlers.asksFor entry = none) → ∃ what s,
      (autoConfigure getLabel getTrackName outside configFilePath).run {} = .error (.exception what) s) := by
  have hLoaded := loadedConfig_of_layout hReaders hExtension hFile hLayout
  refine ⟨fun parts hParts => ends_autoConfigure hLoaded hResolver hType hAnnounced hParts, ?_⟩
  rintro ⟨entry, hEntry, hUnread⟩
  exact throws_autoConfigure hLoaded hResolver hType hAnnounced hEntry hUnread

/-- A robot with two cameras under one label, of which the second has settings of its own, and a connection check. -/
def twoCameras : Configs.MosaicConfig where
  server := {
    wsUrl := "ws://localhost:8080"
    authConfig := { type := "no-authorization", robotId := "robot123", params := .empty }
    webrtcConfig := { iceServers := [{ urls := ["turn"], username := "user", credential := "secret" }] } }
  connectors := [
    { type := "opencv-sender-camera", label := "camera", params := .empty },
    { type := "connection-check", label := "check", params := .empty },
    { type := "opencv-sender-camera", label := "camera", params := ⟨[("camera_id", "1"), ("fps", "")], by decide⟩ }]

/-- Handlers that are known by their place. -/
def placedHandlers : LibraryHandlers Nat HandlerObject HandlerObject where
  stof _ := .error "stof"
  thirty := 30
  openCVCameraMediaTrack place trackName _ cameraId _ _ := .mk (10 * place + cameraId.toNat) trackName
  connectionCheckReceiver place := .mk (10 * place)
  connectionCheckSender place := .mk (10 * place + 1)

/-- The file is the tree of `twoCameras`. -/
def twoCamerasFile : Outside HandlerObject HandlerObject where
  readers := [some (yamlConfigReader none fun _ => .ok (ConfigLayout.configTree twoCameras))]
  around := { lib := .silent, comesUp := true, factory := true, states := fun _ => .kConnecting }
  resolver := placedHandlers.resolver

theorem autoConfigure_from_file_two_cameras :
    Ends (autoConfigure HandlerObject.name HandlerObject.name twoCamerasFile "robot.yaml") {} fun _ s =>
      ∃ connector, MeansConfig HandlerObject.name HandlerObject.name twoCamerasFile.around twoCameras
        [([], [⟨0, "camera"⟩]), ([⟨10, "check-receiver"⟩, ⟨11, "check-sender"⟩], []), ([], [⟨21, "camera"⟩])]
        connector s :=
  (autoConfigure_from_file HandlerObject.name HandlerObject.name twoCamerasFile placedHandlers rfl rfl
    (.inl (by decide)) rfl (ConfigLayout.isConfig_tree twoCameras) rfl rfl).1 _ (by decide +kernel)

end Configuring

end MosaicCore
