import MosaicCore.AutoConfigurer.AutoConfigure
import MosaicCore.AutoConfigurer.ConfigLayout
import MosaicCore.AutoConfigurer.Registries
import MosaicCore.Library.FirstFault

/-!
# Failing cleanly

`MosaicConnectorFactory::Create` answers null where there is no authenticator for the type of the configuration, and
nothing looks at the answer before `ConfigureConnectors` registers something through it.

Every stage has a verdict, which says beforehand whether it returns and through which fault it leaves if it does not:
`creationFault`, the faults of the entries, and those of the connectors.  The run ends as the first of them says.
-/

namespace MosaicCore

open AutoConfigurer (HandlerObject)
open EffectProgram

namespace Configuring

variable {δ μ : Type} {outside : Outside δ μ} {config : Configs.MosaicConfig} {connected : Bool} {s : Configuring δ μ}

/-- The run throws a `std::exception`, or finishes with a connector. -/
def FailsCleanly : EStateM.Result Fault (Configuring δ μ) Unit → Prop
  | .ok _ s => s.mosaicConnector.isSome = true
  | .error fault _ => fault.isException = true

/-- The pointer is null or not, as before. -/
def Connected (connected : Bool) (s : Configuring δ μ) : Prop := s.mosaicConnector.isSome = connected

/-! ## Reading, creating, resolving -/

/-- The configuration that is read from a file. -/
def loadedConfig (outside : Outside δ μ) (configFilePath : String) : Except ReadError Configs.MosaicConfig := do
  let reader ← getConfigReader outside.readers configFilePath
  reader.loadConfigs configFilePath

/-- `ReadConfigs` stores the configuration, or throws an exception. -/
theorem readConfigs_run_loaded (outside : Outside δ μ) (configFilePath : String) (s : Configuring δ μ) :
    ∃ reading : ConfigReading, (readConfigs outside configFilePath).run s =
      match loadedConfig outside configFilePath with
      | .ok config => .ok () { s with reading := { reading with mosaicConfig := some config } }
      | .error e => .error (.exception e.what) { s with reading := reading } := by
  show ∃ reading : ConfigReading, readConfigs outside configFilePath s = _
  unfold loadedConfig readConfigs
  cases hReader : getConfigReader outside.readers configFilePath with
  | error e =>
      refine ⟨s.reading, ?_⟩
      rw [MosaicCore.readConfigs, hReader]
      rfl
  | ok reader =>
      refine ⟨{ s.reading with configReader := some reader }, ?_⟩
      rw [readConfigs_run hReader]
      show _ = match reader.loadConfigs configFilePath with
        | .ok config => _
        | .error e => _
      cases reader.loadConfigs configFilePath <;> rfl

theorem ends_readConfigs {configFilePath : String} (hLoaded : loadedConfig outside configFilePath = .ok config)
    (s : Configuring δ μ) :
    Ends (readConfigs outside configFilePath) s fun _ s' => s'.reading.mosaicConfig = some config ∧
      s'.configurableConnectors = s.configurableConnectors := by
  obtain ⟨reading, hRun⟩ := readConfigs_run_loaded outside configFilePath s
  rw [hLoaded] at hRun
  exact ⟨(), _, hRun, rfl, rfl⟩

/-- The fault of `CreateMosaicConnector`. -/
def creationFault (around : Surroundings) (server : Configs.ServerConfig) : Option Fault :=
  if AuthenticatorResolver.isSupported server.authConfig && MosaicConnectorFactory.announcementFails around then
    some (.exception "websocket_exception")
  else none

/-- There is a connector afterwards exactly if there is an authenticator for the type. -/
theorem leaves_createMosaicConnector (hConfig : s.reading.mosaicConfig = some config) :
    Leaves (createMosaicConnector outside) s
      (fun _ s' => Connected (AuthenticatorResolver.isSupported config.server.authConfig) s' ∧
        s'.reading.mosaicConfig = some config ∧ s'.configurableConnectors = s.configurableConnectors)
      (creationFault outside.around config.server) := by
  apply leaves_get_bind
  rw [hConfig, dereference_some, pure_bind]
  cases hType : AuthenticatorResolver.isSupported config.server.authConfig with
  | false =>
      rw [MosaicConnectorFactory.create_of_unsupported hType, creationFault, hType]
      exact ⟨_, _, rfl, rfl, hConfig, rfl⟩
  | true =>
      have hCreate := MosaicConnectorFactory.create_of_supported outside.around hType
      rw [creationFault, hType]
      cases hFails : MosaicConnectorFactory.announcementFails outside.around with
      | true =>
          rw [hFails, if_pos rfl] at hCreate
          rw [hCreate]
          exact ⟨_, rfl⟩
      | false =>
          rw [hFails, if_neg (by simp)] at hCreate
          obtain ⟨startup, hCreate⟩ := hCreate
          rw [hCreate]
          exact ⟨_, _, rfl, rfl, hConfig, rfl⟩

end Configuring

namespace ConnectorResolver

variable {δ μ : Type} (resolver : ConnectorResolver δ μ)

/-- What `ResolveConnectors` keeps for an entry. -/
def resolved (entry : Configs.ConnectorConfig × Nat) : Option (ConfigurableConnector δ μ × ConnectorConfig) :=
  match resolver.getConfigurableConnector entry.1.type entry.2 with
  | .error _ => none
  | .ok connector =>
      ConnectorEntry.admitted resolver.isSupportedType { config := entry.1.forConfigurer, connector := connector }

/-- The fault of the body of the loop of `ResolveConnectors`. -/
def fault (entry : Configs.ConnectorConfig × Nat) : Option Fault :=
  match resolver.getConfigurableConnector entry.1.type entry.2 with
  | .error what => some (.exception what)
  | .ok _ => none

/-- The factory of an entry throws. -/
def factoryThrows (entry : Configs.ConnectorConfig × Nat) : Bool :=
  match resolver.getConfigurableConnector entry.1.type entry.2 with
  | .error _ => true
  | .ok _ => false

end ConnectorResolver

namespace Configuring

variable {δ μ : Type} {getLabel : δ → String} {getTrackName : μ → String} {outside : Outside δ μ}
  {config : Configs.MosaicConfig} {connected : Bool} {s : Configuring δ μ}

theorem leaves_resolveConnector (entry : Configs.ConnectorConfig × Nat) (hs : Connected connected s) :
    Leaves (resolveConnector outside entry) s
      (fun _ s' => Connected connected s' ∧ s'.configurableConnectors =
        s.configurableConnectors ++ (outside.resolver.resolved entry).toList.map some)
      (outside.resolver.fault entry) := by
  unfold resolveConnector ConnectorResolver.fault ConnectorResolver.resolved
  by_cases hType : outside.resolver.isSupportedType entry.1.type = true
  · rw [if_neg (not_not.mpr hType)]
    cases outside.resolver.getConfigurableConnector entry.1.type entry.2 with
    | error what => exact ⟨s, rfl⟩
    | ok connector =>
        refine leaves_zoom ⟨(), _, AutoConfigurer.resolveConnector_run _ s.configurer, ?_, rfl⟩
        simpa [Connected, withConfigurer] using hs
  · have hNone : outside.resolver.factoryMap entry.1.type = none := by
      simpa [ConnectorResolver.isSupportedType] using hType
    have hMade : outside.resolver.getConfigurableConnector entry.1.type entry.2 = .ok none := by
      rw [ConnectorResolver.getConfigurableConnector, hNone]
    rw [if_pos hType, hMade]
    refine leaves_pure ⟨hs, ?_⟩
    simp [ConnectorEntry.admitted]

/-- `ResolveConnectors` keeps what is resolved, unless a factory throws. -/
theorem leaves_resolveConnectors (hConfig : s.reading.mosaicConfig = some config) (hs : Connected connected s) :
    Leaves (resolveConnectors outside) s
      (fun _ s' => Connected connected s' ∧ s'.configurableConnectors =
        s.configurableConnectors ++ (config.connectors.zipIdx.filterMap outside.resolver.resolved).map some)
      (config.connectors.zipIdx.findSome? outside.resolver.fault) := by
  apply leaves_get_bind
  rw [hConfig, dereference_some, pure_bind]
  generalize config.connectors.zipIdx = entries
  -- What the loop will have kept at its end is the same before every entry.
  let I (rest : List (Configs.ConnectorConfig × Nat)) (s' : Configuring δ μ) : Prop :=
    Connected connected s' ∧
      s'.configurableConnectors ++ (rest.filterMap outside.resolver.resolved).map some =
        s.configurableConnectors ++ (entries.filterMap outside.resolver.resolved).map some
  have hLoop : Leaves (entries.forM (resolveConnector outside)) s (fun _ => I [])
      (entries.findSome? outside.resolver.fault) := by
    refine leaves_forM (fun entry rest s' hI => ?_) entries ⟨hs, rfl⟩
    refine (leaves_resolveConnector entry hI.1).imp fun _ s'' hNext => ⟨hNext.1, ?_⟩
    rw [hNext.2, ← hI.2]
    cases hResolved : outside.resolver.resolved entry <;> simp [hResolved]
  exact hLoop.imp fun _ s' hI => ⟨hI.1, by simpa using hI.2⟩

/-! ## Registering -/

/-- The fault of registering a handler. -/
def handlerFault {α : Type} (connected : Bool) (pointer : String) (handler : Option α) : Option Fault :=
  if connected then
    if handler.isSome then none else some (.nullDereference pointer)
  else some (.nullDereference "mosaic_connector_")

/-- The fault of registering what a connector has. -/
def registrationFault (connected : Bool) : Configured δ μ → Option Fault
  | .dataChannel none => none
  | .dataChannel (some handler) => handlerFault connected "data_channel_handler" (some handler)
  | .multipleDataChannel handlers => handlers.findSome? (handlerFault connected "data_channel_handler")
  | .mediaTrack handler => handlerFault connected "media_track_handler" handler
  | .unrecognized => none

/-- The fault of the body of the loop of `ConfigureConnectors`. -/
def connectorFault (connected : Bool) : Option (ConfigurableConnector δ μ × ConnectorConfig) → Option Fault
  | none => none
  | some (connector, config) =>
      match connector.configure config with
      | .error what => some (.exception what)
      | .ok configured => registrationFault connected configured

theorem leaves_throughConnector {p : Program (AutoConfigurer δ μ) Unit} {verdict : Option Fault}
    (hp : ∀ a, Leaves p a (fun _ _ => True) verdict) (hs : Connected connected s) :
    Leaves (throughConnector p) s (fun _ => Connected connected)
      (if connected then verdict else some (.nullDereference "mosaic_connector_")) := by
  apply leaves_get_bind
  cases hConnector : s.mosaicConnector with
  | none =>
      have hNull : connected = false := by simpa [Connected, hConnector] using hs.symm
      rw [hNull]
      exact ⟨s, rfl⟩
  | some connector =>
      have hSet : connected = true := by simpa [Connected, hConnector] using hs.symm
      rw [hSet, if_pos rfl]
      show Leaves (onConfigurer p) s _ verdict
      exact leaves_zoom ((hp _).imp fun _ a _ => by simp [Connected, withConfigurer, hConnector])

theorem leaves_registerDataChannelHandler (handler : Option δ) (hs : Connected connected s) :
    Leaves (throughConnector (AutoConfigurer.registerDataChannelHandler getLabel handler)) s
      (fun _ => Connected connected) (handlerFault connected "data_channel_handler" handler) := by
  refine leaves_throughConnector (fun a => ?_) hs
  cases handler with
  | none => exact ⟨a, AutoConfigurer.registerDataChannelHandler_run_null a⟩
  | some handler => exact ⟨_, _, AutoConfigurer.registerDataChannelHandler_run (fun _ => "") handler a, trivial⟩

theorem leaves_registerMediaTrackHandler (handler : Option μ) (hs : Connected connected s) :
    Leaves (throughConnector (AutoConfigurer.registerMediaTrackHandler getTrackName handler)) s
      (fun _ => Connected connected) (handlerFault connected "media_track_handler" handler) := by
  refine leaves_throughConnector (fun a => ?_) hs
  cases handler with
  | none => exact ⟨a, AutoConfigurer.registerMediaTrackHandler_run_null a⟩
  | some handler => exact ⟨_, _, AutoConfigurer.registerMediaTrackHandler_run (fun _ => "") handler a, trivial⟩

theorem leaves_registerConfigured (configured : Configured δ μ) (hs : Connected connected s) :
    Leaves (registerConfigured getLabel getTrackName configured) s (fun _ => Connected connected)
      (registrationFault connected configured) := by
  cases configured with
  | dataChannel handler =>
      cases handler with
      | none => exact leaves_pure hs
      | some handler => exact leaves_registerDataChannelHandler (some handler) hs
  | multipleDataChannel handlers =>
      exact leaves_forM (I := fun _ => Connected connected)
        (fun handler _ _ hs => leaves_registerDataChannelHandler handler hs) handlers hs
  | mediaTrack handler => exact leaves_registerMediaTrackHandler handler hs
  | unrecognized => exact leaves_pure hs

theorem leaves_configureConnector (connector : Option (ConfigurableConnector δ μ × ConnectorConfig))
    (hs : Connected connected s) :
    Leaves (configureConnector getLabel getTrackName connector) s (fun _ => Connected connected)
      (connectorFault connected connector) := by
  cases connector with
  | none => exact leaves_pure hs
  | some connector =>
      obtain ⟨connector, config⟩ := connector
      show Leaves (orThrow (connector.configure config) >>= fun configured =>
        registerConfigured getLabel getTrackName configured) s _ _
      cases hConfigure : connector.configure config with
      | error what =>
          rw [connectorFault, hConfigure]
          exact ⟨s, rfl⟩
      | ok configured =>
          rw [connectorFault, hConfigure]
          exact leaves_registerConfigured configured hs

/-- `ConfigureConnectors` ends the way the first connector with a fault ends. -/
theorem leaves_configureConnectors (hs : Connected connected s) :
    Leaves (configureConnectors getLabel getTrackName) s (fun _ => Connected connected)
      (s.configurableConnectors.findSome? (connectorFault connected)) :=
  leaves_get_bind (leaves_forM (I := fun _ => Connected connected)
    (fun connector _ _ hs => leaves_configureConnector connector hs) _ hs)

/-! ## The whole of it -/

/-- What `ConfigureConnectors` finds in `configurable_connectors_`. -/
def connectorsToConfigure (outside : Outside δ μ) (config : Configs.MosaicConfig)
    (prior : List (Option (ConfigurableConnector δ μ × ConnectorConfig))) :
    List (Option (ConfigurableConnector δ μ × ConnectorConfig)) :=
  prior ++ (config.connectors.zipIdx.filterMap outside.resolver.resolved).map some

/-- How `AutoConfigure` ends once the configuration is read: the first fault of its stages. -/
def verdict (outside : Outside δ μ) (config : Configs.MosaicConfig)
    (prior : List (Option (ConfigurableConnector δ μ × ConnectorConfig))) : Option Fault :=
  (creationFault outside.around config.server).or
    ((config.connectors.zipIdx.findSome? outside.resolver.fault).or
      ((connectorsToConfigure outside config prior).findSome?
        (connectorFault (AuthenticatorResolver.isSupported config.server.authConfig))))

theorem leaves_autoConfigure {configFilePath : String} (hLoaded : loadedConfig outside configFilePath = .ok config)
    (s : Configuring δ μ) : Leaves (autoConfigure getLabel getTrackName outside configFilePath) s
      (fun _ => Connected (AuthenticatorResolver.isSupported config.server.authConfig))
      (verdict outside config s.configurableConnectors) := by
  refine leaves_bind_of_ends (ends_readConfigs hLoaded s) fun _ s₁ ⟨hConfig, hPrior⟩ => ?_
  refine leaves_bind (leaves_createMosaicConnector hConfig) fun _ s₂ ⟨hConnected, hConfig, hKept⟩ => ?_
  refine leaves_bind (leaves_resolveConnectors hConfig hConnected) fun _ s₃ ⟨hConnected, hResolved⟩ => ?_
  have hConnectors : s₃.configurableConnectors = connectorsToConfigure outside config s.configurableConnectors := by
    rw [hResolved, hKept, hPrior, connectorsToConfigure]
  have hConfigure : Leaves (configureConnectors getLabel getTrackName) s₃ _ _ := leaves_configureConnectors hConnected
  rw [hConnectors] at hConfigure
  -- `BeforeConfigure` and `AfterConfigure` do nothing.
  show Leaves (configureConnectors getLabel getTrackName >>= fun _ => pure ()) s₃ _ _
  rw [bind_pure]
  exact hConfigure

/-- The fault there is, if there is one, is an exception; if there is none, there is a connector. -/
def IsClean (connected : Bool) (fault : Option Fault) : Prop :=
  (∃ e, fault = some e ∧ e.isException = true) ∨ (fault = none ∧ connected = true)

theorem failsCleanly_of_leaves {p : Program (Configuring δ μ) Unit} {fault : Option Fault}
    (hLeaves : Leaves p s (fun _ => Connected connected) fault) :
    FailsCleanly (p.run s) ↔ IsClean connected fault := by
  cases fault with
  | none =>
      obtain ⟨_, s', hRun, hConnected⟩ := hLeaves
      have hSame : s'.mosaicConnector.isSome = connected := hConnected
      rw [hRun, FailsCleanly, hSame]
      simp [IsClean]
  | some e =>
      obtain ⟨s', hRun⟩ := hLeaves
      rw [hRun]
      simp [FailsCleanly, IsClean]

/-- A stage that leaves through exceptions only. -/
theorem isClean_or {first rest : Option Fault} (hException : ∀ e, first = some e → e.isException = true) :
    IsClean connected (first.or rest) ↔ first.isSome = true ∨ IsClean connected rest := by
  cases first with
  | none => simp
  | some e => simp [IsClean, hException e rfl]

theorem isSome_creationFault (around : Surroundings) (server : Configs.ServerConfig) :
    (creationFault around server).isSome = true ↔
      AuthenticatorResolver.isSupported server.authConfig = true ∧
        MosaicConnectorFactory.announcementFails around = true := by
  unfold creationFault
  split <;> simp_all

theorem creationFault_isException {around : Surroundings} {server : Configs.ServerConfig} {e : Fault}
    (hFault : creationFault around server = some e) : e.isException = true := by
  unfold creationFault at hFault
  split at hFault
  · cases hFault
    rfl
  · cases hFault

theorem isSome_resolveFault (resolver : ConnectorResolver δ μ) (entries : List (Configs.ConnectorConfig × Nat)) :
    (entries.findSome? resolver.fault).isSome = true ↔ ∃ entry ∈ entries, resolver.factoryThrows entry = true := by
  have hEntry (entry : Configs.ConnectorConfig × Nat) :
      (resolver.fault entry).isSome = resolver.factoryThrows entry := by
    unfold ConnectorResolver.fault ConnectorResolver.factoryThrows
    cases resolver.getConfigurableConnector entry.1.type entry.2 <;> rfl
  simp only [List.findSome?_isSome_iff, hEntry]

theorem resolveFault_isException {resolver : ConnectorResolver δ μ} {entries : List (Configs.ConnectorConfig × Nat)}
    {e : Fault} (hFault : entries.findSome? resolver.fault = some e) : e.isException = true := by
  obtain ⟨entry, -, hEntry⟩ := List.exists_of_findSome?_eq_some hFault
  unfold ConnectorResolver.fault at hEntry
  split at hEntry
  · cases hEntry
    rfl
  · cases hEntry

/-! ### Which connectors use a null pointer -/

/-- The connector throws when it configures itself. -/
def throws : Option (ConfigurableConnector δ μ × ConnectorConfig) → Bool
  | none => false
  | some (connector, config) =>
      match connector.configure config with
      | .error _ => true
      | .ok _ => false

/-- The connector configures itself, and registering what it has uses a null pointer. -/
def usesNull (connected : Bool) : Option (ConfigurableConnector δ μ × ConnectorConfig) → Bool
  | none => false
  | some (connector, config) =>
      match connector.configure config with
      | .error _ => false
      | .ok configured => if connected then !configured.isSound else configured.registers

/-- A connector throws, and none before it uses a null pointer. -/
def ThrowsFirst (connected : Bool) (connectors : List (Option (ConfigurableConnector δ μ × ConnectorConfig))) : Prop :=
  ∃ before connector after, connectors = before ++ connector :: after ∧ throws connector = true ∧
    ∀ earlier ∈ before, usesNull connected earlier = false

theorem handlerFault_isException {α : Type} {pointer : String} {handler : Option α} {e : Fault}
    (hFault : handlerFault connected pointer handler = some e) : e.isException = false := by
  unfold handlerFault at hFault
  split at hFault
  · split at hFault
    · cases hFault
    · cases hFault
      rfl
  · cases hFault
    rfl

theorem registrationFault_isException {configured : Configured δ μ} {e : Fault}
    (hFault : registrationFault connected configured = some e) : e.isException = false := by
  cases configured with
  | dataChannel handler =>
      cases handler with
      | none => cases hFault
      | some handler => exact handlerFault_isException hFault
  | multipleDataChannel handlers =>
      obtain ⟨handler, -, hHandler⟩ := List.exists_of_findSome?_eq_some hFault
      exact handlerFault_isException hHandler
  | mediaTrack handler => exact handlerFault_isException hFault
  | unrecognized => cases hFault

theorem isSome_registrationFault (configured : Configured δ μ) :
    (registrationFault connected configured).isSome =
      if connected then !configured.isSound else configured.registers := by
  cases configured with
  | dataChannel handler => cases handler <;> cases connected <;> rfl
  | multipleDataChannel handlers =>
      cases connected with
      | false => cases handlers <;> rfl
      | true =>
          show (handlers.findSome? (handlerFault true "data_channel_handler")).isSome = !handlers.all Option.isSome
          rw [List.isSome_findSome?, List.not_all_eq_any_not]
          refine congrArg handlers.any (funext fun handler => ?_)
          cases handler <;> rfl
  | mediaTrack handler => cases handler <;> cases connected <;> rfl
  | unrecognized => cases connected <;> rfl

/-- A connector throws where its fault is an exception. -/
theorem throws_iff {connector : Option (ConfigurableConnector δ μ × ConnectorConfig)} :
    throws connector = true ↔ ∃ e, connectorFault connected connector = some e ∧ e.isException = true := by
  cases connector with
  | none => simp [throws, connectorFault]
  | some connector =>
      obtain ⟨connector, config⟩ := connector
      cases hConfigure : connector.configure config with
      | error what => simp [throws, connectorFault, hConfigure, Fault.isException]
      | ok configured =>
          simp only [throws, connectorFault, hConfigure]
          constructor
          · intro hThrows
            cases hThrows
          · rintro ⟨e, hFault, hException⟩
            rw [registrationFault_isException hFault] at hException
            cases hException

/-- It uses a null pointer where it has another fault. -/
theorem usesNull_eq_false_iff {connector : Option (ConfigurableConnector δ μ × ConnectorConfig)} :
    usesNull connected connector = false ↔
      ∀ e, connectorFault connected connector = some e → e.isException = true := by
  cases connector with
  | none => simp [usesNull, connectorFault]
  | some connector =>
      obtain ⟨connector, config⟩ := connector
      cases hConfigure : connector.configure config with
      | error what => simp [usesNull, connectorFault, hConfigure, Fault.isException]
      | ok configured =>
          simp only [usesNull, connectorFault, hConfigure, ← isSome_registrationFault]
          constructor
          · intro hUnused e hFault
            rw [hFault] at hUnused
            cases hUnused
          · intro hExceptions
            cases hFault : registrationFault connected configured with
            | none => rfl
            | some e =>
                have hException := hExceptions e hFault
                rw [registrationFault_isException hFault] at hException
                cases hException

/-- When `ConfigureConnectors` ends cleanly. -/
theorem isClean_configureConnectors (connectors : List (Option (ConfigurableConnector δ μ × ConnectorConfig))) :
    IsClean connected (connectors.findSome? (connectorFault connected)) ↔
      ThrowsFirst connected connectors ∨
        (connected = true ∧ ∀ connector ∈ connectors, usesNull connected connector = false) := by
  have hThrown : (∃ e, connectors.findSome? (connectorFault connected) = some e ∧ e.isException = true) ↔
      ThrowsFirst connected connectors := by
    simp only [findSome?_among_iff, ThrowsFirst, ← throws_iff, ← usesNull_eq_false_iff]
  rw [IsClean, hThrown]
  constructor
  · rintro (hFirst | ⟨hNone, hConnected⟩)
    · exact .inl hFirst
    · refine .inr ⟨hConnected, fun connector hMem => usesNull_eq_false_iff.mpr fun e hFault => ?_⟩
      rw [List.findSome?_eq_none_iff.mp hNone connector hMem] at hFault
      cases hFault
  · rintro (hFirst | ⟨hConnected, hUnused⟩)
    · exact .inl hFirst
    · cases hFault : connectors.findSome? (connectorFault connected) with
      | none => exact .inr ⟨rfl, hConnected⟩
      | some e =>
          obtain ⟨connector, hMem, hConnector⟩ := List.exists_of_findSome?_eq_some hFault
          exact .inl (hThrown.mp ⟨e, hFault, usesNull_eq_false_iff.mp (hUnused connector hMem) e hConnector⟩)

/-- The run throws in time, or there is a connector and no other pointer is null where it is used: READY_TO_CONNECT
cannot be sent, a factory throws, a connector throws before any uses a null pointer, or there is an authenticator for
the type and no connector uses a null pointer. -/
def Survives (outside : Outside δ μ) (config : Configs.MosaicConfig)
    (prior : List (Option (ConfigurableConnector δ μ × ConnectorConfig))) : Prop :=
  let supported := AuthenticatorResolver.isSupported config.server.authConfig
  let connectors := connectorsToConfigure outside config prior
  (supported = true ∧ MosaicConnectorFactory.announcementFails outside.around = true) ∨
    (∃ entry ∈ config.connectors.zipIdx, outside.resolver.factoryThrows entry = true) ∨
      ThrowsFirst supported connectors ∨
        (supported = true ∧ ∀ connector ∈ connectors, usesNull supported connector = false)

/-- The connectors of the library leave no handler null. -/
theorem usesNull_of_library {ρ : Type} {stof : String → Except String ρ} {thirty : ρ}
    {make : Nat → String → ρ → Int → Int → Int → μ} {receiver sender : Nat → String → δ}
    {entry : Configs.ConnectorConfig × Nat} {connector : ConfigurableConnector δ μ × ConnectorConfig}
    (hResolved : (ConnectorResolver.library stof thirty make receiver sender).resolved entry = some connector) :
    usesNull true (some connector) = false := by
  obtain ⟨connector, config⟩ := connector
  unfold ConnectorResolver.resolved at hResolved
  cases hMade : (ConnectorResolver.library stof thirty make receiver sender).getConfigurableConnector entry.1.type
      entry.2 with
  | error what =>
      rw [hMade] at hResolved
      cases hResolved
  | ok made =>
      rw [hMade] at hResolved
      have hKept : made = some connector := ConnectorEntry.connector_of_admitted hResolved
      rw [hKept] at hMade
      have hSound : ∀ configured, connector.configure config = .ok configured → configured.isSound = true := by
        intro configured hConfigure
        rcases ConnectorResolver.getConfigurableConnector_library hMade with rfl | rfl
        · exact Configured.isSound_openCVCamera hConfigure
        · exact Configured.isSound_connectionCheck hConfigure
      unfold usesNull
      cases hConfigure : connector.configure config with
      | error what => simp [hConfigure]
      | ok configured => simp [hConfigure, hSound configured hConfigure]

/-- With them, a type that there is an authenticator for survives. -/
theorem survives_of_library {ρ : Type} {stof : String → Except String ρ} {thirty : ρ}
    {make : Nat → String → ρ → Int → Int → Int → μ} {receiver sender : Nat → String → δ}
    (hResolver : outside.resolver = .library stof thirty make receiver sender)
    (hType : AuthenticatorResolver.isSupported config.server.authConfig = true) : Survives outside config [] := by
  refine .inr (.inr (.inr ⟨hType, fun connector hMem => ?_⟩))
  rw [connectorsToConfigure, List.nil_append, List.mem_map] at hMem
  obtain ⟨connector, hKept, rfl⟩ := hMem
  obtain ⟨entry, -, hResolved⟩ := List.mem_filterMap.mp hKept
  rw [hResolver] at hResolved
  rw [hType]
  exact usesNull_of_library hResolved

/-- **Failing cleanly.**  Whatever configuration is read, `AutoConfigure` throws a `std::exception` or finishes with a
connector exactly if the configuration survives. -/
theorem failsCleanly_iff (getLabel : δ → String) (getTrackName : μ → String) (outside : Outside δ μ)
    (configFilePath : String) (s : Configuring δ μ) :
    FailsCleanly ((autoConfigure getLabel getTrackName outside configFilePath).run s) ↔
      ∀ config, loadedConfig outside configFilePath = .ok config →
        Survives outside config s.configurableConnectors := by
  cases hLoaded : loadedConfig outside configFilePath with
  | error e =>
      obtain ⟨reading, hRun⟩ := readConfigs_run_loaded outside configFilePath s
      rw [hLoaded] at hRun
      rw [autoConfigure, EStateM.run_bind, hRun]
      simp [FailsCleanly, Fault.isException]
  | ok config =>
      rw [failsCleanly_of_leaves (leaves_autoConfigure hLoaded s), verdict,
        isClean_or fun e => creationFault_isException, isClean_or fun e => resolveFault_isException,
        isSome_creationFault, isSome_resolveFault, isClean_configureConnectors]
      simp only [Except.ok.injEq, forall_eq']
      exact Iff.rfl

/-- A connection check under an authentication type that there is no authenticator for, as the YAML reader reads it. -/
def unknownAuthType : Configs.MosaicConfig where
  server := {
    wsUrl := "ws://localhost:8080"
    authConfig := { type := "oauth2", robotId := "robot123", params := .empty }
    webrtcConfig := { iceServers := [] } }
  connectors := [{ type := "connection-check", label := "check", params := .empty }]

/-- The library's connectors and a server that answers; the file is the tree of `unknownAuthType`. -/
def oneCheck : Outside HandlerObject HandlerObject where
  readers := [some (yamlConfigReader none fun _ => .ok (ConfigLayout.configTree unknownAuthType))]
  around := { lib := .silent, comesUp := true, factory := true, states := fun _ => .kConnecting }
  resolver := .library (fun _ => .error "stof") 30 (fun place trackName (_ : Nat) _ _ _ => .mk place trackName)
    (fun place => .mk (2 * place)) (fun place => .mk (2 * place + 1))

/-- Nothing is thrown: the first handler is added to a connector that is null. -/
theorem unknown_auth_type_uses_null :
    let result := (autoConfigure HandlerObject.name HandlerObject.name oneCheck "robot.yaml").run {}
    (∃ s, result = .error (.nullDereference "mosaic_connector_") s) ∧ ¬ FailsCleanly result := by
  intro result
  have hRun : ∃ s, result = .error (.nullDereference "mosaic_connector_") s := ⟨_, rfl⟩
  obtain ⟨s, hFault⟩ := hRun
  refine ⟨⟨s, hFault⟩, ?_⟩
  rw [hFault]
  exact Bool.false_ne_true

end Configuring

end MosaicCore
