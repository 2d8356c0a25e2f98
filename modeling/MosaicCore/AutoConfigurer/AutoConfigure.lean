import MosaicCore.AutoConfigurer.BadConnectors
import MosaicCore.AutoConfigurer.ConnectorCreation

/-!
# `AutoConfigure`

The whole of `AutoConfigurer::AutoConfigure`: a configuration is read, a connector is created from its server part,
its connectors are resolved, and what they make is registered with the connector.

`Configurers` has resolving and configuring for a connector that is not null; there `ConfigureConnectors` is the same
(`configureConnectors_run`).
-/

namespace MosaicCore

open EffectProgram

/-! ## The state of an `AutoConfigurer` -/

/-- The text of what reading a configuration throws. -/
def ReadError.what : ReadError → String
  | .invalidArgument what => what
  | .loadFile what => what
  | _ => "YAML::Exception"

/-- `ConnectorResolver`: what the factory of a type makes for the entry at a place.  A factory may throw, and may
make nothing. -/
structure ConnectorResolver (δ μ : Type) where
  factoryMap : String → Option (Nat → Except String (Option (ConfigurableConnector δ μ)))

namespace ConnectorResolver

variable {δ μ : Type} (resolver : ConnectorResolver δ μ)

/-- `IsSupportedType`. -/
def isSupportedType (type : String) : Bool := (resolver.factoryMap type).isSome

/-- `GetConfigurableConnector`. -/
def getConfigurableConnector (type : String) (place : Nat) : Except String (Option (ConfigurableConnector δ μ)) :=
  match resolver.factoryMap type with
  | some factory => factory place
  | none => .ok none

/-- `ConnectorResolver()`: the two connectors of the library; each entry's handlers are objects of its own. -/
def library {ρ : Type} (stof : String → Except String ρ) (thirty : ρ) (make : Nat → String → ρ → Int → Int → Int → μ)
    (receiver sender : Nat → String → δ) : ConnectorResolver δ μ where
  factoryMap type :=
    if type = "opencv-sender-camera" then some fun place => .ok (some (openCVCamera stof thirty (make place)))
    else if type = "connection-check" then
      some fun place => .ok (some (connectionCheck (receiver place) (sender place)))
    else none

/-- The factories of the library make those two connectors. -/
theorem getConfigurableConnector_library {ρ : Type} {stof : String → Except String ρ} {thirty : ρ}
    {make : Nat → String → ρ → Int → Int → Int → μ} {receiver sender : Nat → String → δ} {type : String} {place : Nat}
    {connector : ConfigurableConnector δ μ}
    (hMade : (library stof thirty make receiver sender).getConfigurableConnector type place = .ok (some connector)) :
    connector = openCVCamera stof thirty (make place) ∨
      connector = connectionCheck (receiver place) (sender place) := by
  simp only [getConfigurableConnector, library] at hMade
  by_cases hCamera : type = "opencv-sender-camera"
  · rw [if_pos hCamera] at hMade
    cases hMade
    exact .inl rfl
  · rw [if_neg hCamera] at hMade
    by_cases hCheck : type = "connection-check"
    · rw [if_pos hCheck] at hMade
      cases hMade
      exact .inr rfl
    · rw [if_neg hCheck] at hMade
      cases hMade

end ConnectorResolver

/-- What `AutoConfigure` finds outside. -/
structure Outside (δ μ : Type) where
  readers : List (Option ConfigReader)
  around : Surroundings
  resolver : ConnectorResolver δ μ

/-- A connector that has been created, and the handlers it was given. -/
structure CreatedConnector (δ μ : Type) where
  startup : Startup
  handlers : HandlerDicts δ μ := {}

/-- The fields of an `AutoConfigurer`. -/
structure Configuring (δ μ : Type) where
  reading : ConfigReading := {}
  mosaicConnector : Option (CreatedConnector δ μ) := none
  configurableConnectors : List (Option (ConfigurableConnector δ μ × ConnectorConfig)) := []
  dcHandlerMap : String → Option δ := fun _ => none
  mtHandlerMap : String → Option μ := fun _ => none

namespace Configuring

variable {δ μ : Type} (getLabel : δ → String) (getTrackName : μ → String) (outside : Outside δ μ)

/-- The fields that resolving and configuring connectors are about. -/
def configurer (s : Configuring δ μ) : AutoConfigurer δ μ where
  mosaicConnector := (s.mosaicConnector.map fun c => c.handlers).getD {}
  configurableConnectors := s.configurableConnectors
  dcHandlerMap := s.dcHandlerMap
  mtHandlerMap := s.mtHandlerMap

/-- Put them back. -/
def withConfigurer (a : AutoConfigurer δ μ) (s : Configuring δ μ) : Configuring δ μ where
  reading := s.reading
  mosaicConnector := s.mosaicConnector.map fun c => { c with handlers := a.mosaicConnector }
  configurableConnectors := a.configurableConnectors
  dcHandlerMap := a.dcHandlerMap
  mtHandlerMap := a.mtHandlerMap

/-- Run a routine on those fields. -/
def onConfigurer (p : Program (AutoConfigurer δ μ) Unit) : Program (Configuring δ μ) Unit :=
  zoom configurer withConfigurer p

/-- A statement that begins with `mosaic_connector_->`. -/
def throughConnector (p : Program (AutoConfigurer δ μ) Unit) : Program (Configuring δ μ) Unit := do
  let _ ← dereference "mosaic_connector_" (← get).mosaicConnector
  onConfigurer p

/-! ## The stages -/

/-- `AutoConfigurer::ReadConfigs`; all it throws are exceptions. -/
def readConfigs (configFilePath : String) : Program (Configuring δ μ) Unit := fun s =>
  match (MosaicCore.readConfigs outside.readers configFilePath).run s.reading with
  | .ok _ reading => .ok () { s with reading := reading }
  | .error e reading => .error (.exception e.what) { s with reading := reading }

/-- `AutoConfigurer::CreateMosaicConnector`. -/
def createMosaicConnector : Program (Configuring δ μ) Unit := do
  let config ← dereference "mosaic_config_" (← get).reading.mosaicConfig
  match MosaicConnectorFactory.create outside.around config.server with
  | .ok startup => modify fun s => { s with mosaicConnector := startup.map fun startup => { startup := startup } }
  | .error fault => throw fault

/-- The body of the loop of `ResolveConnectors`: nothing catches what a factory throws. -/
def resolveConnector (entry : Configs.ConnectorConfig × Nat) : Program (Configuring δ μ) Unit :=
  if ¬ outside.resolver.isSupportedType entry.1.type then pure ()
  else do
    let connector ← orThrow (outside.resolver.getConfigurableConnector entry.1.type entry.2)
    onConfigurer (AutoConfigurer.resolveConnector outside.resolver.isSupportedType
      { config := entry.1.forConfigurer, connector := connector })

/-- `AutoConfigurer::ResolveConnectors`. -/
def resolveConnectors : Program (Configuring δ μ) Unit := do
  let config ← dereference "mosaic_config_" (← get).reading.mosaicConfig
  config.connectors.zipIdx.forM (resolveConnector outside)

/-- What `ConfigureConnectors` does with a connector that has configured itself. -/
def registerConfigured : Configured δ μ → Program (Configuring δ μ) Unit
  | .dataChannel none => pure ()
  | .dataChannel (some handler) =>
      throughConnector (AutoConfigurer.registerDataChannelHandler getLabel (some handler))
  | .multipleDataChannel handlers =>
      handlers.forM fun handler => throughConnector (AutoConfigurer.registerDataChannelHandler getLabel handler)
  | .mediaTrack handler => throughConnector (AutoConfigurer.registerMediaTrackHandler getTrackName handler)
  | .unrecognized => pure ()

/-- The body of the loop of `ConfigureConnectors`. -/
def configureConnector :
    Option (ConfigurableConnector δ μ × ConnectorConfig) → Program (Configuring δ μ) Unit
  | none => pure ()
  | some (connector, config) => do
      let configured ← orThrow (connector.configure config)
      registerConfigured getLabel getTrackName configured

/-- `AutoConfigurer::ConfigureConnectors`. -/
def configureConnectors : Program (Configuring δ μ) Unit := do
  (← get).configurableConnectors.forM (configureConnector getLabel getTrackName)

/-- `BeforeConfigure`, as the class has it. -/
def beforeConfigure : Program (Configuring δ μ) Unit := pure ()

/-- `AfterConfigure`, as the class has it. -/
def afterConfigure : Program (Configuring δ μ) Unit := pure ()

/-- `AutoConfigurer::AutoConfigure`. -/
def autoConfigure (configFilePath : String) : Program (Configuring δ μ) Unit := do
  readConfigs outside configFilePath
  createMosaicConnector outside
  resolveConnectors outside
  beforeConfigure
  configureConnectors getLabel getTrackName
  afterConfigure

/-! ## With a connector -/

variable {getLabel getTrackName} {s : Configuring δ μ}

/-- The fields can be read and written. -/
theorem withConfigurer_laws (hs : s.mosaicConnector.isSome = true) (a : AutoConfigurer δ μ) :
    (withConfigurer a s).mosaicConnector.isSome = true ∧ configurer (withConfigurer a s) = a ∧
      ∀ a', withConfigurer a' (withConfigurer a s) = withConfigurer a' s := by
  obtain ⟨connector, hConnector⟩ := Option.isSome_iff_exists.mp hs
  simp [withConfigurer, configurer, hConnector]

theorem withConfigurer_configurer (hs : s.mosaicConnector.isSome = true) : withConfigurer s.configurer s = s := by
  obtain ⟨reading, connector, connectors, dcHandlerMap, mtHandlerMap⟩ := s
  obtain ⟨connector, rfl⟩ := Option.isSome_iff_exists.mp hs
  rfl

theorem throughConnector_run (hs : s.mosaicConnector.isSome = true) (p : Program (AutoConfigurer δ μ) Unit) :
    (throughConnector p).run s = (onConfigurer p).run s := by
  obtain ⟨connector, hConnector⟩ := Option.isSome_iff_exists.mp hs
  show (dereference "mosaic_connector_" s.mosaicConnector >>= fun _ => onConfigurer p).run s = _
  rw [hConnector, dereference_some, pure_bind]

theorem onConfigurer_pure (hs : s.mosaicConnector.isSome = true) :
    (onConfigurer (pure ())).run s = .ok () s := by
  show EStateM.Result.ok () (withConfigurer s.configurer s) = _
  rw [withConfigurer_configurer hs]

theorem registerConfigured_run (hs : s.mosaicConnector.isSome = true) (configured : Configured δ μ) :
    (registerConfigured getLabel getTrackName configured).run s =
      (onConfigurer (AutoConfigurer.registerConfigured getLabel getTrackName configured)).run s := by
  cases configured with
  | dataChannel handler =>
      cases handler with
      | none => exact (onConfigurer_pure hs).symm
      | some handler => exact throughConnector_run hs _
  | multipleDataChannel handlers =>
      exact forM_zoom_run (fun _ => withConfigurer_configurer) (fun _ => withConfigurer_laws)
        (fun _ _ hs => throughConnector_run hs _) handlers hs
  | mediaTrack handler => exact throughConnector_run hs _
  | unrecognized => exact (onConfigurer_pure hs).symm

theorem configureConnector_run (hs : s.mosaicConnector.isSome = true)
    (connector : Option (ConfigurableConnector δ μ × ConnectorConfig)) :
    (configureConnector getLabel getTrackName connector).run s =
      (onConfigurer (AutoConfigurer.configureConnector getLabel getTrackName connector)).run s := by
  cases connector with
  | none => exact (onConfigurer_pure hs).symm
  | some connector =>
      obtain ⟨connector, config⟩ := connector
      show (orThrow (connector.configure config) >>= fun configured =>
        registerConfigured getLabel getTrackName configured).run s =
          (onConfigurer (orThrow (connector.configure config) >>= fun configured =>
            AutoConfigurer.registerConfigured getLabel getTrackName configured)).run s
      cases connector.configure config with
      | error what =>
          show EStateM.Result.error (Fault.exception what) s = .error _ (withConfigurer s.configurer s)
          rw [withConfigurer_configurer hs]
      | ok configured => exact registerConfigured_run hs configured

/-- With a connector that is not null `ConfigureConnectors` is that of `Configurers`. -/
theorem configureConnectors_run (hs : s.mosaicConnector.isSome = true) :
    (configureConnectors getLabel getTrackName).run s =
      (onConfigurer (AutoConfigurer.configureConnectors getLabel getTrackName)).run s :=
  forM_zoom_run (fun _ => withConfigurer_configurer) (fun _ => withConfigurer_laws)
    (fun connector _ hs => configureConnector_run hs connector) s.configurableConnectors hs

end Configuring

end MosaicCore
