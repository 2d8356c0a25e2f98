import Mathlib.Data.List.ReduceOption
import MosaicCore.Core.HandlerDicts
import MosaicCore.Library.ThrowingSteps
import MosaicCore.Signaling.Json

/-!
# `AutoConfigurer` and the configurable connectors

`ResolveConnectors` turns the entries of a configuration into configurable connectors; `ConfigureConnectors`
lets each of them make its handlers, registers the handlers with the connector and files them in the maps that
subclasses of `AutoConfigurer` read.

The factories behind `ConnectorResolver` may make any connector: what one does when it validates and configures
itself is in `ConfigurableConnector`, and an entry comes with the connector its factory makes for it.  The two
connectors of the library are `openCVCamera` and `connectionCheck`.  Handler objects are of any types `δ`
and `μ`, with their constant names `getLabel` and `getTrackName`.
-/

namespace MosaicCore

open EffectProgram Registration

/-- `ConnectorConfig`. -/
structure ConnectorConfig where
  type : String
  label : String
  params : List (String × String) := []
  deriving DecidableEq, Repr

/-- `params[key]`: a missing key reads as the empty text. -/
def ConnectorConfig.param (config : ConnectorConfig) (key : String) : String :=
  (config.params.lookup key).getD ""

/-- What a connector has after `Configure`, by the class that `dynamic_cast` finds first. -/
inductive Configured (δ μ : Type)
  /-- `ADCHandlerConfigurer`, with its `handler_`. -/
  | dataChannel (handler : Option δ)
  /-- `AMultipleDCHandlerConfigurer`, with its `handlers_`. -/
  | multipleDataChannel (handlers : List (Option δ))
  /-- `AMTHandlerConfigurer`, with its `handler_`. -/
  | mediaTrack (handler : Option μ)
  | unrecognized

/-- An `IConfigurableConnector`. -/
structure ConfigurableConnector (δ μ : Type) where
  validateConfig : ConnectorConfig → Except String Unit := fun _ => .ok ()
  configure : ConnectorConfig → Except String (Configured δ μ)

/-- An entry of `mosaic_config_->connectors`, with what the factory of its type makes for it. -/
structure ConnectorEntry (δ μ : Type) where
  config : ConnectorConfig
  connector : Option (ConfigurableConnector δ μ)

/-! ## The connectors of the library -/

/-- `std::isspace`. -/
def isSpace (c : Char) : Bool := c.toNat = 32 || (9 ≤ c.toNat && c.toNat ≤ 13)

/-- `std::stoi`: white space, a sign, and as many digits as there are, which must fit into an `int`. -/
def stoi (text : String) : Except String Int :=
  let (negative, rest) :=
    match text.toList.dropWhile isSpace with
    | '-' :: rest => (true, rest)
    | '+' :: rest => (false, rest)
    | rest => (false, rest)
  let digits := rest.takeWhile Char.isDigit
  let magnitude : Int := digits.foldl (fun value digit => 10 * value + (digit.toNat - 48 : Nat)) 0
  let value := if negative then -magnitude else magnitude
  if digits = [] then .error "stoi"
  else if -2147483648 ≤ value ∧ value ≤ 2147483647 then .ok value
  else .error "stoi"

/-- `OpenCVCameraMediaTrackConfigurer::Configure`; `stof` gives floats of any type, and `make` is the
`OpenCVCameraMediaTrack` constructed. -/
def openCVCamera {δ μ ρ : Type} (stof : String → Except String ρ) (thirty : ρ)
    (make : String → ρ → Int → Int → Int → μ) : ConfigurableConnector δ μ where
  configure config := do
    let frameRate ← if config.param "fps" ≠ "" then stof (config.param "fps") else pure thirty
    let cameraId ← if config.param "camera_id" ≠ "" then stoi (config.param "camera_id") else pure 0
    let width ← if config.param "width" ≠ "" then stoi (config.param "width") else pure 640
    let height ← if config.param "height" ≠ "" then stoi (config.param "height") else pure 480
    pure (.mediaTrack (some (make config.label frameRate cameraId width height)))

/-- `ConnectionCheckDCHandlerConfigurer::Configure`; `receiver` and `sender` are the handlers made for a
label. -/
def connectionCheck {δ μ : Type} (receiver sender : String → δ) : ConfigurableConnector δ μ where
  configure config :=
    .ok (.multipleDataChannel
      [some (receiver (config.label ++ "-receiver")), some (sender (config.label ++ "-sender"))])

/-! ## `AutoConfigurer` -/

/-- The fields of an `AutoConfigurer` that configuring changes, and the dictionaries of its connector. -/
structure AutoConfigurer (δ μ : Type) where
  mosaicConnector : HandlerDicts δ μ := {}
  configurableConnectors : List (Option (ConfigurableConnector δ μ × ConnectorConfig)) := []
  dcHandlerMap : String → Option δ := fun _ => none
  mtHandlerMap : String → Option μ := fun _ => none

namespace AutoConfigurer

variable {δ μ : Type} (getLabel : δ → String) (getTrackName : μ → String)

/-- The body of the loop of `ResolveConnectors`; every failure is logged and passed over. -/
def resolveConnector (isSupportedType : String → Bool) (entry : ConnectorEntry δ μ) :
    Program (AutoConfigurer δ μ) Unit :=
  if ¬ isSupportedType entry.config.type then pure ()
  else
    match entry.connector with
    | none => pure ()
    | some connector =>
        match connector.validateConfig entry.config with
        | .error _ => pure ()
        | .ok () =>
            modify fun a =>
              { a with configurableConnectors :=
                  a.configurableConnectors ++ [some (connector, entry.config)] }

/-- `AutoConfigurer::ResolveConnectors`. -/
def resolveConnectors (isSupportedType : String → Bool) (entries : List (ConnectorEntry δ μ)) :
    Program (AutoConfigurer δ μ) Unit :=
  entries.forM (resolveConnector isSupportedType)

/-- Run a registration on the connector. -/
def onConnector (p : Program (HandlerDicts δ μ) Unit) : Program (AutoConfigurer δ μ) Unit :=
  zoom (·.mosaicConnector) (fun d a => { a with mosaicConnector := d }) p

/-- `mosaic_connector_->AddDataChannelHandler(handler); dc_handler_map_[handler->GetLabel()] = handler`. -/
def registerDataChannelHandler (handler : Option δ) : Program (AutoConfigurer δ μ) Unit := do
  onConnector (HandlerDicts.addDataChannelHandler getLabel handler)
  let handler ← dereference "handler" handler
  modify fun a =>
    { a with dcHandlerMap := Function.update a.dcHandlerMap (getLabel handler) (some handler) }

/-- `mosaic_connector_->AddMediaTrackHandler(handler); mt_handler_map_[handler->GetTrackName()] = handler`. -/
def registerMediaTrackHandler (handler : Option μ) : Program (AutoConfigurer δ μ) Unit := do
  onConnector (HandlerDicts.addMediaTrackHandler getTrackName handler)
  let handler ← dereference "handler" handler
  modify fun a =>
    { a with mtHandlerMap := Function.update a.mtHandlerMap (getTrackName handler) (some handler) }

/-- What `ConfigureConnectors` does with a connector that has configured itself. -/
def registerConfigured : Configured δ μ → Program (AutoConfigurer δ μ) Unit
  | .dataChannel none => pure ()
  | .dataChannel (some handler) => registerDataChannelHandler getLabel (some handler)
  | .multipleDataChannel handlers => handlers.forM (registerDataChannelHandler getLabel)
  | .mediaTrack handler => registerMediaTrackHandler getTrackName handler
  | .unrecognized => pure ()

/-- The body of the loop of `ConfigureConnectors`: nothing catches what `Configure` throws. -/
def configureConnector :
    Option (ConfigurableConnector δ μ × ConnectorConfig) → Program (AutoConfigurer δ μ) Unit
  | none => pure ()
  | some (connector, config) => do
      let configured ← orThrow (connector.configure config)
      registerConfigured getLabel getTrackName configured

/-- `AutoConfigurer::ConfigureConnectors`. -/
def configureConnectors : Program (AutoConfigurer δ μ) Unit := do
  (← get).configurableConnectors.forM (configureConnector getLabel getTrackName)

/-! ## What a registration does -/

variable {getLabel getTrackName}

/-- The state after handlers were registered. -/
def withHandlers (getLabel : δ → String) (getTrackName : μ → String) (a : AutoConfigurer δ μ)
    (dataChannels : List δ) (mediaTracks : List μ) : AutoConfigurer δ μ where
  mosaicConnector :=
    { dataChannelHandlersDict :=
        registerNew getLabel a.mosaicConnector.dataChannelHandlersDict dataChannels
      mediaTrackHandlersDict :=
        registerNew getTrackName a.mosaicConnector.mediaTrackHandlersDict mediaTracks }
  configurableConnectors := a.configurableConnectors
  dcHandlerMap := registerOver getLabel a.dcHandlerMap dataChannels
  mtHandlerMap := registerOver getTrackName a.mtHandlerMap mediaTracks

@[simp] theorem withHandlers_nil (a : AutoConfigurer δ μ) :
    withHandlers getLabel getTrackName a [] [] = a := rfl

theorem withHandlers_withHandlers (a : AutoConfigurer δ μ) (ds ds' : List δ) (ms ms' : List μ) :
    withHandlers getLabel getTrackName (withHandlers getLabel getTrackName a ds ms) ds' ms' =
      withHandlers getLabel getTrackName a (ds ++ ds') (ms ++ ms') := by
  simp [withHandlers, registerNew_append, registerOver_append]

variable (getTrackName) in
theorem registerDataChannelHandler_run (handler : δ) (a : AutoConfigurer δ μ) :
    (registerDataChannelHandler getLabel (some handler)).run a =
      .ok () (withHandlers getLabel getTrackName a [handler] []) := by
  rw [registerDataChannelHandler, EStateM.run_bind, onConnector, zoom_run,
    HandlerDicts.addDataChannelHandler_run]
  rfl

variable (getLabel) in
theorem registerMediaTrackHandler_run (handler : μ) (a : AutoConfigurer δ μ) :
    (registerMediaTrackHandler getTrackName (some handler)).run a =
      .ok () (withHandlers getLabel getTrackName a [] [handler]) := by
  rw [registerMediaTrackHandler, EStateM.run_bind, onConnector, zoom_run,
    HandlerDicts.addMediaTrackHandler_run]
  rfl

/-- A null pointer ends the process. -/
theorem registerDataChannelHandler_run_null (a : AutoConfigurer δ μ) :
    (registerDataChannelHandler getLabel none).run a = .error (.nullDereference "data_channel_handler") a := by
  rw [registerDataChannelHandler, EStateM.run_bind, onConnector, zoom_run, HandlerDicts.addDataChannelHandler, zoom_run,
    HandlerDicts.addHandler_run_null]

theorem registerMediaTrackHandler_run_null (a : AutoConfigurer δ μ) :
    (registerMediaTrackHandler getTrackName none).run a = .error (.nullDereference "media_track_handler") a := by
  rw [registerMediaTrackHandler, EStateM.run_bind, onConnector, zoom_run, HandlerDicts.addMediaTrackHandler, zoom_run,
    HandlerDicts.addHandler_run_null]

variable (getTrackName) in
/-- A list without null pointers is registered in its order. -/
theorem registerAll_run (handlers : List δ) (a : AutoConfigurer δ μ) :
    ((handlers.map some).forM (registerDataChannelHandler getLabel)).run a =
      .ok () (withHandlers getLabel getTrackName a handlers []) := by
  induction handlers generalizing a with
  | nil => rfl
  | cons handler handlers ih =>
      show (registerDataChannelHandler getLabel (some handler) >>= fun _ =>
        (handlers.map some).forM (registerDataChannelHandler getLabel)).run a = _
      rw [EStateM.run_bind, registerDataChannelHandler_run getTrackName]
      simp only [ih, withHandlers_withHandlers]
      rfl

variable (getLabel) in
/-- A list with a null pointer ends the process. -/
theorem registerAll_run_null {handlers : List (Option δ)} (hNull : none ∈ handlers)
    (a : AutoConfigurer δ μ) :
    ∃ fault a', (handlers.forM (registerDataChannelHandler getLabel)).run a = .error fault a' := by
  induction handlers generalizing a with
  | nil => exact absurd hNull List.not_mem_nil
  | cons handler handlers ih =>
      show ∃ fault a', (registerDataChannelHandler getLabel handler >>= fun _ =>
        handlers.forM (registerDataChannelHandler getLabel)).run a = .error fault a'
      rw [EStateM.run_bind]
      cases handler with
      | none =>
          rw [registerDataChannelHandler_run_null]
          exact ⟨_, _, rfl⟩
      | some handler =>
          have hRest : none ∈ handlers := by simpa using hNull
          rw [registerDataChannelHandler_run fun _ => ""]
          exact ih hRest _

end AutoConfigurer

/-! ## What a connector contributes -/

namespace Configured

variable {δ μ : Type}

/-- The data channel handlers a connector has, in their order. -/
def dataChannels : Configured δ μ → List δ
  | .dataChannel handler => handler.toList
  | .multipleDataChannel handlers => handlers.reduceOption
  | .mediaTrack _ => []
  | .unrecognized => []

/-- The media track handlers. -/
def mediaTracks : Configured δ μ → List μ
  | .mediaTrack handler => handler.toList
  | _ => []

/-- No null pointer is used in registering the handlers: that of an `ADCHandlerConfigurer` is tested. -/
def isSound : Configured δ μ → Bool
  | .dataChannel _ => true
  | .multipleDataChannel handlers => handlers.all Option.isSome
  | .mediaTrack handler => handler.isSome
  | .unrecognized => true

/-- There is something to register with the connector. -/
def registers : Configured δ μ → Bool
  | .dataChannel handler => handler.isSome
  | .multipleDataChannel handlers => !handlers.isEmpty
  | .mediaTrack _ => true
  | .unrecognized => false

theorem isSound_openCVCamera {ρ : Type} {stof : String → Except String ρ} {thirty : ρ}
    {make : String → ρ → Int → Int → Int → μ} {config : ConnectorConfig} {configured : Configured δ μ}
    (hConfigure : (openCVCamera stof thirty make).configure config = .ok configured) : configured.isSound = true := by
  obtain ⟨frameRate, hConfigure⟩ := ThrowingSteps.exists_of_ite_bind hConfigure
  obtain ⟨cameraId, hConfigure⟩ := ThrowingSteps.exists_of_ite_bind hConfigure
  obtain ⟨width, hConfigure⟩ := ThrowingSteps.exists_of_ite_bind hConfigure
  obtain ⟨height, hConfigure⟩ := ThrowingSteps.exists_of_ite_bind hConfigure
  cases hConfigure
  rfl

theorem isSound_connectionCheck {receiver sender : String → δ} {config : ConnectorConfig} {configured : Configured δ μ}
    (hConfigure : (connectionCheck receiver sender).configure config = .ok configured) : configured.isSound = true := by
  cases hConfigure
  rfl

theorem map_some_reduceOption {handlers : List (Option δ)} (hAll : handlers.all Option.isSome = true) :
    handlers.reduceOption.map some = handlers := by
  induction handlers with
  | nil => rfl
  | cons handler handlers ih =>
      simp only [List.all_cons, Bool.and_eq_true] at hAll
      obtain ⟨handler, rfl⟩ := Option.isSome_iff_exists.mp hAll.1
      simp [ih hAll.2]

end Configured

namespace AutoConfigurer

variable {δ μ : Type} {getLabel : δ → String} {getTrackName : μ → String}

/-- What a connector contributes when it configures itself: nothing if it throws. -/
def contributed (connector : ConfigurableConnector δ μ × ConnectorConfig) : List δ × List μ :=
  match connector.1.configure connector.2 with
  | .ok configured => (configured.dataChannels, configured.mediaTracks)
  | .error _ => ([], [])

/-- The connector configures itself without throwing and without leaving a null pointer that is used. -/
def isSound (connector : ConfigurableConnector δ μ × ConnectorConfig) : Bool :=
  match connector.1.configure connector.2 with
  | .ok configured => configured.isSound
  | .error _ => false

variable (getLabel getTrackName) in
theorem registerConfigured_run {configured : Configured δ μ} (hSound : configured.isSound = true)
    (a : AutoConfigurer δ μ) : (registerConfigured getLabel getTrackName configured).run a =
      .ok () (withHandlers getLabel getTrackName a configured.dataChannels configured.mediaTracks) := by
  cases configured with
  | dataChannel handler =>
      cases handler with
      | none => rfl
      | some handler => exact registerDataChannelHandler_run getTrackName handler a
  | multipleDataChannel handlers =>
      have hRun : _ = EStateM.Result.ok () (withHandlers getLabel getTrackName a _ []) :=
        registerAll_run getTrackName handlers.reduceOption a
      rw [Configured.map_some_reduceOption hSound] at hRun
      exact hRun
  | mediaTrack handler =>
      obtain ⟨handler, rfl⟩ := Option.isSome_iff_exists.mp hSound
      exact registerMediaTrackHandler_run getLabel handler a
  | unrecognized => rfl

variable (getLabel getTrackName) in
theorem registerConfigured_run_null {configured : Configured δ μ} (hUnsound : configured.isSound = false)
    (a : AutoConfigurer δ μ) :
    ∃ fault a', (registerConfigured getLabel getTrackName configured).run a = .error fault a' := by
  cases configured with
  | dataChannel handler => simp [Configured.isSound] at hUnsound
  | multipleDataChannel handlers =>
      have hNull : none ∈ handlers := by simpa [Configured.isSound] using hUnsound
      exact registerAll_run_null getLabel hNull a
  | mediaTrack handler =>
      have hNull : handler = none := by simpa [Configured.isSound] using hUnsound
      subst hNull
      rw [registerConfigured, registerMediaTrackHandler_run_null]
      exact ⟨_, _, rfl⟩
  | unrecognized => simp [Configured.isSound] at hUnsound

variable (getLabel getTrackName) in
/-- The body of the loop registers what the connector contributes, or does not return. -/
theorem configureConnector_run (connector : ConfigurableConnector δ μ × ConnectorConfig)
    (a : AutoConfigurer δ μ) :
    if isSound connector then
      (configureConnector getLabel getTrackName (some connector)).run a =
        .ok () (withHandlers getLabel getTrackName a (contributed connector).1 (contributed connector).2)
    else ∃ fault a', (configureConnector getLabel getTrackName (some connector)).run a = .error fault a' := by
  have hBody : configureConnector getLabel getTrackName (some connector) =
      (orThrow (connector.1.configure connector.2) >>= fun configured =>
        registerConfigured getLabel getTrackName configured) := rfl
  rw [hBody]
  cases hConfigure : connector.1.configure connector.2 with
  | error what => simp [isSound, hConfigure]
  | ok configured =>
      rw [orThrow_ok, pure_bind]
      cases hSound : configured.isSound with
      | true =>
          simp only [isSound, contributed, hConfigure, hSound, if_true]
          exact registerConfigured_run getLabel getTrackName hSound a
      | false =>
          simp only [isSound, hConfigure, hSound]
          exact registerConfigured_run_null getLabel getTrackName hSound a

variable (getLabel getTrackName) in
/-- The loop registers what was contributed, connector by connector. -/
theorem configureAll_run {connectors : List (ConfigurableConnector δ μ × ConnectorConfig)}
    (hSound : ∀ connector ∈ connectors, isSound connector = true) (a : AutoConfigurer δ μ) :
    ((connectors.map some).forM (configureConnector getLabel getTrackName)).run a =
      .ok () (withHandlers getLabel getTrackName a (connectors.flatMap fun c => (contributed c).1)
        (connectors.flatMap fun c => (contributed c).2)) := by
  induction connectors generalizing a with
  | nil => rfl
  | cons connector connectors ih =>
      have hBody := configureConnector_run getLabel getTrackName connector a
      rw [if_pos (hSound connector List.mem_cons_self)] at hBody
      show (configureConnector getLabel getTrackName (some connector) >>= fun _ =>
        (connectors.map some).forM (configureConnector getLabel getTrackName)).run a = _
      rw [EStateM.run_bind, hBody]
      simp only [ih fun c hMem => hSound c (List.mem_cons_of_mem _ hMem), withHandlers_withHandlers,
        List.flatMap_cons]

variable (getLabel getTrackName) in
/-- The loop does not return past a connector that is not sound. -/
theorem configureAll_run_unsound {connectors : List (ConfigurableConnector δ μ × ConnectorConfig)}
    {bad : ConfigurableConnector δ μ × ConnectorConfig} (hMem : bad ∈ connectors)
    (hBad : isSound bad = false) (a : AutoConfigurer δ μ) :
    ∃ fault a', ((connectors.map some).forM (configureConnector getLabel getTrackName)).run a =
      .error fault a' := by
  induction connectors generalizing a with
  | nil => exact absurd hMem List.not_mem_nil
  | cons connector connectors ih =>
      show ∃ fault a', (configureConnector getLabel getTrackName (some connector) >>= fun _ =>
        (connectors.map some).forM (configureConnector getLabel getTrackName)).run a = .error fault a'
      have hBody := configureConnector_run getLabel getTrackName connector a
      cases hHead : isSound connector with
      | true =>
          rw [hHead, if_pos rfl] at hBody
          have hLater : bad ∈ connectors := by
            rcases List.mem_cons.mp hMem with rfl | hLater
            · rw [hHead] at hBad
              exact absurd hBad (by simp)
            · exact hLater
          rw [EStateM.run_bind, hBody]
          exact ih hLater _
      | false =>
          rw [hHead, if_neg (by simp)] at hBody
          obtain ⟨fault, a', hRun⟩ := hBody
          exact ⟨fault, a', by rw [EStateM.run_bind, hRun]⟩

end AutoConfigurer
end MosaicCore
