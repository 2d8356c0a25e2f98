import MosaicCore.AutoConfigurer.Configurers
import MosaicCore.AutoConfigurer.Yaml
import MosaicCore.Core.World
import MosaicCore.Library.EffectProgram
import MosaicCore.Library.OrderedMap

/-!
# Reading a configuration

`YamlConfigReader` of `yaml_config_reader.cpp`: six parsers, one for each part of a configuration.  The lemma beside
each says when it returns, and what.  `AutoConfigurer::ReadConfigs` finds a reader by the extension of the file, and
takes over the configuration only once all of it is read.
-/

namespace MosaicCore

/-! ## Configurations -/

namespace Configs

/-- `AuthConfig`. -/
structure AuthConfig where
  type : String
  robotId : String
  params : OrderedMap String String

/-- `WebRtcConfig`. -/
structure WebRtcConfig where
  iceServers : List IceServerConfig

/-- `ServerConfig`. -/
structure ServerConfig where
  wsUrl : String
  authConfig : AuthConfig
  webrtcConfig : WebRtcConfig

/-- `ConnectorConfig`. -/
structure ConnectorConfig where
  type : String
  label : String
  params : OrderedMap String String

/-- `MosaicConfig`. -/
structure MosaicConfig where
  server : ServerConfig
  connectors : List ConnectorConfig

/-- What a configurer is given. -/
def ConnectorConfig.forConfigurer (config : ConnectorConfig) : MosaicCore.ConnectorConfig where
  type := config.type
  label := config.label
  params := config.params.entries

/-- A configurer finds the parameters that were read. -/
theorem param_forConfigurer (config : ConnectorConfig) (key : String) :
    config.forConfigurer.param key = (config.params.find? key).getD "" := by
  have hLookup : ∀ es : List (String × String), es.lookup key = OrderedMap.lookup key es := by
    intro es
    induction es with
    | nil => rfl
    | cons e rest ih =>
        obtain ⟨k, v⟩ := e
        rw [List.lookup_cons, OrderedMap.lookup, ih]
        by_cases hKey : k = key
        · rw [hKey, beq_self_eq_true, if_pos rfl]
        · rw [beq_eq_false_iff_ne.mpr (Ne.symm hKey), if_neg hKey]
  rw [MosaicCore.ConnectorConfig.param, hLookup]
  rfl

end Configs

/-! ## The parsers -/

namespace YamlConfigReader

open Configs YamlNode ThrowingSteps

/-- `if (node[key]) ... else throw std::invalid_argument(missing)`. -/
def required (node : YamlNode) (key missing : String) : Except ReadError YamlNode := do
  let value ← node.get key
  if value.isSome then pure value else throw (.invalidArgument missing)

variable (nullText : Option String)

/-- A required text. -/
def requiredString (node : YamlNode) (key missing : String) : Except ReadError String := do
  asString nullText (← required node key missing)

/-- One entry of `params`: the value is read before the key. -/
def parseParam (item : Item) : Except ReadError (String × String) := do
  let value ← asString nullText item.second
  let key ← asString nullText item.first
  pure (key, value)

/-- The optional `params`. -/
def parseParams (node : YamlNode) : Except ReadError (OrderedMap String String) := do
  let params ← node.get "params"
  if params.isSome then
    (items params).foldlM (fun m item => do
      let p ← parseParam nullText item
      pure (m.assign p.1 p.2)) .empty
  else pure .empty

/-- A part with two required texts and `params`; each key comes with the complaint that it is missing. -/
def parseTextsAndParams {α : Type} (node : YamlNode) (first second : String × String)
    (build : String → String → OrderedMap String String → α) : Except ReadError α := do
  let a ← requiredString nullText node first.1 first.2
  let b ← requiredString nullText node second.1 second.2
  let params ← parseParams nullText node
  pure (build a b params)

/-- `ParseConnectorConfig`. -/
def parseConnectorConfig (node : YamlNode) : Except ReadError Configs.ConnectorConfig :=
  parseTextsAndParams nullText node ("type", "Connector type is not found.") ("label", "Connector label is not found.")
    fun type label params => { type := type, label := label, params := params }

/-- `ParseAuthConfig`. -/
def parseAuthConfig (node : YamlNode) : Except ReadError AuthConfig :=
  parseTextsAndParams nullText node ("type", "Auth type is not found.") ("robot_id", "Robot id is not found.")
    fun type robotId params => { type := type, robotId := robotId, params := params }

/-- The body of the loop of `ParseIceServers`. -/
def parseIceServer (node : YamlNode) : Except ReadError IceServerConfig := do
  let urls ← required node "urls" "Ice server urls are not found."
  let urls ← (items urls).mapM fun url => asString nullText url.node
  let username ← requiredString nullText node "username" "Ice server username is not found."
  let credential ← requiredString nullText node "credential" "Ice server credential is not found."
  pure { urls := urls, username := username, credential := credential }

/-- `ParseIceServers`. -/
def parseIceServers (node : YamlNode) : Except ReadError (List IceServerConfig) :=
  (items node).mapM fun item => parseIceServer nullText item.node

/-- `ParseWebRtcConfig`. -/
def parseWebRtcConfig (node : YamlNode) : Except ReadError WebRtcConfig := do
  let iceServers ← required node "ice_servers" "WebRTC ice servers are not found."
  let iceServers ← parseIceServers nullText iceServers
  pure { iceServers := iceServers }

/-- `ParseServerConfig`. -/
def parseServerConfig (node : YamlNode) : Except ReadError ServerConfig := do
  let wsUrl ← requiredString nullText node "ws_url" "Server websocket url is not found."
  let auth ← required node "auth" "Server auth config is not found."
  let authConfig ← parseAuthConfig nullText auth
  let webrtc ← required node "webrtc" "Server webrtc config is not found."
  let webrtcConfig ← parseWebRtcConfig nullText webrtc
  pure { wsUrl := wsUrl, authConfig := authConfig, webrtcConfig := webrtcConfig }

/-- `ParseConnectorConfigs`. -/
def parseConnectorConfigs (node : YamlNode) : Except ReadError MosaicConfig := do
  let server ← required node "server" "Server config is not found."
  let server ← parseServerConfig nullText server
  let connectors ← required node "connectors" "Connectors config is not found."
  let connectors ← (items connectors).mapM fun item => parseConnectorConfig nullText item.node
  pure { server := server, connectors := connectors }

/-! ## What the parsers read -/

variable {nullText}

theorem required_ok_iff {t : Yaml} {key missing : String} {value : YamlNode} :
    required (some t) key missing = .ok value ↔ ∃ y, t.field key = some y ∧ value = some y := by
  rw [required, bind_eq_ok_iff]
  constructor
  · rintro ⟨found, hGet, hValue⟩
    obtain ⟨-, rfl⟩ := get_some_iff.mp hGet
    cases hField : t.field key with
    | none => simp [hField, throw_ne_ok] at hValue
    | some y =>
        rw [hField] at hValue
        cases hValue
        exact ⟨y, rfl, rfl⟩
  · rintro ⟨y, hField, rfl⟩
    refine ⟨some y, get_some_iff.mpr ⟨?_, hField.symm⟩, rfl⟩
    rintro text rfl
    cases hField

/-- From an undefined node nothing is read. -/
theorem required_none (key missing : String) : required none key missing = .error .invalidNode := rfl

theorem requiredString_ok_iff {t : Yaml} {key missing text : String} :
    requiredString nullText (some t) key missing = .ok text ↔
      ∃ y, t.field key = some y ∧ y.text nullText = some text := by
  rw [requiredString, bind_eq_ok_iff]
  constructor
  · rintro ⟨value, hRequired, hText⟩
    obtain ⟨y, hField, rfl⟩ := required_ok_iff.mp hRequired
    exact ⟨y, hField, asString_some_iff.mp hText⟩
  · rintro ⟨y, hField, hText⟩
    exact ⟨some y, required_ok_iff.mpr ⟨y, hField, rfl⟩, asString_some_iff.mpr hText⟩

/-- The parameters of a map: none, or the pairs that a loop over them reads. -/
theorem parseParams_ok_iff {t : Yaml} {m : OrderedMap String String} :
    parseParams nullText (some t) = .ok m ↔
      (∀ text, t ≠ .scalar text) ∧
        ((t.field "params" = none ∧ m = .empty) ∨
          ∃ params pairs, t.field "params" = some params ∧
            List.Forall₂ (fun item p => parseParam nullText item = .ok p) (items (some params)) pairs ∧
            pairs.foldl (fun m p => m.assign p.1 p.2) .empty = m) := by
  simp only [parseParams, bind_eq_ok_iff, get_some_iff, and_assoc, exists_and_left, exists_eq_left]
  refine and_congr_right fun _ => ?_
  cases t.field "params" with
  | none => simp [pure, Except.pure, eq_comm]
  | some params =>
      rw [Option.isSome_some, if_pos rfl, foldlM_eq_ok_iff]
      simp

theorem parseTextsAndParams_ok_iff {α : Type} {t : Yaml} {first second : String × String}
    {build : String → String → OrderedMap String String → α} {c : α} :
    parseTextsAndParams nullText (some t) first second build = .ok c ↔
      ∃ a b m, (∃ y, t.field first.1 = some y ∧ y.text nullText = some a) ∧
        (∃ y, t.field second.1 = some y ∧ y.text nullText = some b) ∧
        parseParams nullText (some t) = .ok m ∧ build a b m = c := by
  simp only [parseTextsAndParams, bind_eq_ok_iff, requiredString_ok_iff]
  constructor
  · rintro ⟨a, hFirst, b, hSecond, m, hParams, hSame⟩
    exact ⟨a, b, m, hFirst, hSecond, hParams, Except.ok.inj hSame⟩
  · rintro ⟨a, b, m, hFirst, hSecond, hParams, rfl⟩
    exact ⟨a, hFirst, b, hSecond, m, hParams, rfl⟩

theorem parseIceServer_ok_iff {t : Yaml} {c : IceServerConfig} :
    parseIceServer nullText (some t) = .ok c ↔
      (∃ y ts, t.field "urls" = some y ∧ y.looped = some ts ∧
        List.Forall₂ (fun t url => t.text nullText = some url) ts c.urls) ∧
        (∃ y, t.field "username" = some y ∧ y.text nullText = some c.username) ∧
        ∃ y, t.field "credential" = some y ∧ y.text nullText = some c.credential := by
  simp only [parseIceServer, bind_eq_ok_iff, requiredString_ok_iff, required_ok_iff]
  constructor
  · rintro ⟨_, ⟨y, hField, rfl⟩, urls, hUrls, username, hUsername, credential, hCredential, hSame⟩
    cases hSame
    obtain ⟨ts, hLooped, hTexts⟩ := (loop_eq_ok_iff (f := asString nullText) (by simp [asString])).mp hUrls
    exact ⟨⟨y, ts, hField, hLooped, hTexts.imp fun _ _ => asString_some_iff.mp⟩, hUsername, hCredential⟩
  · rintro ⟨⟨y, ts, hField, hLooped, hTexts⟩, hUsername, hCredential⟩
    refine ⟨some y, ⟨y, hField, rfl⟩, c.urls, ?_, c.username, hUsername, c.credential, hCredential, rfl⟩
    exact (loop_eq_ok_iff (f := asString nullText) (by simp [asString])).mpr
      ⟨ts, hLooped, hTexts.imp fun _ _ => asString_some_iff.mpr⟩

/-- From an undefined node no part is parsed. -/
theorem parseIceServer_none (c : IceServerConfig) : parseIceServer nullText none ≠ .ok c := by
  simp [parseIceServer, required_none, bind, Except.bind]

theorem parseConnectorConfig_none (c : Configs.ConnectorConfig) : parseConnectorConfig nullText none ≠ .ok c := by
  simp [parseConnectorConfig, parseTextsAndParams, requiredString, required_none, bind, Except.bind]

theorem parseWebRtcConfig_ok_iff {t : Yaml} {c : WebRtcConfig} :
    parseWebRtcConfig nullText (some t) = .ok c ↔
      ∃ y ts, t.field "ice_servers" = some y ∧ y.looped = some ts ∧
        List.Forall₂ (fun t server => parseIceServer nullText (some t) = .ok server) ts c.iceServers := by
  simp only [parseWebRtcConfig, bind_eq_ok_iff, required_ok_iff, parseIceServers]
  constructor
  · rintro ⟨_, ⟨y, hField, rfl⟩, iceServers, hServers, hSame⟩
    cases hSame
    obtain ⟨ts, hLooped, hAll⟩ := (loop_eq_ok_iff parseIceServer_none).mp hServers
    exact ⟨y, ts, hField, hLooped, hAll⟩
  · rintro ⟨y, ts, hField, hLooped, hAll⟩
    exact ⟨some y, ⟨y, hField, rfl⟩, c.iceServers, (loop_eq_ok_iff parseIceServer_none).mpr ⟨ts, hLooped, hAll⟩, rfl⟩

theorem parseServerConfig_ok_iff {t : Yaml} {c : ServerConfig} :
    parseServerConfig nullText (some t) = .ok c ↔
      (∃ y, t.field "ws_url" = some y ∧ y.text nullText = some c.wsUrl) ∧
        (∃ y, t.field "auth" = some y ∧ parseAuthConfig nullText (some y) = .ok c.authConfig) ∧
        ∃ y, t.field "webrtc" = some y ∧ parseWebRtcConfig nullText (some y) = .ok c.webrtcConfig := by
  simp only [parseServerConfig, bind_eq_ok_iff, requiredString_ok_iff, required_ok_iff]
  constructor
  · rintro ⟨wsUrl, hWsUrl, _, ⟨a, hAuth, rfl⟩, authConfig, hAuthConfig, _, ⟨w, hWebrtc, rfl⟩, webrtcConfig,
      hWebrtcConfig, hSame⟩
    cases hSame
    exact ⟨hWsUrl, ⟨a, hAuth, hAuthConfig⟩, w, hWebrtc, hWebrtcConfig⟩
  · rintro ⟨hWsUrl, ⟨a, hAuth, hAuthConfig⟩, w, hWebrtc, hWebrtcConfig⟩
    exact ⟨c.wsUrl, hWsUrl, some a, ⟨a, hAuth, rfl⟩, c.authConfig, hAuthConfig, some w, ⟨w, hWebrtc, rfl⟩,
      c.webrtcConfig, hWebrtcConfig, rfl⟩

theorem parseConnectorConfigs_ok_iff {t : Yaml} {c : MosaicConfig} :
    parseConnectorConfigs nullText (some t) = .ok c ↔
      (∃ y, t.field "server" = some y ∧ parseServerConfig nullText (some y) = .ok c.server) ∧
        ∃ y ts, t.field "connectors" = some y ∧ y.looped = some ts ∧
          List.Forall₂ (fun t connector => parseConnectorConfig nullText (some t) = .ok connector) ts
            c.connectors := by
  simp only [parseConnectorConfigs, bind_eq_ok_iff, required_ok_iff]
  constructor
  · rintro ⟨_, ⟨y, hServer, rfl⟩, server, hServerConfig, _, ⟨z, hField, rfl⟩, connectors, hConnectors, hSame⟩
    cases hSame
    obtain ⟨ts, hLooped, hAll⟩ := (loop_eq_ok_iff parseConnectorConfig_none).mp hConnectors
    exact ⟨⟨y, hServer, hServerConfig⟩, z, ts, hField, hLooped, hAll⟩
  · rintro ⟨⟨y, hServer, hServerConfig⟩, z, ts, hField, hLooped, hAll⟩
    exact ⟨some y, ⟨y, hServer, rfl⟩, c.server, hServerConfig, some z, ⟨z, hField, rfl⟩, c.connectors,
      (loop_eq_ok_iff parseConnectorConfig_none).mpr ⟨ts, hLooped, hAll⟩, rfl⟩

end YamlConfigReader

/-! ## From a file -/

open Configs

/-- `IConfigReader`. -/
structure ConfigReader where
  isSupportedExtension : String → Bool
  loadConfigs : String → Except ReadError MosaicConfig

/-- `YamlConfigReader`, given what `YAML::LoadFile` makes of a path. -/
def yamlConfigReader (nullText : Option String) (loadFile : String → Except ReadError Yaml) : ConfigReader where
  isSupportedExtension extension := extension = "yaml" || extension = "yml"
  loadConfigs filePath := do
    let root ← loadFile filePath
    YamlConfigReader.parseConnectorConfigs nullText (some root)

/-- `ExtractFileExtension`: what follows the last dot of the file's name, unless the name starts there. -/
def extractFileExtension (filePath : String) : String :=
  let name := (filePath.toList.reverse.takeWhile (· ≠ '/')).reverse
  let extension := (name.reverse.takeWhile (· ≠ '.')).reverse
  if extension.length + 1 < name.length then String.ofList extension else ""

/-- `ConfigReaderResolver::GetConfigReader`: the first factory that supports the extension; a null one is passed
over. -/
def getConfigReader (factories : List (Option ConfigReader)) (filePath : String) : Except ReadError ConfigReader :=
  let extension := extractFileExtension filePath
  if extension = "" then .error (.invalidArgument ("File has no extension: " ++ filePath))
  else
    match factories.findSome? fun factory => factory.filter (·.isSupportedExtension extension) with
    | some reader => .ok reader
    | none => .error (.invalidArgument ("Unsupported file extension: " ++ extension))

/-- The fields of an `AutoConfigurer` that reading a configuration changes. -/
structure ConfigReading where
  configReader : Option ConfigReader := none
  mosaicConfig : Option MosaicConfig := none

/-- `AutoConfigurer::ReadConfigs`. -/
def readConfigs (factories : List (Option ConfigReader)) (configFilePath : String) :
    EStateM ReadError ConfigReading Unit := do
  let reader ← MonadExcept.ofExcept (getConfigReader factories configFilePath)
  modify fun a => { a with configReader := some reader }
  let configs ← MonadExcept.ofExcept (reader.loadConfigs configFilePath)
  modify fun a => { a with mosaicConfig := some configs }

/-- The reader for YAML is registered first, so it reads every file with one of its extensions. -/
theorem getConfigReader_yaml {nullText : Option String} {loadFile : String → Except ReadError Yaml}
    {registered : List (Option ConfigReader)} {filePath : String}
    (hExtension : extractFileExtension filePath = "yaml" ∨ extractFileExtension filePath = "yml") :
    getConfigReader (some (yamlConfigReader nullText loadFile) :: registered) filePath =
      .ok (yamlConfigReader nullText loadFile) := by
  have hSupported : (yamlConfigReader nullText loadFile).isSupportedExtension (extractFileExtension filePath) := by
    simpa [yamlConfigReader] using hExtension
  have hNonempty : extractFileExtension filePath ≠ "" := by
    rcases hExtension with hYaml | hYml
    · simp [hYaml]
    · simp [hYml]
  simp [getConfigReader, hNonempty, Option.filter, hSupported]

/-- What `ReadConfigs` comes to once a reader is found. -/
theorem readConfigs_run {factories : List (Option ConfigReader)} {configFilePath : String} {reader : ConfigReader}
    (hReader : getConfigReader factories configFilePath = .ok reader) (a : ConfigReading) :
    (readConfigs factories configFilePath).run a =
      match reader.loadConfigs configFilePath with
      | .ok configs => .ok () { configReader := some reader, mosaicConfig := some configs }
      | .error e => .error e { a with configReader := some reader } := by
  simp only [readConfigs, hReader]
  show (MonadExcept.ofExcept (reader.loadConfigs configFilePath) >>= _ : EStateM _ _ _).run _ = _
  cases reader.loadConfigs configFilePath <;> rfl

end MosaicCore
