import MosaicCore.AutoConfigurer.YamlConfigReader

/-!
# The documented layout of a configuration

What a tree has to look like to be the configuration `c`, said as relations that do not look at the parsers: each
field of `c` stands under its key, keys may come in any order, other keys may stand anywhere between them, and
`params` may be left out where `c` has none.  Every configuration has such a tree, and the parsers read each of them
as exactly that configuration.
-/

namespace MosaicCore

namespace ConfigLayout

open Configs

/-! ## Layouts -/

/-- A map with one value under a key, whatever other keys it has. -/
def HasField (key : String) (y t : Yaml) : Prop :=
  ∃ entries, t = .map entries ∧ (.scalar key, y) ∈ entries ∧ ∀ y', (.scalar key, y') ∈ entries → y' = y

/-- A map without a key. -/
def LacksField (key : String) (t : Yaml) : Prop :=
  ∃ entries, t = .map entries ∧ ∀ y, (.scalar key, y) ∉ entries

/-- A sequence that has, in order, a tree for each element of a list. -/
def IsListOf {α : Type} (IsItem : α → Yaml → Prop) (xs : List α) (t : Yaml) : Prop :=
  ∃ items, t = .sequence items ∧ List.Forall₂ IsItem xs items

def IsText (text : String) (t : Yaml) : Prop := t = .scalar text

/-- A map of texts with the entries of `m`, in any order. -/
def IsParams (m : OrderedMap String String) (t : Yaml) : Prop :=
  ∃ pairs : List (String × String),
    t = .map (pairs.map fun p => (.scalar p.1, .scalar p.2)) ∧ pairs.Perm m.entries

/-- A field whose value has a layout. -/
def FieldIs (key : String) (IsValue : Yaml → Prop) (t : Yaml) : Prop := ∃ y, HasField key y t ∧ IsValue y

def ParamsAre (m : OrderedMap String String) (t : Yaml) : Prop :=
  m = .empty ∧ LacksField "params" t ∨ FieldIs "params" (IsParams m) t

def IsConnector (c : Configs.ConnectorConfig) (t : Yaml) : Prop :=
  FieldIs "type" (IsText c.type) t ∧ FieldIs "label" (IsText c.label) t ∧ ParamsAre c.params t

def IsAuth (c : AuthConfig) (t : Yaml) : Prop :=
  FieldIs "type" (IsText c.type) t ∧ FieldIs "robot_id" (IsText c.robotId) t ∧ ParamsAre c.params t

def IsIceServer (c : IceServerConfig) (t : Yaml) : Prop :=
  FieldIs "urls" (IsListOf IsText c.urls) t ∧ FieldIs "username" (IsText c.username) t ∧
    FieldIs "credential" (IsText c.credential) t

def IsWebRtc (c : WebRtcConfig) (t : Yaml) : Prop :=
  FieldIs "ice_servers" (IsListOf IsIceServer c.iceServers) t

def IsServer (c : ServerConfig) (t : Yaml) : Prop :=
  FieldIs "ws_url" (IsText c.wsUrl) t ∧ FieldIs "auth" (IsAuth c.authConfig) t ∧
    FieldIs "webrtc" (IsWebRtc c.webrtcConfig) t

/-- The documented layout of a whole configuration. -/
def IsConfig (c : MosaicConfig) (t : Yaml) : Prop :=
  FieldIs "server" (IsServer c.server) t ∧ FieldIs "connectors" (IsListOf IsConnector c.connectors) t

/-! ## What the parsers read from a layout -/

theorem HasField.field {key : String} {y t : Yaml} (h : HasField key y t) : t.field key = some y := by
  obtain ⟨entries, rfl, hMem, hUnique⟩ := h
  exact Yaml.lookup_of_unique hMem hUnique

theorem LacksField.field {key : String} {t : Yaml} (h : LacksField key t) : t.field key = none := by
  obtain ⟨entries, rfl, hAbsent⟩ := h
  exact Yaml.lookup_of_absent hAbsent

/-- A tree with a field is no scalar, and neither is one that lacks it. -/
theorem FieldIs.ne_scalar {key : String} {IsValue : Yaml → Prop} {t : Yaml} (h : FieldIs key IsValue t)
    (text : String) : t ≠ .scalar text := by
  obtain ⟨y, ⟨entries, rfl, -, -⟩, -⟩ := h
  exact Yaml.noConfusion

variable {nullText : Option String}

/-- A text under a key is read whatever becomes of nulls. -/
theorem FieldIs.text {key text : String} {t : Yaml} (h : FieldIs key (IsText text) t) :
    ∃ y, t.field key = some y ∧ y.text nullText = some text := by
  obtain ⟨y, hField, rfl⟩ := h
  exact ⟨.scalar text, hField.field, rfl⟩

/-- A loop over a sequence meets, in order, what it was laid out for. -/
theorem IsListOf.looped {α : Type} {IsItem : α → Yaml → Prop} {Reads : Yaml → α → Prop} {xs : List α} {t : Yaml}
    (h : IsListOf IsItem xs t) (hItem : ∀ x t, IsItem x t → Reads t x) :
    ∃ ts, t.looped = some ts ∧ List.Forall₂ Reads ts xs := by
  obtain ⟨items, rfl, hItems⟩ := h
  exact ⟨items, rfl, (hItems.imp hItem).flip⟩

theorem parseParams_of_layout {m : OrderedMap String String} {t : Yaml} (h : ParamsAre m t)
    (hScalar : ∀ text, t ≠ .scalar text) : YamlConfigReader.parseParams nullText (some t) = .ok m := by
  refine YamlConfigReader.parseParams_ok_iff.mpr ⟨hScalar, ?_⟩
  rcases h with ⟨rfl, hLacks⟩ | ⟨y, hField, pairs, rfl, hPerm⟩
  · exact .inl ⟨hLacks.field, rfl⟩
  · refine .inr ⟨_, pairs, hField.field, ?_, OrderedMap.foldl_assign_perm hPerm⟩
    -- The loop meets the entries of the map one by one, each a pair of texts.
    simp only [YamlNode.items, List.map_map, List.forall₂_map_left_iff, List.forall₂_same]
    exact fun p _ => rfl

theorem parseConnectorConfig_of_layout {c : Configs.ConnectorConfig} {t : Yaml} (h : IsConnector c t) :
    YamlConfigReader.parseConnectorConfig nullText (some t) = .ok c := by
  obtain ⟨hType, hLabel, hParams⟩ := h
  exact YamlConfigReader.parseTextsAndParams_ok_iff.mpr
    ⟨c.type, c.label, c.params, hType.text, hLabel.text, parseParams_of_layout hParams hType.ne_scalar, rfl⟩

theorem parseAuthConfig_of_layout {c : AuthConfig} {t : Yaml} (h : IsAuth c t) :
    YamlConfigReader.parseAuthConfig nullText (some t) = .ok c := by
  obtain ⟨hType, hRobotId, hParams⟩ := h
  exact YamlConfigReader.parseTextsAndParams_ok_iff.mpr
    ⟨c.type, c.robotId, c.params, hType.text, hRobotId.text, parseParams_of_layout hParams hType.ne_scalar, rfl⟩

theorem parseIceServer_of_layout {c : IceServerConfig} {t : Yaml} (h : IsIceServer c t) :
    YamlConfigReader.parseIceServer nullText (some t) = .ok c := by
  obtain ⟨⟨y, hUrls, hList⟩, hUsername, hCredential⟩ := h
  refine YamlConfigReader.parseIceServer_ok_iff.mpr ⟨?_, hUsername.text, hCredential.text⟩
  have hUrl : ∀ url t, IsText url t → t.text nullText = some url := by
    rintro url _ rfl
    rfl
  obtain ⟨ts, hLooped, hTexts⟩ := hList.looped hUrl
  exact ⟨y, ts, hUrls.field, hLooped, hTexts⟩

theorem parseWebRtcConfig_of_layout {c : WebRtcConfig} {t : Yaml} (h : IsWebRtc c t) :
    YamlConfigReader.parseWebRtcConfig nullText (some t) = .ok c := by
  obtain ⟨y, hServers, hList⟩ := h
  obtain ⟨ts, hLooped, hAll⟩ := hList.looped fun _ _ => parseIceServer_of_layout
  exact YamlConfigReader.parseWebRtcConfig_ok_iff.mpr ⟨y, ts, hServers.field, hLooped, hAll⟩

theorem parseServerConfig_of_layout {c : ServerConfig} {t : Yaml} (h : IsServer c t) :
    YamlConfigReader.parseServerConfig nullText (some t) = .ok c := by
  obtain ⟨hWsUrl, ⟨a, hAuth, hAuthLayout⟩, w, hWebrtc, hWebrtcLayout⟩ := h
  exact YamlConfigReader.parseServerConfig_ok_iff.mpr
    ⟨hWsUrl.text, ⟨a, hAuth.field, parseAuthConfig_of_layout hAuthLayout⟩,
      w, hWebrtc.field, parseWebRtcConfig_of_layout hWebrtcLayout⟩

/-- Every tree that has the documented layout of a configuration is read as exactly that configuration. -/
theorem parseConnectorConfigs_of_layout (nullText : Option String) {c : MosaicConfig} {t : Yaml}
    (h : IsConfig c t) : YamlConfigReader.parseConnectorConfigs nullText (some t) = .ok c := by
  obtain ⟨⟨s, hServer, hServerLayout⟩, y, hConnectors, hList⟩ := h
  obtain ⟨ts, hLooped, hAll⟩ := hList.looped fun _ _ => parseConnectorConfig_of_layout
  exact YamlConfigReader.parseConnectorConfigs_ok_iff.mpr
    ⟨⟨s, hServer.field, parseServerConfig_of_layout hServerLayout⟩, y, ts, hConnectors.field, hLooped, hAll⟩

/-- A configuration with one server of each kind, one connector, and parameters for authentication only. -/
def sampleConfig : MosaicConfig where
  server := {
    wsUrl := "ws://localhost:8080"
    authConfig := {
      type := "basic"
      robotId := "robot123"
      params := ⟨[("key1", "value1"), ("key2", "value2")], by decide⟩ }
    webrtcConfig := {
      iceServers := [
        { urls := ["stun:a", "stun:b"], username := "", credential := "" },
        { urls := ["turn:c"], username := "turnuser", credential := "turncred" }] } }
  connectors := [{ type := "camera", label := "camera_dc", params := .empty }]

/-- The keys of `sampleConfig` in another order, with other keys between them. -/
def shuffledTree : Yaml :=
  .map [
    (.scalar "version", .scalar "2"),
    (.scalar "connectors", .sequence [
      .map [(.scalar "label", .scalar "camera_dc"), (.null, .null), (.scalar "type", .scalar "camera")]]),
    (.scalar "server", .map [
      (.scalar "webrtc", .map [
        (.scalar "ice_servers", .sequence [
          .map [(.scalar "credential", .scalar ""), (.scalar "username", .scalar ""),
            (.scalar "urls", .sequence [.scalar "stun:a", .scalar "stun:b"])],
          .map [(.scalar "username", .scalar "turnuser"), (.scalar "urls", .sequence [.scalar "turn:c"]),
            (.scalar "port", .sequence []), (.scalar "credential", .scalar "turncred")]])]),
      (.scalar "auth", .map [
        (.scalar "params", .map [(.scalar "key2", .scalar "value2"), (.scalar "key1", .scalar "value1")]),
        (.scalar "robot_id", .scalar "robot123"), (.scalar "type", .scalar "basic")]),
      (.scalar "ws_url", .scalar "ws://localhost:8080")])]

/-- A field is there if it is the only entry with its key. -/
theorem hasField_only {entries : List (Yaml × Yaml)} {key : String} {y : Yaml}
    (hOnly : entries.filter (fun e => e.1.isKey key) = [(.scalar key, y)]) : HasField key y (.map entries) := by
  refine ⟨entries, rfl, ?_, fun y' hMem => ?_⟩
  · exact (List.mem_filter.mp (hOnly ▸ List.mem_cons_self)).1
  · have hKey : (.scalar key, y') ∈ entries.filter fun e => e.1.isKey key :=
      List.mem_filter.mpr ⟨hMem, Yaml.isKey_iff.mpr rfl⟩
    rw [hOnly, List.mem_singleton] at hKey
    exact (Prod.mk.inj hKey).2

theorem isConfig_shuffled : IsConfig sampleConfig shuffledTree := by
  have hServer : FieldIs "server" (IsServer sampleConfig.server) shuffledTree :=
    ⟨_, hasField_only rfl, ⟨_, hasField_only rfl, rfl⟩,
      ⟨_, hasField_only rfl, ⟨_, hasField_only rfl, rfl⟩, ⟨_, hasField_only rfl, rfl⟩,
        .inr ⟨_, hasField_only rfl, [("key2", "value2"), ("key1", "value1")], rfl, .swap _ _ _⟩⟩,
      _, hasField_only rfl, _, hasField_only rfl, _, rfl,
        .cons ⟨⟨_, hasField_only rfl, _, rfl, .cons rfl (.cons rfl .nil)⟩, ⟨_, hasField_only rfl, rfl⟩,
            _, hasField_only rfl, rfl⟩
          (.cons ⟨⟨_, hasField_only rfl, _, rfl, .cons rfl .nil⟩, ⟨_, hasField_only rfl, rfl⟩,
            _, hasField_only rfl, rfl⟩ .nil)⟩
  refine ⟨hServer, _, hasField_only rfl, _, rfl, .cons ?_ .nil⟩
  exact ⟨⟨_, hasField_only rfl, rfl⟩, ⟨_, hasField_only rfl, rfl⟩, .inl ⟨rfl, _, rfl, by simp⟩⟩

theorem parseConnectorConfigs_of_layout_shuffled :
    YamlConfigReader.parseConnectorConfigs none (some shuffledTree) = .ok sampleConfig :=
  parseConnectorConfigs_of_layout none isConfig_shuffled

/-! ## A tree for every configuration -/

/-- A map from keys to trees, written in the order given. -/
def fields (fs : List (String × Yaml)) : Yaml := .map (fs.map fun f => (.scalar f.1, f.2))

/-- The `params` of a map, left out where there are none. -/
def paramFields (m : OrderedMap String String) : List (String × Yaml) :=
  if m.entries = [] then [] else [("params", fields (m.entries.map fun p => (p.1, .scalar p.2)))]

def connectorTree (c : Configs.ConnectorConfig) : Yaml :=
  fields ([("type", .scalar c.type), ("label", .scalar c.label)] ++ paramFields c.params)

def authTree (c : AuthConfig) : Yaml :=
  fields ([("type", .scalar c.type), ("robot_id", .scalar c.robotId)] ++ paramFields c.params)

def iceServerTree (c : IceServerConfig) : Yaml :=
  fields [("urls", .sequence (c.urls.map .scalar)), ("username", .scalar c.username),
    ("credential", .scalar c.credential)]

def serverTree (c : ServerConfig) : Yaml :=
  fields [("ws_url", .scalar c.wsUrl), ("auth", authTree c.authConfig),
    ("webrtc", fields [("ice_servers", .sequence (c.webrtcConfig.iceServers.map iceServerTree))])]

/-- The tree that a configuration is written as. -/
def configTree (c : MosaicConfig) : Yaml :=
  fields [("server", serverTree c.server), ("connectors", .sequence (c.connectors.map connectorTree))]

theorem hasField_fields {fs : List (String × Yaml)} {key : String} {y : Yaml} (hMem : (key, y) ∈ fs)
    (hKeys : (fs.map Prod.fst).Nodup) : HasField key y (fields fs) := by
  refine ⟨_, rfl, List.mem_map.mpr ⟨_, hMem, rfl⟩, fun y' hMem' => ?_⟩
  obtain ⟨⟨key', v⟩, hOther, hSame⟩ := List.mem_map.mp hMem'
  cases hSame
  exact (Prod.mk.inj (List.inj_on_of_nodup_map hKeys hOther hMem rfl)).2

theorem lacksField_fields {fs : List (String × Yaml)} {key : String} (hAbsent : key ∉ fs.map Prod.fst) :
    LacksField key (fields fs) := by
  refine ⟨_, rfl, fun y hMem => hAbsent ?_⟩
  obtain ⟨⟨key', _⟩, hMem', hSame⟩ := List.mem_map.mp hMem
  cases hSame
  exact List.mem_map_of_mem hMem'

theorem isListOf_sequence {α : Type} {IsItem : α → Yaml → Prop} {tree : α → Yaml} (xs : List α)
    (hItem : ∀ x, IsItem x (tree x)) : IsListOf IsItem xs (.sequence (xs.map tree)) :=
  ⟨_, rfl, List.forall₂_map_right_iff.mpr (List.forall₂_same.mpr fun x _ => hItem x)⟩

theorem nodup_keys_params {fs : List (String × Yaml)} (hKeys : (fs.map Prod.fst).Nodup)
    (hParams : "params" ∉ fs.map Prod.fst) (m : OrderedMap String String) :
    ((fs ++ paramFields m).map Prod.fst).Nodup := by
  by_cases hEmpty : m.entries = []
  · simpa [paramFields, hEmpty] using hKeys
  · simp only [paramFields, hEmpty, if_false, List.map_append, List.map_cons, List.map_nil]
    rw [← List.concat_eq_append]
    exact hKeys.concat hParams

/-- The parameters, written after other fields. -/
theorem paramsAre_fields {fs : List (String × Yaml)} (hKeys : (fs.map Prod.fst).Nodup)
    (hParams : "params" ∉ fs.map Prod.fst) (m : OrderedMap String String) :
    ParamsAre m (fields (fs ++ paramFields m)) := by
  by_cases hEmpty : m.entries = []
  · refine .inl ⟨?_, lacksField_fields (by simpa [paramFields, hEmpty] using hParams)⟩
    obtain ⟨es, hSorted⟩ := m
    cases hEmpty
    rfl
  · refine .inr ⟨fields (m.entries.map fun p => (p.1, .scalar p.2)),
      hasField_fields ?_ (nodup_keys_params hKeys hParams m), m.entries, ?_, .rfl⟩
    · simp [paramFields, hEmpty]
    · simp [fields, List.map_map, Function.comp_def]

/-- A field written before the parameters. -/
theorem hasField_before_params {fs : List (String × Yaml)} {key : String} {y : Yaml} (hMem : (key, y) ∈ fs)
    (hKeys : (fs.map Prod.fst).Nodup) (hParams : "params" ∉ fs.map Prod.fst) (m : OrderedMap String String) :
    HasField key y (fields (fs ++ paramFields m)) :=
  hasField_fields (List.mem_append_left _ hMem) (nodup_keys_params hKeys hParams m)

theorem isConnector_tree (c : Configs.ConnectorConfig) : IsConnector c (connectorTree c) := by
  refine ⟨⟨_, hasField_before_params ?_ ?_ ?_ _, rfl⟩, ⟨_, hasField_before_params ?_ ?_ ?_ _, rfl⟩,
    paramsAre_fields ?_ ?_ _⟩ <;> simp

theorem isAuth_tree (c : AuthConfig) : IsAuth c (authTree c) := by
  refine ⟨⟨_, hasField_before_params ?_ ?_ ?_ _, rfl⟩, ⟨_, hasField_before_params ?_ ?_ ?_ _, rfl⟩,
    paramsAre_fields ?_ ?_ _⟩ <;> simp

theorem isIceServer_tree (c : IceServerConfig) : IsIceServer c (iceServerTree c) := by
  refine ⟨⟨_, hasField_fields ?_ ?_, isListOf_sequence c.urls fun _ => rfl⟩, ⟨_, hasField_fields ?_ ?_, rfl⟩,
    _, hasField_fields ?_ ?_, rfl⟩ <;> simp

theorem isServer_tree (c : ServerConfig) : IsServer c (serverTree c) := by
  have hWebrtc : IsWebRtc c.webrtcConfig
      (fields [("ice_servers", .sequence (c.webrtcConfig.iceServers.map iceServerTree))]) :=
    ⟨_, hasField_fields (by simp) (by simp), isListOf_sequence _ isIceServer_tree⟩
  refine ⟨⟨_, hasField_fields ?_ ?_, rfl⟩, ⟨_, hasField_fields ?_ ?_, isAuth_tree c.authConfig⟩,
    _, hasField_fields ?_ ?_, hWebrtc⟩ <;> simp

/-- Every configuration has a tree with its layout. -/
theorem isConfig_tree (c : MosaicConfig) : IsConfig c (configTree c) := by
  refine ⟨⟨_, hasField_fields ?_ ?_, isServer_tree c.server⟩,
    _, hasField_fields ?_ ?_, isListOf_sequence c.connectors isConnector_tree⟩ <;> simp

end ConfigLayout

end MosaicCore
