import MosaicCore.AutoConfigurer.ConfigLayout

/-!
# Malformed configurations

The documented layout once more, this time as data: a shape says what stands under each key.  The places of a tree
that a shape speaks of can be at any depth.  A tree is malformed if something at one of them does not fit.

The parsers ask only whether a field is defined.  Lists are looped over without asking for their kind, and a loop over
a null or a scalar is over at once, so a missing list passes as an empty one.
-/

namespace MosaicCore

namespace MalformedConfigs

open YamlConfigReader ThrowingSteps

/-! ## Shapes -/

/-- What is to stand somewhere in a configuration. -/
inductive Shape
  | text
  | list (item : Shape)
  /-- A part with its own fields. -/
  | part (fields : List (String × Shape))
  /-- The optional `params`. -/
  | params

namespace Shape

def connector : Shape := .part [("type", .text), ("label", .text), ("params", .params)]

def auth : Shape := .part [("type", .text), ("robot_id", .text), ("params", .params)]

def iceServer : Shape := .part [("urls", .list .text), ("username", .text), ("credential", .text)]

def webRtc : Shape := .part [("ice_servers", .list iceServer)]

def server : Shape := .part [("ws_url", .text), ("auth", auth), ("webrtc", webRtc)]

def config : Shape := .part [("server", server), ("connectors", .list connector)]

/-- What stands there is neither missing nor null, a text is a scalar, and a list is a sequence. -/
def Fits : Shape → Option Yaml → Prop
  | .text, v => ∃ text, v = some (.scalar text)
  | .list _, v => ∃ items, v = some (.sequence items)
  | .part _, v => ∃ y, v = some y ∧ y ≠ .null
  | .params, _ => True

/-- The loops and conversions of the parsers take what stands there. -/
def Passes (nullText : Option String) : Shape → Option Yaml → Prop
  | .text, v => ∃ y text, v = some y ∧ y.text nullText = some text
  | .list _, v => ∃ y items, v = some y ∧ y.looped = some items
  | .part _, v => ∃ y, v = some y
  | .params, some (.sequence items) => items = []
  | .params, some (.map entries) =>
      ∀ e ∈ entries, (∃ key, e.1.text nullText = some key) ∧ ∃ value, e.2.text nullText = some value
  | .params, _ => True

end Shape

/-- What passes although it does not fit: a null text where a null has one, a null part, which then lacks the fields
it needs, and a list that is looped over without an item. -/
theorem Shape.passes_misfit_iff {nullText : Option String} {s : Shape} {v : Option Yaml} :
    s.Passes nullText v ∧ ¬ s.Fits v ↔
      match s with
      | .text => v = some .null ∧ nullText ≠ none
      | .list _ => v = some .null ∨ (∃ text, v = some (.scalar text)) ∨ v = some (.map [])
      | .part _ => v = some .null
      | .params => False := by
  cases s with
  | text =>
      rcases v with _ | (_ | text | items | entries) <;> simp [Passes, Fits, Yaml.text, Option.ne_none_iff_exists']
  | list item =>
      rcases v with _ | (_ | text | items | (_ | ⟨e, rest⟩)) <;> simp [Passes, Fits, Yaml.looped]
  | part fields =>
      rcases v with _ | (_ | text | items | entries) <;> simp [Passes, Fits]
  | params => simp [Fits]

/-- The places that a shape speaks of: what is to stand there, and what does. -/
inductive Place : Shape → Option Yaml → Shape → Option Yaml → Prop
  | here (s : Shape) (v : Option Yaml) : Place s v s v
  | field {fields : List (String × Shape)} {key : String} {s s' : Shape} {t : Yaml} {v : Option Yaml}
      (hField : (key, s) ∈ fields) (hBelow : Place s (t.field key) s' v) : Place (.part fields) (some t) s' v
  | item {items : List Yaml} {s s' : Shape} {t : Yaml} {v : Option Yaml} (hItem : t ∈ items)
      (hBelow : Place s (some t) s' v) : Place (.list s) (some (.sequence items)) s' v

/-- At some place, at any depth, a required field is missing or null, a text is no scalar, or a list no sequence. -/
def Malformed (t : Yaml) : Prop := ∃ s v, Place .config (some t) s v ∧ ¬ s.Fits v

/-! ## A tree with the documented layout -/

section Layout

open ConfigLayout Configs

/-- Everything that a shape speaks of fits. -/
def Fitting (s : Shape) (v : Option Yaml) : Prop := ∀ s' v', Place s v s' v' → s'.Fits v'

theorem fitting_text {text : String} {t : Yaml} (h : IsText text t) : Fitting .text (some t) := by
  rintro _ _ ⟨⟩
  exact ⟨text, congrArg some h⟩

theorem fitting_params (v : Option Yaml) : Fitting .params v := by
  rintro _ _ ⟨⟩
  trivial

theorem fitting_field {key : String} {IsValue : Yaml → Prop} {s : Shape} {t : Yaml} (h : FieldIs key IsValue t)
    (hValue : ∀ y, IsValue y → Fitting s (some y)) : Fitting s (t.field key) := by
  obtain ⟨y, hField, hIs⟩ := h
  rw [hField.field]
  exact hValue y hIs

theorem fitting_part {fields : List (String × Shape)} {key : String} {IsValue : Yaml → Prop} {t : Yaml}
    (hMap : FieldIs key IsValue t) (hFields : ∀ f ∈ fields, Fitting f.2 (t.field f.1)) :
    Fitting (.part fields) (some t) := by
  rintro s v (_ | ⟨hField, hBelow⟩ | _)
  · obtain ⟨y, ⟨entries, rfl, -, -⟩, -⟩ := hMap
    exact ⟨_, rfl, Yaml.noConfusion⟩
  · exact hFields _ hField s v hBelow

theorem fitting_list {α : Type} {IsItem : α → Yaml → Prop} {s : Shape} {xs : List α} {t : Yaml}
    (h : IsListOf IsItem xs t) (hItem : ∀ x t, IsItem x t → Fitting s (some t)) : Fitting (.list s) (some t) := by
  obtain ⟨items, rfl, hItems⟩ := h
  rintro s' v' (_ | _ | ⟨hMem, hBelow⟩)
  · exact ⟨items, rfl⟩
  · obtain ⟨x, hX⟩ := exists_of_forall₂_right hItems hMem
    exact hItem x _ hX s' v' hBelow

theorem fitting_connector {c : Configs.ConnectorConfig} {t : Yaml} (h : IsConnector c t) :
    Fitting .connector (some t) := by
  refine fitting_part h.1 ?_
  simp only [List.forall_mem_cons]
  exact ⟨fitting_field h.1 fun _ => fitting_text, fitting_field h.2.1 fun _ => fitting_text, fitting_params _, by simp⟩

theorem fitting_auth {c : AuthConfig} {t : Yaml} (h : IsAuth c t) : Fitting .auth (some t) := by
  refine fitting_part h.1 ?_
  simp only [List.forall_mem_cons]
  exact ⟨fitting_field h.1 fun _ => fitting_text, fitting_field h.2.1 fun _ => fitting_text, fitting_params _, by simp⟩

theorem fitting_iceServer {c : IceServerConfig} {t : Yaml} (h : IsIceServer c t) : Fitting .iceServer (some t) := by
  refine fitting_part h.1 ?_
  simp only [List.forall_mem_cons]
  exact ⟨fitting_field h.1 fun _ hUrls => fitting_list hUrls fun _ _ => fitting_text,
    fitting_field h.2.1 fun _ => fitting_text, fitting_field h.2.2 fun _ => fitting_text, by simp⟩

theorem fitting_webRtc {c : WebRtcConfig} {t : Yaml} (h : IsWebRtc c t) : Fitting .webRtc (some t) := by
  refine fitting_part h ?_
  simp only [List.forall_mem_singleton]
  exact fitting_field h fun _ hServers => fitting_list hServers fun _ _ => fitting_iceServer

theorem fitting_server {c : ServerConfig} {t : Yaml} (h : IsServer c t) : Fitting .server (some t) := by
  refine fitting_part h.1 ?_
  simp only [List.forall_mem_cons]
  exact ⟨fitting_field h.1 fun _ => fitting_text, fitting_field h.2.1 fun _ => fitting_auth,
    fitting_field h.2.2 fun _ => fitting_webRtc, by simp⟩

/-- The two accounts of the layout agree: a tree that is laid out for a configuration is not malformed. -/
theorem not_malformed_of_layout {c : MosaicConfig} {t : Yaml} (h : IsConfig c t) : ¬ Malformed t := by
  have hFitting : Fitting .config (some t) := by
    refine fitting_part h.1 ?_
    simp only [List.forall_mem_cons]
    exact ⟨fitting_field h.1 fun _ => fitting_server,
      fitting_field h.2 fun _ hConnectors => fitting_list hConnectors fun _ _ => fitting_connector, by simp⟩
  rintro ⟨s, v, hPlace, hMisfit⟩
  exact hMisfit (hFitting s v hPlace)

end Layout

/-! ## What the parsers let pass -/

variable {nullText : Option String}

/-- Everything that a shape speaks of passes. -/
def Passing (nullText : Option String) (s : Shape) (v : Option Yaml) : Prop :=
  ∀ s' v', Place s v s' v' → s'.Passes nullText v'

theorem passing_text {v : Option Yaml} :
    Passing nullText .text v ↔ ∃ y, v = some y ∧ ∃ text, y.text nullText = some text := by
  constructor
  · intro h
    obtain ⟨y, text, hValue, hText⟩ := h _ _ (.here _ _)
    exact ⟨y, hValue, text, hText⟩
  · rintro ⟨y, hValue, text, hText⟩ _ _ ⟨⟩
    exact ⟨y, text, hValue, hText⟩

theorem passing_params {v : Option Yaml} : Passing nullText .params v ↔ Shape.params.Passes nullText v := by
  constructor
  · intro h
    exact h _ _ (.here _ _)
  · rintro h _ _ ⟨⟩
    exact h

theorem passing_part {fields : List (String × Shape)} {v : Option Yaml} :
    Passing nullText (.part fields) v ↔ ∃ y, v = some y ∧ ∀ f ∈ fields, Passing nullText f.2 (y.field f.1) := by
  constructor
  · intro h
    obtain ⟨y, rfl⟩ := h _ _ (.here _ _)
    exact ⟨y, rfl, fun f hField s' v' hBelow => h s' v' (.field hField hBelow)⟩
  · rintro ⟨y, rfl, h⟩ s' v' (_ | ⟨hField, hBelow⟩ | _)
    · exact ⟨y, rfl⟩
    · exact h _ hField s' v' hBelow

theorem passing_list {s : Shape} {v : Option Yaml} :
    Passing nullText (.list s) v ↔
      ∃ y, v = some y ∧ ∃ items, y.looped = some items ∧ ∀ t ∈ items, Passing nullText s (some t) := by
  constructor
  · intro h
    obtain ⟨y, items, rfl, hLooped⟩ := h _ _ (.here _ _)
    refine ⟨y, rfl, items, hLooped, fun t hItem s' v' hBelow => h s' v' ?_⟩
    -- Only a loop over a sequence meets anything.
    cases y with
    | sequence _ =>
        cases hLooped
        exact .item hItem hBelow
    | map entries =>
        cases entries with
        | nil => cases hLooped; cases hItem
        | cons e rest => cases hLooped
    | null => cases hLooped; cases hItem
    | scalar _ => cases hLooped; cases hItem
  · rintro ⟨y, rfl, items, hLooped, h⟩ s' v' (_ | _ | ⟨hItem, hBelow⟩)
    · exact ⟨y, items, rfl, hLooped⟩
    · cases hLooped
      exact h _ hItem s' v' hBelow

/-! ## When the parsers return -/

theorem parseParam_returns_iff {key value : Yaml} :
    (∃ p, parseParam nullText { first := some key, second := some value } = .ok p) ↔
      (∃ text, key.text nullText = some text) ∧ ∃ text, value.text nullText = some text := by
  simp only [parseParam, bind_eq_ok_iff, YamlNode.asString_some_iff]
  constructor
  · rintro ⟨p, v, hValue, k, hKey, -⟩
    exact ⟨⟨k, hKey⟩, v, hValue⟩
  · rintro ⟨⟨k, hKey⟩, v, hValue⟩
    exact ⟨(k, v), v, hValue, k, hKey, rfl⟩

/-- From the items of a sequence no parameter is read. -/
theorem parseParam_node (t : Yaml) (p : String × String) : parseParam nullText { node := some t } ≠ .ok p := by
  simp [parseParam, YamlNode.asString, bind, Except.bind]

theorem parseParams_returns_iff_items {t : Yaml} (hScalar : ∀ text, t ≠ .scalar text) :
    (∃ m, parseParams nullText (some t) = .ok m) ↔
      ∀ y, t.field "params" = some y → ∀ item ∈ YamlNode.items (some y), ∃ p, parseParam nullText item = .ok p := by
  simp only [parseParams_ok_iff]
  constructor
  · rintro ⟨m, -, ⟨hField, -⟩ | ⟨params, pairs, hField, hPairs, -⟩⟩ y hSome
    · rw [hField] at hSome
      cases hSome
    · rw [hField] at hSome
      cases hSome
      exact exists_forall₂_iff.mp ⟨pairs, hPairs⟩
  · intro hItems
    cases hField : t.field "params" with
    | none => exact ⟨.empty, hScalar, .inl ⟨rfl, rfl⟩⟩
    | some y =>
        obtain ⟨pairs, hPairs⟩ := exists_forall₂_iff.mpr (hItems y hField)
        exact ⟨_, hScalar, .inr ⟨y, pairs, rfl, hPairs, rfl⟩⟩

/-- A loop reads every parameter under `params` if that is nothing to loop over, or a map of texts. -/
theorem items_read_iff {y : Yaml} :
    (∀ item ∈ YamlNode.items (some y), ∃ p, parseParam nullText item = .ok p) ↔
      Shape.params.Passes nullText (some y) := by
  cases y with
  | null => simp [Shape.Passes, YamlNode.items]
  | scalar text => simp [Shape.Passes, YamlNode.items]
  | sequence items =>
      cases items with
      | nil => simp [Shape.Passes, YamlNode.items]
      | cons t rest => simp [Shape.Passes, YamlNode.items, parseParam_node]
  | map entries =>
      simp only [YamlNode.items, List.forall_mem_map, parseParam_returns_iff]
      rfl

theorem parseParams_returns_iff {t : Yaml} (hScalar : ∀ text, t ≠ .scalar text) :
    (∃ m, parseParams nullText (some t) = .ok m) ↔ Passing nullText .params (t.field "params") := by
  rw [parseParams_returns_iff_items hScalar, passing_params]
  simp only [items_read_iff]
  cases t.field "params" with
  | none => simp [Shape.Passes]
  | some y => simp

/-- A part with two texts and parameters is read if the three pass. -/
theorem parseTextsAndParams_returns_iff {α : Type} {t : Yaml} {first second : String × String}
    {build : String → String → OrderedMap String String → α} :
    (∃ c, parseTextsAndParams nullText (some t) first second build = .ok c) ↔
      Passing nullText (.part [(first.1, .text), (second.1, .text), ("params", .params)]) (some t) := by
  simp only [parseTextsAndParams_ok_iff, passing_part, List.forall_mem_cons, passing_text, Option.some.injEq,
    exists_eq_left']
  constructor
  · rintro ⟨c, a, b, m, ⟨y, hFirst, hFirstText⟩, ⟨z, hSecond, hSecondText⟩, hParams, -⟩
    have hScalar := (parseParams_ok_iff.mp hParams).1
    exact ⟨⟨y, hFirst, a, hFirstText⟩, ⟨z, hSecond, b, hSecondText⟩,
      (parseParams_returns_iff hScalar).mp ⟨m, hParams⟩, by simp⟩
  · rintro ⟨⟨y, hFirst, a, hFirstText⟩, ⟨z, hSecond, b, hSecondText⟩, hPassing, -⟩
    have hScalar : ∀ text, t ≠ .scalar text := by
      rintro text rfl
      cases hFirst
    obtain ⟨m, hParams⟩ := (parseParams_returns_iff hScalar).mpr hPassing
    exact ⟨_, a, b, m, ⟨y, hFirst, hFirstText⟩, ⟨z, hSecond, hSecondText⟩, hParams, rfl⟩

theorem parseConnectorConfig_returns_iff {t : Yaml} :
    (∃ c, parseConnectorConfig nullText (some t) = .ok c) ↔ Passing nullText .connector (some t) :=
  parseTextsAndParams_returns_iff

theorem parseAuthConfig_returns_iff {t : Yaml} :
    (∃ c, parseAuthConfig nullText (some t) = .ok c) ↔ Passing nullText .auth (some t) :=
  parseTextsAndParams_returns_iff

/-- A list of which every item is read. -/
theorem passing_list_of {α : Type} {s : Shape} {read : Yaml → α → Prop} {v : Option Yaml}
    (hItem : ∀ t, (∃ a, read t a) ↔ Passing nullText s (some t)) :
    Passing nullText (.list s) v ↔
      ∃ xs y items, v = some y ∧ y.looped = some items ∧ List.Forall₂ read items xs := by
  simp only [passing_list, ← hItem, ← exists_forall₂_iff]
  constructor
  · rintro ⟨y, hValue, items, hLooped, xs, hAll⟩
    exact ⟨xs, y, items, hValue, hLooped, hAll⟩
  · rintro ⟨xs, y, items, hValue, hLooped, hAll⟩
    exact ⟨y, hValue, items, hLooped, xs, hAll⟩

/-- A part that is read. -/
theorem passing_part_of {α : Type} {s : Shape} {read : Yaml → α → Prop} {v : Option Yaml}
    (hPart : ∀ t, (∃ a, read t a) ↔ Passing nullText s (some t)) (hShape : ∃ fields, s = .part fields) :
    Passing nullText s v ↔ ∃ a y, v = some y ∧ read y a := by
  obtain ⟨fields, rfl⟩ := hShape
  cases v with
  | none => simp [passing_part]
  | some y => simp [← hPart]

theorem parseIceServer_returns_iff {t : Yaml} :
    (∃ c, parseIceServer nullText (some t) = .ok c) ↔ Passing nullText .iceServer (some t) := by
  have hUrl : ∀ t : Yaml, (∃ url, t.text nullText = some url) ↔ Passing nullText .text (some t) := by
    intro t
    simp [passing_text]
  simp only [Shape.iceServer, passing_part, List.forall_mem_cons, passing_text, passing_list_of hUrl,
    parseIceServer_ok_iff, Option.some.injEq, exists_eq_left']
  constructor
  · rintro ⟨c, ⟨y, items, hUrls, hLooped, hTexts⟩, ⟨z, hUsername, hUsernameText⟩, w, hCredential, hCredentialText⟩
    exact ⟨⟨_, y, items, hUrls, hLooped, hTexts⟩, ⟨z, hUsername, _, hUsernameText⟩,
      ⟨w, hCredential, _, hCredentialText⟩, by simp⟩
  · rintro ⟨⟨urls, hUrls⟩, ⟨z, hUsername, username, hUsernameText⟩, ⟨w, hCredential, credential, hCredentialText⟩, -⟩
    exact ⟨⟨urls, username, credential⟩, hUrls, ⟨z, hUsername, hUsernameText⟩, w, hCredential, hCredentialText⟩

theorem parseWebRtcConfig_returns_iff {t : Yaml} :
    (∃ c, parseWebRtcConfig nullText (some t) = .ok c) ↔ Passing nullText .webRtc (some t) := by
  simp only [Shape.webRtc, passing_part, List.forall_mem_singleton,
    passing_list_of fun _ => parseIceServer_returns_iff, parseWebRtcConfig_ok_iff, Option.some.injEq, exists_eq_left']
  constructor
  · rintro ⟨c, hServers⟩
    exact ⟨_, hServers⟩
  · rintro ⟨servers, hServers⟩
    exact ⟨⟨servers⟩, hServers⟩

theorem parseServerConfig_returns_iff {t : Yaml} :
    (∃ c, parseServerConfig nullText (some t) = .ok c) ↔ Passing nullText .server (some t) := by
  rw [Shape.server, passing_part]
  simp only [List.forall_mem_cons, passing_text, passing_part_of (fun _ => parseAuthConfig_returns_iff) ⟨_, rfl⟩,
    passing_part_of (fun _ => parseWebRtcConfig_returns_iff) ⟨_, rfl⟩, parseServerConfig_ok_iff, Option.some.injEq,
    exists_eq_left']
  constructor
  · rintro ⟨c, ⟨y, hWsUrl, hWsUrlText⟩, hAuth, hWebrtc⟩
    exact ⟨⟨y, hWsUrl, _, hWsUrlText⟩, ⟨_, hAuth⟩, ⟨_, hWebrtc⟩, by simp⟩
  · rintro ⟨⟨y, hWsUrl, wsUrl, hWsUrlText⟩, ⟨authConfig, hAuth⟩, ⟨webrtcConfig, hWebrtc⟩, -⟩
    exact ⟨⟨wsUrl, authConfig, webrtcConfig⟩, ⟨y, hWsUrl, hWsUrlText⟩, hAuth, hWebrtc⟩

/-- A tree is read as a configuration exactly when everything in its layout passes. -/
theorem parseConnectorConfigs_returns_iff {t : Yaml} :
    (∃ c, parseConnectorConfigs nullText (some t) = .ok c) ↔ Passing nullText .config (some t) := by
  rw [Shape.config, passing_part]
  simp only [List.forall_mem_cons, passing_part_of (fun _ => parseServerConfig_returns_iff) ⟨_, rfl⟩,
    passing_list_of fun _ => parseConnectorConfig_returns_iff, parseConnectorConfigs_ok_iff, Option.some.injEq,
    exists_eq_left']
  constructor
  · rintro ⟨c, hServer, hConnectors⟩
    exact ⟨⟨_, hServer⟩, ⟨_, hConnectors⟩, by simp⟩
  · rintro ⟨⟨server, hServer⟩, ⟨connectors, hConnectors⟩, -⟩
    exact ⟨⟨server, connectors⟩, hServer, hConnectors⟩

/-! ## Malformed trees -/

/-- Reading a malformed tree throws, from the tree and from a file alike, and the configuration that was there
stays. -/
def RejectsMalformed (nullText : Option String) (t : Yaml) : Prop :=
  Malformed t →
    (∃ e, parseConnectorConfigs nullText (some t) = .error e) ∧
      ∀ (loadFile : String → Except ReadError Yaml) (registered : List (Option ConfigReader)) (path : String)
        (a : ConfigReading), loadFile path = .ok t →
          extractFileExtension path = "yaml" ∨ extractFileExtension path = "yml" →
            ∃ e a', (readConfigs (some (yamlConfigReader nullText loadFile) :: registered) path).run a = .error e a' ∧
              a'.mosaicConfig = a.mosaicConfig

/-- The parsers throw exactly when something at a place of the layout does not pass. -/
theorem parseConnectorConfigs_throws_iff {t : Yaml} :
    (∃ e, parseConnectorConfigs nullText (some t) = .error e) ↔
      ∃ s v, Place .config (some t) s v ∧ ¬ s.Passes nullText v := by
  have hThrows : (∃ e, parseConnectorConfigs nullText (some t) = .error e) ↔
      ¬ ∃ c, parseConnectorConfigs nullText (some t) = .ok c := by
    cases parseConnectorConfigs nullText (some t) with
    | ok c => simp
    | error e => simp
  rw [hThrows, parseConnectorConfigs_returns_iff]
  simp only [Passing, not_forall, exists_prop]

/-- Where the parsers throw, `ReadConfigs` throws, and keeps the configuration it had. -/
theorem readConfigs_throws {t : Yaml} {e : ReadError} (hThrows : parseConnectorConfigs nullText (some t) = .error e)
    {loadFile : String → Except ReadError Yaml} {registered : List (Option ConfigReader)} {path : String}
    (hLoaded : loadFile path = .ok t)
    (hExtension : extractFileExtension path = "yaml" ∨ extractFileExtension path = "yml") (a : ConfigReading) :
    (readConfigs (some (yamlConfigReader nullText loadFile) :: registered) path).run a =
      .error e { a with configReader := some (yamlConfigReader nullText loadFile) } := by
  have hLoads : (yamlConfigReader nullText loadFile).loadConfigs path = .error e := by
    simp only [yamlConfigReader, hLoaded]
    exact hThrows
  rw [readConfigs_run (getConfigReader_yaml hExtension), hLoads]

/-- A malformed tree is rejected exactly when some place in it has what no loop and no conversion takes. -/
theorem rejectsMalformed_iff (nullText : Option String) (t : Yaml) :
    RejectsMalformed nullText t ↔
      (Malformed t → ∃ s v, Place .config (some t) s v ∧ ¬ s.Passes nullText v) := by
  constructor
  · intro h hMalformed
    exact parseConnectorConfigs_throws_iff.mp (h hMalformed).1
  · intro h hMalformed
    obtain ⟨e, hThrows⟩ := parseConnectorConfigs_throws_iff.mpr (h hMalformed)
    exact ⟨⟨e, hThrows⟩, fun loadFile registered path a hLoaded hExtension =>
      ⟨e, _, readConfigs_throws hThrows hLoaded hExtension a, rfl⟩⟩

/-- A document whose `connectors` has nothing under it. -/
def emptyConnectors : Yaml :=
  .map [
    (.scalar "server", .map [
      (.scalar "ws_url", .scalar "ws://localhost:8080"),
      (.scalar "auth", .map [(.scalar "type", .scalar "basic"), (.scalar "robot_id", .scalar "robot123")]),
      (.scalar "webrtc", .map [(.scalar "ice_servers", .sequence [])])]),
    (.scalar "connectors", .null)]

/-- It is malformed, and read as a configuration without connectors. -/
theorem empty_connectors_accepted : ¬ RejectsMalformed none emptyConnectors := by
  intro h
  have hPlace : Place .config (some emptyConnectors) (.list .connector) (some .null) :=
    .field (List.mem_cons_of_mem _ List.mem_cons_self) (.here _ _)
  have hMisfit : ¬ (Shape.list .connector).Fits (some .null) := by
    rintro ⟨items, hSequence⟩
    cases hSequence
  obtain ⟨⟨e, hThrows⟩, -⟩ := h ⟨_, _, hPlace, hMisfit⟩
  cases hThrows

end MalformedConfigs

end MosaicCore
