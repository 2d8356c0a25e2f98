import Mathlib.Data.List.Basic
import MosaicCore.Core.Lifecycle

/-!
# The ICE servers of a peer connection

`CreatePeerConnection` hands libwebrtc one server for each configured one, made by `GetIceServer`.  This file says
which configurations arrive intact: `iceServers_intact_iff`.
-/

namespace MosaicCore

open EffectProgram

/-- The url says by itself how the server is reached. -/
def hasScheme (url : String) : Bool :=
  ["stun:", "stuns:", "turn:", "turns:"].any fun scheme => scheme.toList.isPrefixOf url.toList

/-- The url with exactly one scheme: its own, or `turn:`. -/
def withScheme (url : String) : String :=
  if hasScheme url then url else "turn:" ++ url

/-- What libwebrtc should be given: every url, with the user name and credential of its server. -/
def IceServerConfig.wanted (config : IceServerConfig) : List (String × String × String) :=
  config.urls.map fun url => (withScheme url, config.username, config.credential)

/-- What libwebrtc is given. -/
def IceServer.given (server : IceServer) : List (String × String × String) :=
  server.urls.map fun url => (url, server.username, server.password)

/-- Every configured url arrives, in order, and no server is without urls. -/
def Intact (configs : List IceServerConfig) (servers : List IceServer) : Prop :=
  List.Sublist (configs.flatMap IceServerConfig.wanted) (servers.flatMap IceServer.given) ∧
    ∀ server ∈ servers, server.urls ≠ []

/-- A TURN server with all its settings, and urls without a scheme. -/
def IceServerConfig.Plain (config : IceServerConfig) : Prop :=
  config.urls ≠ [] ∧ config.username ≠ "" ∧ config.credential ≠ "" ∧ ∀ url ∈ config.urls, hasScheme url = false

/-! ## One server -/

/-- The urls as they are configured, with the settings of their server. -/
def IceServerConfig.configured (config : IceServerConfig) : List (String × String × String) :=
  config.urls.map fun url => (url, config.username, config.credential)

theorem wanted_eq (config : IceServerConfig) :
    config.wanted = config.configured.map fun (url, settings) => (withScheme url, settings) := by
  simp [IceServerConfig.wanted, IceServerConfig.configured]

/-- A server has urls exactly if no setting is missing. -/
theorem getIceServer_urls_ne_nil (config : IceServerConfig) :
    (getIceServer config).urls ≠ [] ↔ config.urls ≠ [] ∧ config.username ≠ "" ∧ config.credential ≠ "" := by
  unfold getIceServer
  split_ifs with hMissing
  · simp only [ne_eq, not_true, false_iff]
    tauto
  · simp only [ne_eq, List.map_eq_nil_iff]
    tauto

/-- And then all of its urls are prefixed. -/
theorem given_of_complete {config : IceServerConfig}
    (hComplete : config.urls ≠ [] ∧ config.username ≠ "" ∧ config.credential ≠ "") :
    (getIceServer config).given = config.configured.map fun (url, settings) => ("turn:" ++ url, settings) := by
  obtain ⟨hUrls, hUsername, hCredential⟩ := hComplete
  simp [getIceServer, hUrls, hUsername, hCredential, IceServer.given, IceServerConfig.configured]

/-- The prefix is what a url needs exactly if it has no scheme. -/
theorem withScheme_eq_turn (url : String) : withScheme url = "turn:" ++ url ↔ hasScheme url = false := by
  unfold withScheme
  split_ifs with hScheme
  · refine iff_of_false (fun hSame => ?_) (by simp [hScheme])
    have hLength := congrArg String.length hSame
    simp at hLength
  · simpa using hScheme

/-! ## All servers -/

/-- Where no setting is missing, what arrives is what is wanted exactly if no url has a scheme. -/
theorem sublist_iff_of_complete {configs : List IceServerConfig}
    (hComplete : ∀ config ∈ configs, config.urls ≠ [] ∧ config.username ≠ "" ∧ config.credential ≠ "") :
    List.Sublist (configs.flatMap IceServerConfig.wanted) ((configs.map getIceServer).flatMap IceServer.given) ↔
      ∀ config ∈ configs, ∀ url ∈ config.urls, hasScheme url = false := by
  have hWanted : configs.flatMap IceServerConfig.wanted =
      (configs.flatMap IceServerConfig.configured).map fun (url, settings) => (withScheme url, settings) := by
    rw [List.map_flatMap]
    exact List.flatMap_congr fun config _ => wanted_eq config
  have hGiven : (configs.map getIceServer).flatMap IceServer.given =
      (configs.flatMap IceServerConfig.configured).map fun (url, settings) => ("turn:" ++ url, settings) := by
    rw [List.map_flatMap, List.flatMap_map]
    exact List.flatMap_congr fun config hMem => given_of_complete (hComplete config hMem)
  have hSame : List.Sublist (configs.flatMap IceServerConfig.wanted)
      ((configs.map getIceServer).flatMap IceServer.given) ↔
        configs.flatMap IceServerConfig.wanted = (configs.map getIceServer).flatMap IceServer.given := by
    -- Both lists have one element for each url, so a part of the one that is the other is all of it.
    constructor
    · intro hSublist
      exact hSublist.eq_of_length (by rw [hWanted, hGiven, List.length_map, List.length_map])
    · intro hEq
      rw [hEq]
  rw [hSame, hWanted, hGiven, List.map_inj_left]
  simp only [List.mem_flatMap, IceServerConfig.configured, List.mem_map, Prod.mk.injEq, and_true]
  constructor
  · intro hAll config hConfig url hUrl
    exact (withScheme_eq_turn url).mp (hAll _ ⟨config, hConfig, url, hUrl, rfl⟩)
  · rintro hBare _ ⟨config, hConfig, url, hUrl, rfl⟩
    exact (withScheme_eq_turn url).mpr (hBare config hConfig url hUrl)

theorem intact_iff (configs : List IceServerConfig) :
    Intact configs (configs.map getIceServer) ↔ ∀ config ∈ configs, config.Plain := by
  have hUrls : (∀ server ∈ configs.map getIceServer, server.urls ≠ []) ↔
      ∀ config ∈ configs, config.urls ≠ [] ∧ config.username ≠ "" ∧ config.credential ≠ "" := by
    simp only [List.forall_mem_map, getIceServer_urls_ne_nil]
  constructor
  · rintro ⟨hSublist, hNonempty⟩ config hMem
    have hComplete := hUrls.mp hNonempty
    obtain ⟨hSome, hUsername, hCredential⟩ := hComplete config hMem
    exact ⟨hSome, hUsername, hCredential, (sublist_iff_of_complete hComplete).mp hSublist config hMem⟩
  · intro hPlain
    have hComplete : ∀ config ∈ configs, config.urls ≠ [] ∧ config.username ≠ "" ∧ config.credential ≠ "" :=
      fun config hMem => ⟨(hPlain config hMem).1, (hPlain config hMem).2.1, (hPlain config hMem).2.2.1⟩
    exact ⟨(sublist_iff_of_complete hComplete).mpr fun config hMem => (hPlain config hMem).2.2.2,
      hUrls.mpr hComplete⟩

/-! ## The configuration that libwebrtc is given -/

namespace World

variable {σ : Type}

/-- The servers of the last `CreatePeerConnectionOrError` call. -/
def configuredServers (calls : List RtcCall) : Option (List IceServer) :=
  (calls.filterMap fun call =>
    match call with
    | .createPeerConnectionOrError servers _ => some servers
    | _ => none).getLast?

/-- `CreatePeerConnection` asks for the servers that `GetIceServer` makes. -/
theorem configuredServers_createPeerConnection {w : World σ} (hFactory : w.manager.peerConnectionFactory = true)
    (created : Bool) :
    configuredServers (finalState ((createPeerConnection created).run w)).webrtc.calls =
      some (w.manager.iceServers.map getIceServer) := by
  cases created with
  | false => simp [createPeerConnection, hFactory, rtcCall, configuredServers, EStateM.run_bind]
  | true =>
      cases hPeer : w.manager.peerConnection <;>
        simp [createPeerConnection, hFactory, rtcCall, assignPeerConnection, hPeer, configuredServers, EStateM.run_bind]

/-- The configured ICE servers reach libwebrtc intact exactly if each of them has urls, a user name and a
credential, and no url that has a scheme of its own. -/
theorem iceServers_intact_iff (w : World σ) (hFactory : w.manager.peerConnectionFactory = true) (created : Bool) :
    (∃ servers, configuredServers (finalState ((createPeerConnection created).run w)).webrtc.calls = some servers ∧
        Intact w.manager.iceServers servers) ↔
      ∀ config ∈ w.manager.iceServers, config.Plain := by
  rw [configuredServers_createPeerConnection hFactory, ← intact_iff]
  simp

/-- A connector with a peer connection factory. -/
def withFactory (iceServers : List IceServerConfig) : World Unit :=
  let w := wired () (fun _ => .kConnecting) iceServers
  { w with manager := { w.manager with peerConnectionFactory := true } }

theorem iceServers_intact_turn :
    ∃ servers,
      configuredServers (finalState ((createPeerConnection true).run
        (withFactory [⟨["turn.example.com:3478"], "username", "password"⟩]))).webrtc.calls = some servers ∧
      Intact [⟨["turn.example.com:3478"], "username", "password"⟩] servers := by
  refine (iceServers_intact_iff (withFactory [⟨["turn.example.com:3478"], "username", "password"⟩]) rfl true).mpr ?_
  intro config hMem
  rw [List.mem_singleton.mp hMem]
  exact ⟨by decide, by decide, by decide, by decide⟩

/-- A STUN server, which has no user name and no credential, arrives as a server without urls. -/
theorem stun_server_emptied :
    ¬ ∀ (iceServers : List IceServerConfig) (created : Bool), ∃ servers,
      configuredServers (finalState ((createPeerConnection created).run (withFactory iceServers))).webrtc.calls =
        some servers ∧ Intact iceServers servers := by
  intro hAlways
  obtain ⟨servers, hServers, -, hUrls⟩ := hAlways [⟨["stun:stun.l.google.com:19302"], "", ""⟩] true
  rw [configuredServers_createPeerConnection rfl, Option.some.injEq] at hServers
  exact hUrls (getIceServer ⟨["stun:stun.l.google.com:19302"], "", ""⟩) (hServers ▸ List.mem_singleton_self _) rfl

end World

end MosaicCore
