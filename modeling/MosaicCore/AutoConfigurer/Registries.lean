import MosaicCore.AutoConfigurer.Configurers

/-!
# The two registries of handlers

Every handler that `ConfigureConnectors` gets is registered twice: with the connector, whose dictionary keeps
the handler it has under a name, and in a map of the `AutoConfigurer`, which takes the new one.  Here the
connectors all configure themselves and produce handlers, so that the loop comes down to the list of handlers
in the order they were produced; the rest is `Registration.agree_iff`.
-/

namespace MosaicCore

open EffectProgram Registration

/-- What a connector produces when nothing goes wrong. -/
inductive Output (δ μ : Type)
  | dataChannel (handler : δ)
  | multipleDataChannel (handlers : List δ)
  | mediaTrack (handler : μ)

namespace Output

variable {δ μ : Type}

/-- The pointers that the connector has then. -/
def configured : Output δ μ → Configured δ μ
  | .dataChannel handler => .dataChannel (some handler)
  | .multipleDataChannel handlers => .multipleDataChannel (handlers.map some)
  | .mediaTrack handler => .mediaTrack (some handler)

/-- The data channel handlers, in the order they are registered. -/
def dataChannels : Output δ μ → List δ
  | .dataChannel handler => [handler]
  | .multipleDataChannel handlers => handlers
  | .mediaTrack _ => []

/-- The media track handlers. -/
def mediaTracks : Output δ μ → List μ
  | .dataChannel _ => []
  | .multipleDataChannel _ => []
  | .mediaTrack handler => [handler]

end Output

namespace AutoConfigurer

variable {δ μ : Type} {getLabel : δ → String} {getTrackName : μ → String}

/-- An `AutoConfigurer` with its connectors resolved and nothing registered. -/
def fresh (connectors : List (ConfigurableConnector δ μ × ConnectorConfig)) : AutoConfigurer δ μ where
  configurableConnectors := connectors.map some

/-- The connectors produce the outputs. -/
def Produces (connectors : List (ConfigurableConnector δ μ × ConnectorConfig))
    (outputs : List (Output δ μ)) : Prop :=
  connectors.map (fun c => c.1.configure c.2) = outputs.map fun output => .ok output.configured

/-- Connectors that produce something are sound, and contribute what they produce. -/
theorem contributed_of_produces {connectors : List (ConfigurableConnector δ μ × ConnectorConfig)}
    {outputs : List (Output δ μ)} (hProduces : Produces connectors outputs) :
    (∀ connector ∈ connectors, isSound connector = true) ∧
      connectors.map contributed = outputs.map fun output => (output.dataChannels, output.mediaTracks) := by
  induction connectors generalizing outputs with
  | nil =>
      have hNone : outputs = [] := by simpa [Produces] using hProduces.symm
      simp [hNone]
  | cons connector connectors ih =>
      cases outputs with
      | nil => simp [Produces] at hProduces
      | cons output outputs =>
          simp only [Produces, List.map_cons, List.cons.injEq] at hProduces
          obtain ⟨hHead, hTail⟩ := hProduces
          obtain ⟨hSound, hContributed⟩ := ih hTail
          have hOutput : isSound connector = true ∧
              contributed connector = (output.dataChannels, output.mediaTracks) := by
            cases output <;> simp [isSound, contributed, hHead, Output.configured, Configured.isSound,
              Configured.dataChannels, Configured.mediaTracks, Output.dataChannels, Output.mediaTracks,
              List.reduceOption]
          constructor
          · intro c hMem
            rcases List.mem_cons.mp hMem with rfl | hLater
            · exact hOutput.1
            · exact hSound c hLater
          · rw [List.map_cons, List.map_cons, hOutput.2, hContributed]

variable (getLabel getTrackName) in
/-- `ConfigureConnectors` returns, with everything that was produced registered. -/
theorem configureConnectors_run {connectors : List (ConfigurableConnector δ μ × ConnectorConfig)}
    {outputs : List (Output δ μ)} (hProduces : Produces connectors outputs) :
    (configureConnectors getLabel getTrackName).run (fresh connectors) =
      .ok () (withHandlers getLabel getTrackName (fresh connectors)
        (outputs.flatMap Output.dataChannels) (outputs.flatMap Output.mediaTracks)) := by
  obtain ⟨hSound, hContributed⟩ := contributed_of_produces hProduces
  have hData : connectors.flatMap (fun c => (contributed c).1) = outputs.flatMap Output.dataChannels := by
    have hFirst := congrArg (fun pairs => (pairs.map Prod.fst).flatten) hContributed
    simpa [List.flatMap, Function.comp_def] using hFirst
  have hMedia : connectors.flatMap (fun c => (contributed c).2) = outputs.flatMap Output.mediaTracks := by
    have hSecond := congrArg (fun pairs => (pairs.map Prod.snd).flatten) hContributed
    simpa [List.flatMap, Function.comp_def] using hSecond
  rw [configureConnectors, EStateM.run_bind, EStateM.run_get, ← hData, ← hMedia]
  exact configureAll_run getLabel getTrackName hSound _

/-- The maps and the dictionaries of the connector hold the same handler objects under the same names. -/
def RegistriesAgree (a : AutoConfigurer δ μ) : Prop :=
  (∀ label, a.dcHandlerMap label = a.mosaicConnector.dataChannelHandlersDict.find? label) ∧
    ∀ trackName, a.mtHandlerMap trackName = a.mosaicConnector.mediaTrackHandlersDict.find? trackName

/-- **When the two registries agree.**  After `ConfigureConnectors` on a fresh `AutoConfigurer` the maps are
the dictionaries of the connector exactly if, for every label and every track name, the handler produced
first under it and the one produced last are the same object. -/
theorem registriesAgree_iff (getLabel : δ → String) (getTrackName : μ → String)
    {connectors : List (ConfigurableConnector δ μ × ConnectorConfig)} {outputs : List (Output δ μ)}
    (hProduces : Produces connectors outputs) :
    RegistriesAgree (finalState ((configureConnectors getLabel getTrackName).run (fresh connectors))) ↔
      (∀ label, first getLabel label (outputs.flatMap Output.dataChannels) =
        last getLabel label (outputs.flatMap Output.dataChannels)) ∧
      ∀ trackName, first getTrackName trackName (outputs.flatMap Output.mediaTracks) =
        last getTrackName trackName (outputs.flatMap Output.mediaTracks) := by
  rw [configureConnectors_run getLabel getTrackName hProduces, finalState_ok]
  exact and_congr (agree_iff _) (agree_iff _)

/-- With distinct labels and distinct track names the registries agree. -/
theorem registriesAgree_of_nodup {connectors : List (ConfigurableConnector δ μ × ConnectorConfig)}
    {outputs : List (Output δ μ)} (hProduces : Produces connectors outputs)
    (hLabels : ((outputs.flatMap Output.dataChannels).map getLabel).Nodup)
    (hTrackNames : ((outputs.flatMap Output.mediaTracks).map getTrackName).Nodup) :
    RegistriesAgree (finalState ((configureConnectors getLabel getTrackName).run (fresh connectors))) :=
  (registriesAgree_iff getLabel getTrackName hProduces).mpr
    ⟨first_eq_last_of_nodup hLabels, first_eq_last_of_nodup hTrackNames⟩

/-- A handler object: where it is, and its constant name. -/
structure HandlerObject where
  address : Nat
  name : String
  deriving DecidableEq

/-- Two `connection-check` entries; each makes objects of its own. -/
def twoChecks (label label' : String) :
    List (ConfigurableConnector HandlerObject HandlerObject × ConnectorConfig) :=
  [(connectionCheck (.mk 0) (.mk 1), { type := "connection-check", label := label }),
    (connectionCheck (.mk 2) (.mk 3), { type := "connection-check", label := label' })]

/-- What the two entries produce. -/
def twoChecksOutputs (label label' : String) : List (Output HandlerObject HandlerObject) :=
  [.multipleDataChannel [⟨0, label ++ "-receiver"⟩, ⟨1, label ++ "-sender"⟩],
    .multipleDataChannel [⟨2, label' ++ "-receiver"⟩, ⟨3, label' ++ "-sender"⟩]]

/-- Two entries with labels of their own. -/
theorem registriesAgree_iff_distinct :
    let outputs := twoChecksOutputs "left" "right"
    RegistriesAgree (finalState ((configureConnectors HandlerObject.name HandlerObject.name).run
        (fresh (twoChecks "left" "right")))) ↔
      (∀ label, first HandlerObject.name label (outputs.flatMap Output.dataChannels) =
        last HandlerObject.name label (outputs.flatMap Output.dataChannels)) ∧
      ∀ trackName, first HandlerObject.name trackName (outputs.flatMap Output.mediaTracks) =
        last HandlerObject.name trackName (outputs.flatMap Output.mediaTracks) :=
  registriesAgree_iff HandlerObject.name HandlerObject.name rfl

/-- With one label for both entries, the connector keeps the first sender and the map has the second. -/
theorem repeated_label_disagrees :
    let a := finalState ((configureConnectors HandlerObject.name HandlerObject.name).run
      (fresh (twoChecks "robot" "robot")))
    a.mosaicConnector.dataChannelHandlersDict.find? "robot-sender" = some ⟨1, "robot-sender"⟩ ∧
      a.dcHandlerMap "robot-sender" = some ⟨3, "robot-sender"⟩ ∧ ¬ RegistriesAgree a := by
  intro a
  have hKept : a.mosaicConnector.dataChannelHandlersDict.find? "robot-sender" =
      some ⟨1, "robot-sender"⟩ := by decide +kernel
  have hTaken : a.dcHandlerMap "robot-sender" = some ⟨3, "robot-sender"⟩ := by decide +kernel
  refine ⟨hKept, hTaken, fun hAgree => ?_⟩
  have hSame := hAgree.1 "robot-sender"
  rw [hKept, hTaken] at hSame
  exact absurd hSame (by decide)

end AutoConfigurer
end MosaicCore
