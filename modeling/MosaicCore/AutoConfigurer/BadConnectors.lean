import MosaicCore.AutoConfigurer.Configurers

/-!
# Configurations with bad entries

`ResolveConnectors` logs and passes over an entry of an unsupported type, an entry whose factory makes nothing
and an entry that does not validate.  `ConfigureConnectors` passes over a null `handler_` of an
`ADCHandlerConfigurer`; it catches nothing that `Configure` throws, and uses every other handler pointer
unchecked.

Both runs that are compared come down to the same lists: what an entry contributes does not depend on the
other entries, and a bad entry contributes nothing.  So they end alike exactly if the run over all entries
ends at all.
-/

namespace MosaicCore

open EffectProgram Registration

variable {δ μ : Type}

namespace ConnectorEntry

/-- The connector that `ResolveConnectors` keeps for an entry, with its configuration. -/
def admitted (isSupportedType : String → Bool) (entry : ConnectorEntry δ μ) :
    Option (ConfigurableConnector δ μ × ConnectorConfig) :=
  if ¬ isSupportedType entry.config.type then none
  else
    match entry.connector with
    | none => none
    | some connector =>
        match connector.validateConfig entry.config with
        | .error _ => none
        | .ok () => some (connector, entry.config)

/-- What is kept is what the factory made. -/
theorem connector_of_admitted {isSupportedType : String → Bool} {entry : ConnectorEntry δ μ}
    {connector : ConfigurableConnector δ μ × ConnectorConfig}
    (hAdmitted : entry.admitted isSupportedType = some connector) : entry.connector = some connector.1 := by
  unfold admitted at hAdmitted
  split at hAdmitted
  · cases hAdmitted
  · cases hMade : entry.connector with
    | none => simp [hMade] at hAdmitted
    | some made =>
        cases hValid : made.validateConfig entry.config with
        | error what => simp [hMade, hValid] at hAdmitted
        | ok u =>
            simp only [hMade, hValid, Option.some.injEq] at hAdmitted
            rw [← hAdmitted]

/-- The entry is bad: it is not admitted, or its `Configure` throws, or it leaves its handler null. -/
def isBad (isSupportedType : String → Bool) (entry : ConnectorEntry δ μ) : Bool :=
  match entry.admitted isSupportedType with
  | none => true
  | some (connector, config) =>
      match connector.configure config with
      | .error _ => true
      | .ok (.dataChannel handler) => handler.isNone
      | .ok (.mediaTrack handler) => handler.isNone
      | .ok _ => false

/-- The entry with the null elements of its handler list taken out. -/
def withoutNulls (entry : ConnectorEntry δ μ) : ConnectorEntry δ μ where
  config := entry.config
  connector := entry.connector.map fun connector =>
    { connector with
      configure := fun config =>
        match connector.configure config with
        | .ok (.multipleDataChannel handlers) =>
            .ok (.multipleDataChannel (handlers.filter Option.isSome))
        | result => result }

/-- The entries that are not bad, without null elements. -/
def withoutBad (isSupportedType : String → Bool) (entries : List (ConnectorEntry δ μ)) :
    List (ConnectorEntry δ μ) :=
  (entries.filter fun entry => !entry.isBad isSupportedType).map withoutNulls

/-- An admitted entry configures itself without throwing, and leaves no null pointer but in the `handler_`
of an `ADCHandlerConfigurer`. -/
def isTolerated (isSupportedType : String → Bool) (entry : ConnectorEntry δ μ) : Bool :=
  match entry.admitted isSupportedType with
  | none => true
  | some (connector, config) =>
      match connector.configure config with
      | .error _ => false
      | .ok (.multipleDataChannel handlers) => handlers.all Option.isSome
      | .ok (.mediaTrack handler) => handler.isSome
      | .ok _ => true

/-- What an entry contributes: nothing if it is not admitted. -/
def contributed (isSupportedType : String → Bool) (entry : ConnectorEntry δ μ) : List δ × List μ :=
  match entry.admitted isSupportedType with
  | none => ([], [])
  | some connector => AutoConfigurer.contributed connector

variable {isSupportedType : String → Bool}

theorem isTolerated_eq (entry : ConnectorEntry δ μ) :
    entry.isTolerated isSupportedType =
      ((entry.admitted isSupportedType).all AutoConfigurer.isSound) := by
  unfold isTolerated
  cases entry.admitted isSupportedType with
  | none => rfl
  | some connector =>
      obtain ⟨connector, config⟩ := connector
      simp only [Option.all_some, AutoConfigurer.isSound]
      cases connector.configure config with
      | error what => rfl
      | ok configured => cases configured <;> rfl

/-- A bad entry contributes nothing. -/
theorem contributed_of_isBad {entry : ConnectorEntry δ μ} (hBad : entry.isBad isSupportedType = true) :
    entry.contributed isSupportedType = ([], []) := by
  unfold isBad at hBad
  unfold contributed
  cases hAdmitted : entry.admitted isSupportedType with
  | none => rfl
  | some connector =>
      obtain ⟨connector, config⟩ := connector
      simp only [hAdmitted] at hBad
      simp only [AutoConfigurer.contributed]
      cases hConfigure : connector.configure config with
      | error what => rfl
      | ok configured =>
          rw [hConfigure] at hBad
          cases configured with
          | dataChannel handler =>
              have hNull : handler = none := by simpa using hBad
              simp [hNull, Configured.dataChannels, Configured.mediaTracks]
          | multipleDataChannel handlers => simp at hBad
          | mediaTrack handler =>
              have hNull : handler = none := by simpa using hBad
              simp [hNull, Configured.dataChannels, Configured.mediaTracks]
          | unrecognized => simp at hBad

theorem reduceOption_filter_isSome (handlers : List (Option δ)) :
    (handlers.filter Option.isSome).reduceOption = handlers.reduceOption := by
  induction handlers with
  | nil => rfl
  | cons handler handlers ih => cases handler <;> simp [ih]

/-- Taking out null elements changes nothing in what an entry contributes. -/
theorem contributed_withoutNulls (entry : ConnectorEntry δ μ) :
    entry.withoutNulls.contributed isSupportedType = entry.contributed isSupportedType := by
  obtain ⟨config, connector⟩ := entry
  unfold contributed admitted withoutNulls
  by_cases hType : isSupportedType config.type = true
  · cases connector with
    | none => simp [hType]
    | some connector =>
        cases hValid : connector.validateConfig config with
        | error what => simp [hType, hValid]
        | ok u =>
            simp only [hType, hValid, Option.map_some, AutoConfigurer.contributed]
            cases hConfigure : connector.configure config with
            | error what => simp [hConfigure]
            | ok configured =>
                cases configured <;>
                  simp [hConfigure, Configured.dataChannels, Configured.mediaTracks,
                    reduceOption_filter_isSome]
  · simp [hType]

/-- What is left of a configuration is tolerated. -/
theorem isTolerated_withoutBad {entries : List (ConnectorEntry δ μ)} {entry : ConnectorEntry δ μ}
    (hMem : entry ∈ withoutBad isSupportedType entries) : entry.isTolerated isSupportedType = true := by
  obtain ⟨old, hOld, rfl⟩ := List.mem_map.mp hMem
  have hGood : old.isBad isSupportedType = false := by simpa using (List.mem_filter.mp hOld).2
  obtain ⟨config, connector⟩ := old
  unfold isBad admitted at hGood
  unfold isTolerated admitted withoutNulls
  by_cases hType : isSupportedType config.type = true
  · cases connector with
    | none => simp [hType] at hGood
    | some connector =>
        cases hValid : connector.validateConfig config with
        | error what => simp [hType, hValid] at hGood
        | ok u =>
            simp only [hType, hValid, not_true_eq_false, if_false] at hGood
            simp only [hType, hValid, Option.map_some, not_true_eq_false, if_false]
            cases hConfigure : connector.configure config with
            | error what => simp [hConfigure] at hGood
            | ok configured =>
                rw [hConfigure] at hGood
                cases configured with
                | dataChannel handler => rfl
                | multipleDataChannel handlers =>
                    -- The nulls of a list of handlers are gone.
                    show (handlers.filter Option.isSome).all Option.isSome = true
                    exact List.all_eq_true.mpr fun handler hMem => (List.mem_filter.mp hMem).2
                | mediaTrack handler => simpa using hGood
                | unrecognized => rfl
  · simp [hType]

/-- The entries that are left contribute what all entries do. -/
theorem contributed_withoutBad {α : Type} (view : List δ × List μ → List α)
    (hEmpty : view ([], []) = []) (entries : List (ConnectorEntry δ μ)) :
    (withoutBad isSupportedType entries).flatMap (fun entry => view (entry.contributed isSupportedType)) =
      entries.flatMap fun entry => view (entry.contributed isSupportedType) := by
  induction entries with
  | nil => rfl
  | cons entry entries ih =>
      unfold withoutBad at ih ⊢
      cases hBad : entry.isBad isSupportedType with
      | true => simp [hBad, ih, contributed_of_isBad hBad, hEmpty]
      | false => simp [hBad, ih, contributed_withoutNulls]

end ConnectorEntry

namespace AutoConfigurer

open ConnectorEntry

variable {getLabel : δ → String} {getTrackName : μ → String} {isSupportedType : String → Bool}

variable (getLabel getTrackName isSupportedType) in
/-- `ResolveConnectors` followed by `ConfigureConnectors`. -/
def resolveAndConfigure (entries : List (ConnectorEntry δ μ)) : Program (AutoConfigurer δ μ) Unit := do
  resolveConnectors isSupportedType entries
  configureConnectors getLabel getTrackName

/-- The body of the loop keeps an entry that is admitted. -/
theorem resolveConnector_run (entry : ConnectorEntry δ μ) (a : AutoConfigurer δ μ) :
    (resolveConnector isSupportedType entry).run a =
      .ok () { a with configurableConnectors :=
        a.configurableConnectors ++ (entry.admitted isSupportedType).toList.map some } := by
  unfold resolveConnector admitted
  by_cases hType : isSupportedType entry.config.type = true
  · cases entry.connector with
    | none => simp [hType]
    | some connector =>
        cases hValid : connector.validateConfig entry.config with
        | error what => simp [hType, hValid]
        | ok u => simp [hType, hValid]
  · simp [hType]

/-- `ResolveConnectors` never throws, and keeps the admitted entries. -/
theorem resolveConnectors_run (entries : List (ConnectorEntry δ μ)) (a : AutoConfigurer δ μ) :
    (resolveConnectors isSupportedType entries).run a =
      .ok () { a with configurableConnectors :=
        a.configurableConnectors ++ (entries.filterMap (admitted isSupportedType)).map some } := by
  induction entries generalizing a with
  | nil =>
      simp only [List.filterMap_nil, List.map_nil, List.append_nil]
      rfl
  | cons entry entries ih =>
      show (resolveConnector isSupportedType entry >>= fun _ =>
        resolveConnectors isSupportedType entries).run a = _
      rw [EStateM.run_bind, resolveConnector_run]
      simp only [ih]
      cases hAdmitted : entry.admitted isSupportedType <;> simp [hAdmitted]

/-- What the admitted connectors contribute is what the entries contribute. -/
theorem flatMap_admitted {α : Type} (view : List δ × List μ → List α) (hEmpty : view ([], []) = [])
    (entries : List (ConnectorEntry δ μ)) :
    (entries.filterMap (admitted isSupportedType)).flatMap (fun c => view (contributed c)) =
      entries.flatMap fun entry => view (entry.contributed isSupportedType) := by
  induction entries with
  | nil => rfl
  | cons entry entries ih =>
      cases hAdmitted : entry.admitted isSupportedType with
      | none => simp [hAdmitted, ih, ConnectorEntry.contributed, hEmpty]
      | some connector => simp [hAdmitted, ih, ConnectorEntry.contributed]

/-- The state after all entries were registered. -/
def configuredWith (getLabel : δ → String) (getTrackName : μ → String) (isSupportedType : String → Bool)
    (entries : List (ConnectorEntry δ μ)) : AutoConfigurer δ μ :=
  withHandlers getLabel getTrackName
    { configurableConnectors := (entries.filterMap (admitted isSupportedType)).map some }
    (entries.flatMap fun entry => (entry.contributed isSupportedType).1)
    (entries.flatMap fun entry => (entry.contributed isSupportedType).2)

variable (getLabel getTrackName) in
/-- With all entries tolerated the configuration is completed. -/
theorem resolveAndConfigure_run {entries : List (ConnectorEntry δ μ)}
    (hTolerated : ∀ entry ∈ entries, entry.isTolerated isSupportedType = true) :
    (resolveAndConfigure getLabel getTrackName isSupportedType entries).run {} =
      .ok () (configuredWith getLabel getTrackName isSupportedType entries) := by
  have hSound : ∀ c ∈ entries.filterMap (admitted isSupportedType), isSound c = true := by
    intro c hMem
    obtain ⟨entry, hEntry, hAdmitted⟩ := List.mem_filterMap.mp hMem
    have hKept := hTolerated entry hEntry
    rw [isTolerated_eq, hAdmitted, Option.all_some] at hKept
    exact hKept
  have hRun := configureAll_run getLabel getTrackName hSound
    { configurableConnectors := (entries.filterMap (admitted isSupportedType)).map some }
  rw [flatMap_admitted Prod.fst rfl, flatMap_admitted Prod.snd rfl] at hRun
  rw [resolveAndConfigure, EStateM.run_bind, resolveConnectors_run]
  exact hRun

variable (getLabel getTrackName) in
/-- An entry that is not tolerated ends the configuration. -/
theorem resolveAndConfigure_run_bad {entries : List (ConnectorEntry δ μ)} {bad : ConnectorEntry δ μ}
    (hMem : bad ∈ entries) (hBad : bad.isTolerated isSupportedType = false) :
    ∃ fault a, (resolveAndConfigure getLabel getTrackName isSupportedType entries).run {} =
      .error fault a := by
  rw [isTolerated_eq] at hBad
  cases hAdmitted : bad.admitted isSupportedType with
  | none => simp [hAdmitted] at hBad
  | some connector =>
      rw [hAdmitted, Option.all_some] at hBad
      have hKept : connector ∈ entries.filterMap (admitted isSupportedType) :=
        List.mem_filterMap.mpr ⟨bad, hMem, hAdmitted⟩
      rw [resolveAndConfigure, EStateM.run_bind, resolveConnectors_run]
      exact configureAll_run_unsound getLabel getTrackName hKept hBad _

/-- The run over all entries completes, and leaves the connector with the handlers that the run over the
entries that are not bad leaves it with. -/
def Isolates (getLabel : δ → String) (getTrackName : μ → String) (isSupportedType : String → Bool)
    (entries : List (ConnectorEntry δ μ)) : Prop :=
  ∃ a reference,
    (resolveAndConfigure getLabel getTrackName isSupportedType entries).run {} = .ok () a ∧
      (resolveAndConfigure getLabel getTrackName isSupportedType (withoutBad isSupportedType entries)).run {}
        = .ok () reference ∧
      a.mosaicConnector = reference.mosaicConnector

/-- **When bad entries do no harm.**  The configuration completes with the handlers of the entries that are
not bad, exactly if every admitted entry configures itself without throwing and leaves no null pointer in a
list of handlers or for a media track. -/
theorem isolates_iff (getLabel : δ → String) (getTrackName : μ → String) (isSupportedType : String → Bool)
    (entries : List (ConnectorEntry δ μ)) :
    Isolates getLabel getTrackName isSupportedType entries ↔
      ∀ entry ∈ entries, entry.isTolerated isSupportedType = true := by
  constructor
  · rintro ⟨a, reference, hRun, -, -⟩ entry hMem
    by_contra hBad
    obtain ⟨fault, a', hFault⟩ := resolveAndConfigure_run_bad getLabel getTrackName hMem
      (Bool.eq_false_iff.mpr hBad)
    rw [hRun] at hFault
    exact absurd hFault (by simp)
  · intro hTolerated
    refine ⟨_, _, resolveAndConfigure_run getLabel getTrackName hTolerated,
      resolveAndConfigure_run getLabel getTrackName fun entry => isTolerated_withoutBad, ?_⟩
    simp only [configuredWith, withHandlers, contributed_withoutBad Prod.fst rfl,
      contributed_withoutBad Prod.snd rfl]

/-- A camera whose width is no number. -/
def cameraWithoutWidth : ConnectorEntry String String where
  config := { type := "opencv-sender-camera", label := "camera", params := [("fps", ""), ("width", "wide")] }
  connector := some (openCVCamera (fun _ => .ok 30) 30 fun label (_ : Nat) _ _ _ => label)

/-- A connection check. -/
def robotCheck : ConnectorEntry String String where
  config := { type := "connection-check", label := "robot" }
  connector := some (connectionCheck id id)

/-- The types of the library. -/
def libraryTypes (type : String) : Bool :=
  type = "opencv-sender-camera" || type = "connection-check"

/-- The camera's exception leaves `ConfigureConnectors`, and the connection check after it, which is registered
when the camera is not there, is not. -/
theorem camera_takes_check_down :
    ¬ Isolates id id libraryTypes [cameraWithoutWidth, robotCheck] ∧
      (finalState ((resolveAndConfigure id id libraryTypes [cameraWithoutWidth, robotCheck]).run {})
        ).mosaicConnector.dataChannelHandlersDict.keys = [] ∧
      (finalState ((resolveAndConfigure id id libraryTypes [robotCheck]).run {})
        ).mosaicConnector.dataChannelHandlersDict.keys = ["robot-receiver", "robot-sender"] := by
  refine ⟨?_, by decide +kernel, by decide +kernel⟩
  rintro ⟨a, reference, hRun, -, -⟩
  have hBad : cameraWithoutWidth.isTolerated libraryTypes = false := by decide +kernel
  obtain ⟨fault, a', hFault⟩ :=
    resolveAndConfigure_run_bad id id (List.mem_cons_self : _ ∈ [cameraWithoutWidth, robotCheck]) hBad
  rw [hRun] at hFault
  exact absurd hFault (by simp)

end AutoConfigurer
end MosaicCore
