import MosaicCore.Core.ChannelBinding

/-!
# Whom a channel notifies

A channel keeps the raw pointer that `RegisterObserver` was given, until the channel is destroyed: no routine calls
`UnregisterObserver`.  The observer belongs to the handler, which drops it when it makes the next one.
`ObservedChannels` has both sides: the handlers with their observers, and the channels with what was registered on
them.

`noDanglingObserver_iff` says over which runs no channel keeps the pointer to a dropped observer.
-/

namespace MosaicCore

open EffectProgram EventRun Registration

/-- The handlers and libwebrtc's side, with the channels that libwebrtc has destroyed. -/
structure ObservedChannels where
  bindings : ChannelBindings
  destroyed : Nat → Bool := fun _ => false

/-- The calls that reach the handlers, and what libwebrtc does in between. -/
inductive ObserverEvent
  | addDataChannelHandler (handler : Nat)
  /-- `OnDataChannel` with a channel; `throws` is whether the handler's `AfterCreate` throws. -/
  | onDataChannel (channel : Nat) (throws : Bool)
  | stateChange (channel : Nat) (state : DataState)
  | closeDataChannel (handler : Nat)
  | closeAllDataChannels
  /-- libwebrtc gives up a channel, which lives on while a handler has a pointer to it. -/
  | destroyChannel (channel : Nat)
  deriving DecidableEq

namespace ObservedChannels

/-- The observer registered last on a channel. -/
def registeredIn (calls : List (ChannelCall DataBuffer)) (channel : Nat) : Option Nat :=
  (calls.filterMap fun call =>
    match call with
    | .registerObserver on observer => if on = channel then some observer else none
    | _ => none).getLast?

/-- The observer whose pointer a channel has. -/
def registered (b : ChannelBindings) (channel : Nat) : Option Nat := registeredIn b.channels.calls channel

/-- A handler of the dictionary has a pointer to the channel. -/
def held (b : ChannelBindings) (channel : Nat) : Bool :=
  b.dataChannelHandlersDict.entries.any fun e => b.bound e.2 = some channel

variable (channelLabel : Nat → String)

/-- `MosaicConnector::OnDataChannel`, with the number of the observer that it would make. -/
def onDataChannel (observer channel : Nat) (throws : Bool) : Program ChannelBindings Unit := do
  let b ← get
  match b.dataChannelHandlersDict.find? (channelLabel channel) with
  | none => pure ()
  | some handler =>
      if Endpoint.getState { impl := b.handlers handler, channels := b.channels } = .kOpen then pure ()
      else do
        ChannelBindings.onHandler handler (Endpoint.setDataChannelInterface (some channel))
        ChannelBindings.onHandler handler (Endpoint.registerDataChannelObserver observer)
        if throws then throw (.exception "AfterCreate") else pure ()

/-- A channel's number will do as the number of its observer where each channel is bound once. -/
theorem onDataChannel_eq (channel : Nat) (throws : Bool) :
    ChannelBindings.onDataChannel channelLabel channel throws =
      onDataChannel channelLabel channel channel throws := rfl

/-- Run a routine of the handlers. -/
def onBindings (p : Program ChannelBindings Unit) : Program ObservedChannels Unit :=
  zoom (fun s => s.bindings) (fun b s => { s with bindings := b }) p

/-- The routine an event runs.  An observer is numbered by the place of its registration among all calls. -/
def handle : ObserverEvent → Program ObservedChannels Unit
  | .addDataChannelHandler handler => onBindings (ChannelBindings.addDataChannelHandler handler)
  | .onDataChannel channel throws => do
      let s ← get
      if s.destroyed channel then pure ()
      else onBindings (onDataChannel channelLabel s.bindings.channels.calls.length channel throws)
  | .stateChange channel state => onBindings (ChannelBindings.handle channelLabel (.stateChange channel state))
  | .closeDataChannel handler => onBindings (ChannelBindings.onHandler handler Endpoint.closeDataChannel)
  | .closeAllDataChannels => onBindings ChannelBindings.closeAllDataChannels
  | .destroyChannel channel => do
      let s ← get
      if held s.bindings channel then pure ()
      else set { s with destroyed := Function.update s.destroyed channel true }

/-- The state after an event. -/
def step (s : ObservedChannels) (event : ObserverEvent) : ObservedChannels :=
  finalState ((handle channelLabel event).run s)

/-- A connector without handlers, before any channel is bound. -/
def fresh (labels : Nat → String) (states : Nat → DataState) : ObservedChannels where
  bindings := ChannelBindings.fresh labels states

/-- The observer that a live channel has a pointer to is the one that the handler of its label holds. -/
def NoDanglingObserver (s : ObservedChannels) : Prop :=
  ∀ channel observer, s.destroyed channel = false → registered s.bindings channel = some observer →
    ∃ handler, s.bindings.dataChannelHandlersDict.find? (channelLabel channel) = some handler ∧
      (s.bindings.handlers handler).observer = some observer

/-- `OnDataChannel` with this channel binds it: it is alive, and its label finds a handler that is not open. -/
def Binds (s : ObservedChannels) (channel : Nat) : Prop :=
  s.destroyed channel = false ∧
    ∃ handler, s.bindings.dataChannelHandlersDict.find? (channelLabel channel) = some handler ∧
      Endpoint.getState { impl := s.bindings.handlers handler, channels := s.bindings.channels } ≠ .kOpen

/-- Where a channel is bound, the earlier channels of its label are destroyed. -/
def BindsAlone (s : ObservedChannels) : ObserverEvent → Prop
  | .onDataChannel channel _ =>
      Binds channelLabel s channel →
        ∀ other, other ≠ channel → channelLabel other = channelLabel channel →
          (registered s.bindings other).isSome = true → s.destroyed other = true
  | _ => True

/-! ## What is registered -/

theorem registeredIn_append {calls made : List (ChannelCall DataBuffer)}
    (hOther : ∀ call ∈ made, ∀ on observer, call ≠ .registerObserver on observer) (channel : Nat) :
    registeredIn (calls ++ made) channel = registeredIn calls channel := by
  have hNone : (made.filterMap fun call =>
      match call with
      | .registerObserver on observer => if on = channel then some observer else none
      | _ => none) = [] := by
    refine List.filterMap_eq_nil_iff.mpr fun call hMem => ?_
    cases call with
    | registerObserver on observer => exact absurd rfl (hOther _ hMem on observer)
    | send on buffer => rfl
    | sendAsync on buffer => rfl
    | close on => rfl
  rw [registeredIn, List.filterMap_append, hNone, List.append_nil, registeredIn]

theorem registeredIn_registerObserver (calls : List (ChannelCall DataBuffer)) (on observer channel : Nat) :
    registeredIn (calls ++ [.registerObserver on observer]) channel =
      if on = channel then some observer else registeredIn calls channel := by
  by_cases hSame : on = channel
  · simp [registeredIn, List.filterMap_append, hSame]
  · simp [registeredIn, List.filterMap_append, hSame]

/-- From `b` to `b'` neither the dictionary nor an observer changed, on either side. -/
structure Kept (b b' : ChannelBindings) : Prop where
  dict : b'.dataChannelHandlersDict = b.dataChannelHandlersDict
  label : ∀ handler, (b'.handlers handler).label = (b.handlers handler).label
  observer : ∀ handler, (b'.handlers handler).observer = (b.handlers handler).observer
  registered : ∀ channel, registered b' channel = registered b channel
  grows : b.channels.calls.length ≤ b'.channels.calls.length

instance isPreorder_kept : IsPreorder ChannelBindings Kept where
  refl _ := ⟨rfl, fun _ => rfl, fun _ => rfl, fun _ => rfl, Nat.le_refl _⟩
  trans _ _ _ h h' :=
    ⟨h'.dict.trans h.dict, fun handler => (h'.label handler).trans (h.label handler),
      fun handler => (h'.observer handler).trans (h.observer handler),
      fun channel => (h'.registered channel).trans (h.registered channel), h.grows.trans h'.grows⟩

/-- `CloseDataChannel` leaves the observer registered, and the handler with it. -/
theorem within_closeDataChannel (handler : Nat) :
    Within Kept (ChannelBindings.onHandler handler Endpoint.closeDataChannel) := by
  intro b
  rw [ChannelBindings.closeHandler_run, finalState_ok]
  refine ⟨rfl, ?_, ?_, ?_, ?_⟩
  · intro other
    by_cases hSame : other = handler <;> simp [ChannelBindings.allClosed, hSame]
  · intro other
    by_cases hSame : other = handler <;> simp [ChannelBindings.allClosed, hSame]
  · refine registeredIn_append ?_
    intro call hMem on observer
    cases hBound : b.bound handler with
    | none => simp [ChannelBindings.closings, hBound] at hMem
    | some channel =>
        obtain rfl : call = .close channel := by simpa [ChannelBindings.closings, hBound] using hMem
        simp
  · simp [ChannelBindings.allClosed]

theorem within_closeAllDataChannels : Within Kept ChannelBindings.closeAllDataChannels :=
  within_get_bind fun _ => within_forM fun e _ => within_closeDataChannel e.2

/-- The state after a handler was filed under its label, which keeps the handler it has. -/
def withHandler (b : ChannelBindings) (handler : Nat) : ChannelBindings :=
  { b with
    dataChannelHandlersDict := b.dataChannelHandlersDict.insert (b.handlers handler).label handler }

theorem find?_withHandler (b : ChannelBindings) (handler : Nat) (label : String) :
    (withHandler b handler).dataChannelHandlersDict.find? label =
      if label = (b.handlers handler).label then
        some ((b.dataChannelHandlersDict.find? (b.handlers handler).label).getD handler)
      else b.dataChannelHandlersDict.find? label :=
  OrderedMap.find?_insert _ _ _ _

/-- What a label finds, it goes on finding. -/
theorem find?_withHandler_of_some {b : ChannelBindings} {handler other : Nat} {label : String}
    (hFind : b.dataChannelHandlersDict.find? label = some other) :
    (withHandler b handler).dataChannelHandlersDict.find? label = some other := by
  rw [find?_withHandler]
  split_ifs with hLabel
  · rw [← hLabel, hFind]
    rfl
  · exact hFind

/-- The state after a channel was bound to a handler and a new observer registered. -/
def withObserver (b : ChannelBindings) (handler observer channel : Nat) : ChannelBindings where
  dataChannelHandlersDict := b.dataChannelHandlersDict
  handlers := Function.update b.handlers handler
    { b.handlers handler with dcInterface := some channel, observer := some observer }
  channels := { b.channels with calls := b.channels.calls ++ [.registerObserver channel observer] }

theorem registered_withObserver (b : ChannelBindings) (handler observer channel other : Nat) :
    registered (withObserver b handler observer channel) other =
      if channel = other then some observer else registered b other :=
  registeredIn_registerObserver _ _ _ _

theorem onDataChannel_run (b : ChannelBindings) (observer channel : Nat) (throws : Bool) :
    finalState ((onDataChannel channelLabel observer channel throws).run b) =
      match b.dataChannelHandlersDict.find? (channelLabel channel) with
      | none => b
      | some handler =>
          if Endpoint.getState { impl := b.handlers handler, channels := b.channels } = .kOpen then b
          else withObserver b handler observer channel := by
  unfold onDataChannel
  rw [EStateM.run_bind, EStateM.run_get]
  cases hFind : b.dataChannelHandlersDict.find? (channelLabel channel) with
  | none => simp [hFind]
  | some handler =>
      by_cases hOpen : Endpoint.getState { impl := b.handlers handler, channels := b.channels } = .kOpen
      · simp [hFind, hOpen]
      · cases throws <;>
          simp [hFind, hOpen, ChannelBindings.onHandler, zoom_run, Endpoint.setDataChannelInterface,
            Endpoint.registerDataChannelObserver, Endpoint.call, withObserver]

/-! ## One event -/

variable {channelLabel}

/-- The number of the next observer. -/
def nextObserver (s : ObservedChannels) : Nat := s.bindings.channels.calls.length

theorem step_onDataChannel {s : ObservedChannels} {channel : Nat} (hAlive : s.destroyed channel = false)
    (throws : Bool) : step channelLabel s (.onDataChannel channel throws) =
      { s with bindings :=
          finalState ((onDataChannel channelLabel (nextObserver s) channel throws).run s.bindings) } := by
  simp only [step, handle, EStateM.run_bind, EStateM.run_get, hAlive, Bool.false_eq_true, if_false, onBindings,
    finalState_zoom, nextObserver]

/-- A channel that is not bound leaves everything as it was. -/
theorem step_onDataChannel_of_not_binds {s : ObservedChannels} {channel : Nat} (hNot : ¬ Binds channelLabel s channel)
    (throws : Bool) : step channelLabel s (.onDataChannel channel throws) = s := by
  cases hDestroyed : s.destroyed channel with
  | true => simp [step, handle, EStateM.run_bind, hDestroyed]
  | false =>
      rw [step_onDataChannel hDestroyed, onDataChannel_run]
      cases hFind : s.bindings.dataChannelHandlersDict.find? (channelLabel channel) with
      | none => rfl
      | some handler =>
          have hOpen : Endpoint.getState
              { impl := s.bindings.handlers handler, channels := s.bindings.channels } = .kOpen := by
            by_contra hNotOpen
            exact hNot ⟨hDestroyed, handler, hFind, hNotOpen⟩
          simp only [if_pos hOpen]

/-- An event changes nothing about observers, files a handler, destroys a channel or binds one. -/
theorem step_cases (channelLabel : Nat → String) (s : ObservedChannels) (event : ObserverEvent) :
    (∃ b, Kept s.bindings b ∧ step channelLabel s event = { s with bindings := b } ∧ BindsAlone channelLabel s event) ∨
      (∃ handler, event = .addDataChannelHandler handler ∧
        step channelLabel s event = { s with bindings := withHandler s.bindings handler }) ∨
      (∃ channel, event = .destroyChannel channel ∧
        step channelLabel s event = { s with destroyed := Function.update s.destroyed channel true }) ∨
      ∃ channel throws handler, event = .onDataChannel channel throws ∧ Binds channelLabel s channel ∧
        s.bindings.dataChannelHandlersDict.find? (channelLabel channel) = some handler ∧
        step channelLabel s event =
          { s with bindings := withObserver s.bindings handler (nextObserver s) channel } := by
  cases event with
  | addDataChannelHandler handler =>
      refine .inr (.inl ⟨handler, rfl, ?_⟩)
      rw [step, handle, onBindings, finalState_zoom, ChannelBindings.addDataChannelHandler_run, finalState_ok,
        withHandler]
  | onDataChannel channel throws =>
      by_cases hBinds : Binds channelLabel s channel
      · obtain ⟨hAlive, handler, hFind, hNotOpen⟩ := hBinds
        refine .inr (.inr (.inr ⟨channel, throws, handler, rfl, ⟨hAlive, handler, hFind, hNotOpen⟩, hFind, ?_⟩))
        rw [step_onDataChannel hAlive, onDataChannel_run, hFind]
        simp only [if_neg hNotOpen]
      · exact .inl ⟨s.bindings, Std.Refl.refl s.bindings, step_onDataChannel_of_not_binds hBinds throws,
          fun h => (hBinds h).elim⟩
  | stateChange channel state =>
      refine .inl ⟨finalState ((ChannelBindings.handle channelLabel (.stateChange channel state)).run s.bindings),
        ⟨rfl, fun _ => rfl, fun _ => rfl, fun _ => rfl, Nat.le_refl _⟩, ?_, trivial⟩
      rw [step, handle, onBindings, finalState_zoom]
  | closeDataChannel handler =>
      refine .inl ⟨_, within_closeDataChannel handler s.bindings, ?_, trivial⟩
      rw [step, handle, onBindings, finalState_zoom]
  | closeAllDataChannels =>
      refine .inl ⟨_, within_closeAllDataChannels s.bindings, ?_, trivial⟩
      rw [step, handle, onBindings, finalState_zoom]
  | destroyChannel channel =>
      cases hHeld : held s.bindings channel with
      | true =>
          refine .inl ⟨s.bindings, Std.Refl.refl s.bindings, ?_, trivial⟩
          simp [step, handle, EStateM.run_bind, hHeld]
      | false =>
          refine .inr (.inr (.inl ⟨channel, rfl, ?_⟩))
          simp [step, handle, EStateM.run_bind, hHeld]

/-- Handlers are filed under their labels, and every registered observer is older than the next one. -/
structure ObserverInvariant (s : ObservedChannels) : Prop where
  filed : ∀ label handler, s.bindings.dataChannelHandlersDict.find? label = some handler →
    (s.bindings.handlers handler).label = label
  older : ∀ channel observer, registered s.bindings channel = some observer → observer < nextObserver s

theorem observerInvariant_withHandler {s : ObservedChannels} (h : ObserverInvariant s) (handler : Nat) :
    ObserverInvariant { s with bindings := withHandler s.bindings handler } := by
  refine ⟨?_, h.older⟩
  intro label other hOther
  simp only [find?_withHandler] at hOther
  split_ifs at hOther with hLabel
  · cases hOld : s.bindings.dataChannelHandlersDict.find? (s.bindings.handlers handler).label with
    | none =>
        rw [hOld] at hOther
        obtain rfl : handler = other := Option.some.inj hOther
        exact hLabel.symm
    | some old =>
        rw [hOld] at hOther
        obtain rfl : old = other := Option.some.inj hOther
        rw [hLabel]
        exact h.filed _ _ hOld
  · exact h.filed label other hOther

theorem observerInvariant_withObserver {s : ObservedChannels} (h : ObserverInvariant s) (handler channel : Nat) :
    ObserverInvariant { s with bindings := withObserver s.bindings handler (nextObserver s) channel } := by
  constructor
  · intro label other hOther
    by_cases hSame : other = handler
    · subst hSame
      simpa [withObserver] using h.filed label other hOther
    · simpa [withObserver, hSame] using h.filed label other hOther
  · intro other observer hRegistered
    have hGrows : nextObserver { s with bindings := withObserver s.bindings handler (nextObserver s) channel } =
        nextObserver s + 1 := by simp [nextObserver, withObserver]
    rw [hGrows]
    simp only [registered_withObserver] at hRegistered
    split_ifs at hRegistered with hSame
    · cases hRegistered
      exact Nat.lt_succ_self _
    · exact Nat.lt_succ_of_lt (h.older other observer hRegistered)

theorem observerInvariant_step (s : ObservedChannels) (event : ObserverEvent) (h : ObserverInvariant s) :
    ObserverInvariant (step channelLabel s event) := by
  rcases step_cases channelLabel s event with ⟨b, hKept, hStep, -⟩ | ⟨handler, -, hStep⟩ |
    ⟨channel, -, hStep⟩ | ⟨channel, throws, handler, -, -, -, hStep⟩
  · rw [hStep]
    constructor
    · intro label handler hFind
      exact (hKept.label handler).trans (h.filed label handler (hKept.dict ▸ hFind))
    · intro channel observer hRegistered
      exact Nat.lt_of_lt_of_le (h.older channel observer (hKept.registered channel ▸ hRegistered)) hKept.grows
  · rw [hStep]
    exact observerInvariant_withHandler h handler
  · rw [hStep]
    exact ⟨h.filed, h.older⟩
  · rw [hStep]
    exact observerInvariant_withObserver h handler channel

/-- After a channel is bound, no observer dangles exactly if the earlier channels of its label are destroyed: they
have pointers to older observers than the one the handler now holds. -/
theorem noDanglingObserver_withObserver {s : ObservedChannels} (hInvariant : ObserverInvariant s)
    (h : NoDanglingObserver channelLabel s) {channel handler : Nat}
    (hFind : s.bindings.dataChannelHandlersDict.find? (channelLabel channel) = some handler) :
    NoDanglingObserver channelLabel
        { s with bindings := withObserver s.bindings handler (nextObserver s) channel } ↔
      ∀ other, other ≠ channel → channelLabel other = channelLabel channel →
        (registered s.bindings other).isSome = true → s.destroyed other = true := by
  constructor
  · intro hAfter other hOther hLabel hRegistered
    obtain ⟨observer, hObserver⟩ := Option.isSome_iff_exists.mp hRegistered
    cases hDestroyed : s.destroyed other with
    | true => rfl
    | false =>
        have hStill : registered (withObserver s.bindings handler (nextObserver s) channel) other = some observer := by
          rw [registered_withObserver, if_neg hOther.symm, hObserver]
        obtain ⟨found, hFound, hHeld⟩ := hAfter other observer hDestroyed hStill
        obtain rfl : handler = found := by
          have hSame : s.bindings.dataChannelHandlersDict.find? (channelLabel other) = some found := hFound
          rw [hLabel, hFind] at hSame
          exact Option.some.inj hSame
        have hNew : nextObserver s = observer := by simpa [withObserver] using hHeld
        exact absurd (hInvariant.older other observer hObserver) (by omega)
  · intro hAlone other observer hAlive hRegistered
    simp only [registered_withObserver] at hRegistered
    split_ifs at hRegistered with hSame
    · subst hSame
      cases hRegistered
      exact ⟨handler, hFind, by simp [withObserver]⟩
    · obtain ⟨found, hFound, hHeld⟩ := h other observer hAlive hRegistered
      refine ⟨found, hFound, ?_⟩
      have hDifferent : found ≠ handler := by
        rintro rfl
        have hLabel : channelLabel other = channelLabel channel := by
          rw [← hInvariant.filed _ _ hFound, hInvariant.filed _ _ hFind]
        have hGone := hAlone other (Ne.symm hSame) hLabel (by rw [hRegistered]; rfl)
        exact Bool.noConfusion (hGone.symm.trans hAlive)
      simpa [withObserver, hDifferent] using hHeld

/-- The observers are left as they should be exactly if a channel that is bound is bound alone. -/
theorem noDanglingObserver_step (s : ObservedChannels) (event : ObserverEvent) (hInvariant : ObserverInvariant s)
    (h : NoDanglingObserver channelLabel s) :
    NoDanglingObserver channelLabel (step channelLabel s event) ↔ BindsAlone channelLabel s event := by
  rcases step_cases channelLabel s event with ⟨b, hKept, hStep, hAlone⟩ | ⟨handler, rfl, hStep⟩ |
    ⟨channel, rfl, hStep⟩ | ⟨channel, throws, handler, rfl, hBinds, hFind, hStep⟩
  · rw [hStep]
    refine iff_of_true ?_ hAlone
    simpa only [NoDanglingObserver, hKept.dict, hKept.registered, hKept.observer] using h
  · rw [hStep]
    refine iff_of_true ?_ trivial
    intro channel observer hAlive hRegistered
    obtain ⟨found, hFound, hHeld⟩ := h channel observer hAlive hRegistered
    exact ⟨found, find?_withHandler_of_some hFound, hHeld⟩
  · rw [hStep]
    refine iff_of_true ?_ trivial
    intro other observer hAlive hRegistered
    by_cases hSame : other = channel
    · simp [hSame] at hAlive
    · exact h other observer (by simpa [hSame] using hAlive) hRegistered
  · rw [hStep, noDanglingObserver_withObserver hInvariant h hFind]
    exact ⟨fun hAlone _ => hAlone, fun hAlone => hAlone hBinds⟩

/-! ## Runs -/

variable (channelLabel) in
/-- Over every run: no live channel ever has a pointer to a dropped observer exactly if every channel is bound
after the earlier channels of its label were destroyed. -/
theorem noDanglingObserver_iff (labels : Nat → String) (states : Nat → DataState) (events : List ObserverEvent) :
    Throughout (step channelLabel) (NoDanglingObserver channelLabel) (fresh labels states) events ↔
      EachStep (step channelLabel) (BindsAlone channelLabel) (fresh labels states) events := by
  have hNone : ∀ channel, registered (fresh labels states).bindings channel = none := fun _ => rfl
  have hInvariant : ObserverInvariant (fresh labels states) := by
    constructor
    · intro label handler hFind
      simp [fresh, ChannelBindings.fresh] at hFind
    · intro channel observer hRegistered
      simp [hNone] at hRegistered
  have hFresh : NoDanglingObserver channelLabel (fresh labels states) := by
    intro channel observer _ hRegistered
    simp [hNone] at hRegistered
  rw [← throughout_and_invariant observerInvariant_step hInvariant]
  refine throughout_iff_eachStep ?_ ⟨hFresh, hInvariant⟩
  intro s event hBoth
  rw [and_iff_left (observerInvariant_step s event hBoth.2), noDanglingObserver_step s event hBoth.2 hBoth.1]

/-- A channel that is closed and replaced keeps the pointer to its dropped observer. -/
theorem closed_channel_dangles :
    ¬ ∀ (channelLabel labels : Nat → String) (states : Nat → DataState) (events : List ObserverEvent),
      Throughout (step channelLabel) (NoDanglingObserver channelLabel) (fresh labels states) events := by
  intro hAlways
  have hEnd := (hAlways (fun _ => "control") (fun _ => "control") (fun _ => .kOpen)
    [.addDataChannelHandler 0, .onDataChannel 0 false, .closeAllDataChannels, .onDataChannel 1 false]).last
  obtain ⟨handler, hFind, hHeld⟩ := hEnd 0 0 rfl rfl
  cases hFind
  exact absurd hHeld (by decide)

end ObservedChannels

end MosaicCore
