import Mathlib.Data.List.Nodup
import MosaicCore.Core.HandlerDicts

/-!
# Which channel a handler is bound to

The dictionary finds a handler object by its label; the object has the pointer to its channel; the state of the
channel is libwebrtc's.  `ChannelBindings` has all three, with the handler objects by their address, and the
calls that register handlers, bind channels and close them.

`Represents` compares this with a `World`, which keeps the handlers themselves in its dictionary.

`BindingInvariant` links the three: a handler that is bound is the one its label finds, and its channel has
that label.  So a channel is bound to at most one handler, and closing all handlers in the dictionary closes
every bound channel, once.
-/

namespace MosaicCore

open EffectProgram EventRun Registration

/-- The data channel handlers of a connector, and libwebrtc's side. -/
structure ChannelBindings where
  dataChannelHandlersDict : OrderedMap String Nat := .empty
  /-- The handler objects, by their address. -/
  handlers : Nat → DataChannelHandler DataBuffer
  channels : Channels DataBuffer

/-- The calls that reach the connector, and what libwebrtc does in between. -/
inductive BindingEvent
  | addDataChannelHandler (handler : Nat)
  /-- `OnDataChannel` with a channel; `throws` is whether the handler's `AfterCreate` throws. -/
  | onDataChannel (channel : Nat) (throws : Bool)
  | stateChange (channel : Nat) (state : DataState)
  | closeAllDataChannels
  deriving DecidableEq

namespace ChannelBindings

/-- Run a member function of a handler object. -/
def onHandler (handler : Nat) (p : Program (Endpoint DataBuffer) Unit) : Program ChannelBindings Unit :=
  zoom (fun b => { impl := b.handlers handler, channels := b.channels })
    (fun e b => { b with handlers := Function.update b.handlers handler e.impl, channels := e.channels }) p

/-- `MosaicConnector::AddDataChannelHandler`. -/
def addDataChannelHandler (handler : Nat) : Program ChannelBindings Unit := do
  let b ← get
  zoom (·.dataChannelHandlersDict) (fun dict b => { b with dataChannelHandlersDict := dict })
    (HandlerDicts.addHandler (fun h => (b.handlers h).label) "data_channel_handler" (some handler))

variable (channelLabel : Nat → String)

/-- `MosaicConnector::OnDataChannel`; the label of a channel never changes. -/
def onDataChannel (channel : Nat) (throws : Bool) : Program ChannelBindings Unit := do
  let b ← get
  match b.dataChannelHandlersDict.find? (channelLabel channel) with
  | none => pure ()
  | some handler =>
      if Endpoint.getState { impl := b.handlers handler, channels := b.channels } = .kOpen then pure ()
      else do
        onHandler handler (Endpoint.setDataChannelInterface (some channel))
        onHandler handler (Endpoint.registerDataChannelObserver channel)
        if throws then throw (.exception "AfterCreate") else pure ()

/-- `MosaicConnector::CloseAllDataChannels`. -/
def closeAllDataChannels : Program ChannelBindings Unit := do
  (← get).dataChannelHandlersDict.entries.forM fun e => onHandler e.2 Endpoint.closeDataChannel

/-- The routine an event runs. -/
def handle : BindingEvent → Program ChannelBindings Unit
  | .addDataChannelHandler handler => addDataChannelHandler handler
  | .onDataChannel channel throws => onDataChannel channelLabel channel throws
  | .stateChange channel state =>
      modify fun b =>
        { b with channels :=
            { b.channels with states := fun c => if c = channel then state else b.channels.states c } }
  | .closeAllDataChannels => closeAllDataChannels

/-- The state after an event. -/
def step (b : ChannelBindings) (event : BindingEvent) : ChannelBindings :=
  finalState ((handle channelLabel event).run b)

/-- The channel a handler is bound to. -/
def bound (b : ChannelBindings) (handler : Nat) : Option Nat := (b.handlers handler).dcInterface

/-- A connector without handlers; the handler objects have their labels and no channel. -/
def fresh (labels : Nat → String) (states : Nat → DataState) : ChannelBindings where
  handlers := fun handler => { label := labels handler }
  channels := { states := states }

/-- The handlers registered in a run, in their order. -/
def added (events : List BindingEvent) : List Nat :=
  events.filterMap fun
    | .addDataChannelHandler handler => some handler
    | _ => none

/-! ## What each call does -/

/-- Registering keeps the handler a label has. -/
theorem addDataChannelHandler_run (handler : Nat) (b : ChannelBindings) :
    (addDataChannelHandler handler).run b =
      .ok () { b with dataChannelHandlersDict :=
        b.dataChannelHandlersDict.insert (b.handlers handler).label handler } := by
  simp only [addDataChannelHandler, EStateM.run_bind, EStateM.run_get, zoom_run,
    HandlerDicts.addHandler_run]

/-- The state after a channel was bound to a handler and its observer registered. -/
def withBound (b : ChannelBindings) (handler channel : Nat) : ChannelBindings where
  dataChannelHandlersDict := b.dataChannelHandlersDict
  handlers := Function.update b.handlers handler
    { b.handlers handler with dcInterface := some channel, observer := some channel }
  channels := { b.channels with calls := b.channels.calls ++ [.registerObserver channel channel] }

/-- `OnDataChannel` binds the channel to the handler of its label, unless that is bound to an open channel;
what `AfterCreate` throws comes too late to change that. -/
theorem onDataChannel_run (b : ChannelBindings) (channel : Nat) (throws : Bool) :
    finalState ((onDataChannel channelLabel channel throws).run b) =
      match b.dataChannelHandlersDict.find? (channelLabel channel) with
      | none => b
      | some handler =>
          if Endpoint.getState { impl := b.handlers handler, channels := b.channels } = .kOpen then b
          else withBound b handler channel := by
  unfold onDataChannel
  rw [EStateM.run_bind, EStateM.run_get]
  cases hFind : b.dataChannelHandlersDict.find? (channelLabel channel) with
  | none => simp [hFind]
  | some handler =>
      by_cases hOpen : Endpoint.getState { impl := b.handlers handler, channels := b.channels } = .kOpen
      · simp [hFind, hOpen]
      · cases throws <;>
          simp [hFind, hOpen, onHandler, zoom_run, Endpoint.setDataChannelInterface,
            Endpoint.registerDataChannelObserver, Endpoint.call, withBound]

/-- `OnDataChannel` changes nothing, or binds the channel to the handler its label finds, whose channel is not
open. -/
theorem onDataChannel_cases (b : ChannelBindings) (channel : Nat) (throws : Bool) :
    finalState ((onDataChannel channelLabel channel throws).run b) = b ∨
      ∃ handler, b.dataChannelHandlersDict.find? (channelLabel channel) = some handler ∧
        Endpoint.getState { impl := b.handlers handler, channels := b.channels } ≠ .kOpen ∧
        finalState ((onDataChannel channelLabel channel throws).run b) = withBound b handler channel := by
  rw [onDataChannel_run]
  cases hFind : b.dataChannelHandlersDict.find? (channelLabel channel) with
  | none => exact .inl rfl
  | some handler =>
      by_cases hOpen : Endpoint.getState { impl := b.handlers handler, channels := b.channels } = .kOpen
      · exact .inl (if_pos hOpen)
      · exact .inr ⟨handler, rfl, hOpen, if_neg hOpen⟩

/-- The `Close()` calls that closing some handlers makes. -/
def closings (b : ChannelBindings) (handlers : List Nat) : List (ChannelCall DataBuffer) :=
  handlers.filterMap fun handler => (b.bound handler).map .close

/-- The state after some handlers were closed. -/
def allClosed (b : ChannelBindings) (handlers : List Nat) : ChannelBindings where
  dataChannelHandlersDict := b.dataChannelHandlersDict
  handlers := fun handler =>
    if handler ∈ handlers then { b.handlers handler with dcInterface := none } else b.handlers handler
  channels := { b.channels with calls := b.channels.calls ++ closings b handlers }

theorem closeHandler_run (handler : Nat) (b : ChannelBindings) :
    (onHandler handler Endpoint.closeDataChannel).run b = .ok () (allClosed b [handler]) := by
  have hHandlers (impl : DataChannelHandler DataBuffer)
      (hImpl : impl = { b.handlers handler with dcInterface := none }) :
      Function.update b.handlers handler impl = (allClosed b [handler]).handlers := by
    funext other
    by_cases hSame : other = handler
    · subst hSame
      simp [allClosed, hImpl]
    · simp [allClosed, hSame]
  cases hBound : (b.handlers handler).dcInterface with
  | none =>
      have hImpl : b.handlers handler = { b.handlers handler with dcInterface := none } := by
        rw [← hBound]
      have hSame := hHandlers _ hImpl
      simp only [onHandler, zoom_run, Endpoint.closeDataChannel, EStateM.run_bind, EStateM.run_get,
        hBound, EStateM.run_pure, hSame]
      simp [allClosed, closings, bound, hBound]
  | some channel =>
      have hSame := hHandlers { b.handlers handler with dcInterface := none } rfl
      simp only [onHandler, zoom_run, Endpoint.closeDataChannel, EStateM.run_bind, EStateM.run_get,
        hBound, Endpoint.call, EStateM.run_modify, hSame]
      simp [allClosed, closings, bound, hBound]

/-- Closing one handler and then others that it is not among is closing them all. -/
theorem allClosed_cons {b : ChannelBindings} {handler : Nat} {rest : List Nat} (hNew : handler ∉ rest) :
    allClosed (allClosed b [handler]) rest = allClosed b (handler :: rest) := by
  have hBound : ∀ other ∈ rest, (allClosed b [handler]).bound other = b.bound other := by
    intro other hMem
    have hOther : other ≠ handler := fun hSame => hNew (hSame ▸ hMem)
    simp [bound, allClosed, hOther]
  have hClosings : closings (allClosed b [handler]) rest = closings b rest := by
    unfold closings
    exact List.filterMap_congr fun other hMem => by rw [hBound other hMem]
  have hHandlers : (allClosed (allClosed b [handler]) rest).handlers =
      (allClosed b (handler :: rest)).handlers := by
    funext other
    by_cases hSame : other = handler
    · subst hSame
      simp [allClosed, hNew]
    · simp [allClosed, hSame]
  have hCalls : (allClosed (allClosed b [handler]) rest).channels.calls =
      (allClosed b (handler :: rest)).channels.calls := by
    show (b.channels.calls ++ closings b [handler]) ++ closings (allClosed b [handler]) rest = _
    rw [hClosings, List.append_assoc]
    cases hBound : b.bound handler <;> simp [allClosed, closings, hBound]
  unfold allClosed at hHandlers hCalls ⊢
  simp only [ChannelBindings.mk.injEq, Channels.mk.injEq, true_and, and_true]
  exact ⟨hHandlers, hCalls⟩

/-- `CloseAllDataChannels` closes the handlers of the dictionary, once each. -/
theorem closeEntries_run {entries : List (String × Nat)} (hOnce : (entries.map Prod.snd).Nodup)
    (b : ChannelBindings) :
    (entries.forM fun e => onHandler e.2 Endpoint.closeDataChannel).run b =
      .ok () (allClosed b (entries.map Prod.snd)) := by
  induction entries generalizing b with
  | nil =>
      show EStateM.Result.ok () b = _
      simp [allClosed, closings]
  | cons e entries ih =>
      simp only [List.map_cons, List.nodup_cons] at hOnce
      show (onHandler e.2 Endpoint.closeDataChannel >>= fun _ =>
        entries.forM fun e => onHandler e.2 Endpoint.closeDataChannel).run b = _
      rw [EStateM.run_bind, closeHandler_run]
      simp only [ih hOnce.2, allClosed_cons hOnce.1, List.map_cons]

/-! ## The invariant -/

/-- Handlers keep their labels; the dictionary finds handlers by them; and a handler that is bound is the one
its label finds, and its channel has that label. -/
structure BindingInvariant (labels : Nat → String) (b : ChannelBindings) : Prop where
  label : ∀ handler, (b.handlers handler).label = labels handler
  filed : ∀ label handler, b.dataChannelHandlersDict.find? label = some handler → labels handler = label
  bound : ∀ handler channel, b.bound handler = some channel →
    b.dataChannelHandlersDict.find? (labels handler) = some handler ∧ channelLabel channel = labels handler

variable {channelLabel} {labels : Nat → String}

variable (channelLabel labels) in
theorem bindingInvariant_fresh (states : Nat → DataState) :
    BindingInvariant channelLabel labels (fresh labels states) where
  label := fun _ => rfl
  filed := fun label handler hFind => by simp [fresh] at hFind
  bound := fun handler channel hBound => by simp [fresh, bound] at hBound

/-- A channel is bound to at most one handler. -/
theorem BindingInvariant.unique {b : ChannelBindings} (h : BindingInvariant channelLabel labels b)
    {handler handler' channel : Nat} (hBound : b.bound handler = some channel)
    (hBound' : b.bound handler' = some channel) : handler = handler' := by
  obtain ⟨hFind, hLabel⟩ := h.bound handler channel hBound
  obtain ⟨hFind', hLabel'⟩ := h.bound handler' channel hBound'
  rw [← hLabel, hLabel', hFind'] at hFind
  exact (Option.some.inj hFind).symm

/-- The dictionary has no handler twice: two of its labels would be the handler's own. -/
theorem BindingInvariant.nodup {b : ChannelBindings} (h : BindingInvariant channelLabel labels b) :
    (b.dataChannelHandlersDict.entries.map Prod.snd).Nodup := by
  have hKeys : (b.dataChannelHandlersDict.entries.map Prod.fst).Nodup :=
    b.dataChannelHandlersDict.sorted.imp fun hLess => hLess.ne
  refine List.Nodup.map_on ?_ (List.Nodup.of_map _ hKeys)
  rintro ⟨label, handler⟩ hMem ⟨label', handler'⟩ hMem' hSame
  obtain rfl : handler = handler' := hSame
  have hLabel := h.filed label handler (OrderedMap.find?_eq_some_iff.mpr hMem)
  have hLabel' := h.filed label' handler (OrderedMap.find?_eq_some_iff.mpr hMem')
  rw [← hLabel, ← hLabel']

/-- `CloseAllDataChannels` closes the handlers of the dictionary, once each. -/
theorem BindingInvariant.step_closeAll {b : ChannelBindings} (h : BindingInvariant channelLabel labels b) :
    step channelLabel b .closeAllDataChannels =
      allClosed b (b.dataChannelHandlersDict.entries.map Prod.snd) := by
  have hRun : (closeAllDataChannels).run b =
      .ok () (allClosed b (b.dataChannelHandlersDict.entries.map Prod.snd)) := by
    rw [closeAllDataChannels, EStateM.run_bind, EStateM.run_get]
    exact closeEntries_run h.nodup b
  rw [step, handle, hRun, finalState_ok]

/-- A handler that is bound is among those that `CloseAllDataChannels` closes. -/
theorem BindingInvariant.mem_of_bound {b : ChannelBindings} (h : BindingInvariant channelLabel labels b)
    {handler channel : Nat} (hBound : b.bound handler = some channel) :
    handler ∈ b.dataChannelHandlersDict.entries.map Prod.snd :=
  List.mem_map_of_mem (OrderedMap.find?_eq_some_iff.mp (h.bound handler channel hBound).1)

/-- Registration files a handler under its own label, and a label that finds one goes on finding it. -/
theorem bindingInvariant_addDataChannelHandler {b : ChannelBindings}
    (h : BindingInvariant channelLabel labels b) (handler : Nat) :
    BindingInvariant channelLabel labels
      { b with dataChannelHandlersDict := b.dataChannelHandlersDict.insert (labels handler) handler } := by
  refine ⟨h.label, ?_, ?_⟩
  · intro label other hFind
    rw [OrderedMap.find?_insert] at hFind
    split_ifs at hFind with hSame
    · cases hOld : b.dataChannelHandlersDict.find? (labels handler) with
      | none =>
          rw [hOld] at hFind
          obtain rfl : handler = other := Option.some.inj hFind
          exact hSame.symm
      | some old =>
          rw [hOld] at hFind
          obtain rfl : old = other := Option.some.inj hFind
          rw [hSame]
          exact h.filed _ _ hOld
    · exact h.filed label other hFind
  · intro other channel hBound
    obtain ⟨hFind, hLabel⟩ := h.bound other channel hBound
    refine ⟨?_, hLabel⟩
    rw [OrderedMap.find?_insert]
    split_ifs with hSame
    · rw [← hSame, hFind]
      rfl
    · exact hFind

/-- A channel is bound to the handler that its label finds. -/
theorem bindingInvariant_withBound {b : ChannelBindings} (h : BindingInvariant channelLabel labels b)
    {handler channel : Nat} (hFind : b.dataChannelHandlersDict.find? (channelLabel channel) = some handler) :
    BindingInvariant channelLabel labels (withBound b handler channel) := by
  have hLabel : labels handler = channelLabel channel := h.filed _ _ hFind
  refine ⟨?_, h.filed, ?_⟩
  · intro other
    by_cases hSame : other = handler
    · subst hSame
      simpa [withBound] using h.label other
    · simpa [withBound, hSame] using h.label other
  · intro other channel' hBound
    by_cases hSame : other = handler
    · subst hSame
      have hChannel : channel = channel' := by simpa [bound, withBound] using hBound
      subst hChannel
      exact ⟨hLabel ▸ hFind, hLabel.symm⟩
    · exact h.bound other channel' (by simpa [bound, withBound, hSame] using hBound)

/-- Handlers that are closed keep their labels, and the others what they are bound to. -/
theorem bindingInvariant_allClosed {b : ChannelBindings} (h : BindingInvariant channelLabel labels b)
    (handlers : List Nat) : BindingInvariant channelLabel labels (allClosed b handlers) := by
  refine ⟨?_, h.filed, ?_⟩
  · intro handler
    by_cases hMem : handler ∈ handlers
    · simpa only [allClosed, if_pos hMem] using h.label handler
    · simpa only [allClosed, if_neg hMem] using h.label handler
  · intro handler channel hBound
    by_cases hMem : handler ∈ handlers
    · simp only [bound, allClosed, if_pos hMem] at hBound
      exact absurd hBound (by simp)
    · simp only [bound, allClosed, if_neg hMem] at hBound
      exact h.bound handler channel hBound

/-- Every call keeps the invariant. -/
theorem bindingInvariant_step {b : ChannelBindings} (h : BindingInvariant channelLabel labels b)
    (event : BindingEvent) : BindingInvariant channelLabel labels (step channelLabel b event) := by
  cases event with
  | addDataChannelHandler handler =>
      rw [step, handle, addDataChannelHandler_run, finalState_ok, h.label handler]
      exact bindingInvariant_addDataChannelHandler h handler
  | onDataChannel channel throws =>
      rw [step, handle]
      rcases onDataChannel_cases channelLabel b channel throws with hSame | ⟨handler, hFind, -, hBound⟩
      · rw [hSame]
        exact h
      · rw [hBound]
        exact bindingInvariant_withBound h hFind
  | stateChange channel state => exact ⟨h.label, h.filed, h.bound⟩
  | closeAllDataChannels =>
      rw [h.step_closeAll]
      exact bindingInvariant_allClosed h _

/-- Any number of calls keeps the invariant. -/
theorem bindingInvariant_run {b : ChannelBindings} (h : BindingInvariant channelLabel labels b)
    (events : List BindingEvent) :
    BindingInvariant channelLabel labels (run (step channelLabel) b events) :=
  run_invariant (I := BindingInvariant channelLabel labels) (A := fun _ => True)
    (fun _ event _ hBefore => bindingInvariant_step hBefore event) h
    fun _ _ => trivial

/-! ## What a label finds -/

/-- Only registrations change the dictionary. -/
theorem dict_step {b : ChannelBindings} (h : BindingInvariant channelLabel labels b) (event : BindingEvent) :
    (step channelLabel b event).dataChannelHandlersDict =
      registerNew labels b.dataChannelHandlersDict (added [event]) := by
  cases event with
  | addDataChannelHandler handler =>
      rw [step, handle, addDataChannelHandler_run, finalState_ok, h.label handler]
      rfl
  | onDataChannel channel throws =>
      rw [step, handle]
      rcases onDataChannel_cases channelLabel b channel throws with hSame | ⟨handler, -, -, hBound⟩
      · rw [hSame]
        rfl
      · rw [hBound]
        rfl
  | stateChange channel state => rfl
  | closeAllDataChannels =>
      rw [h.step_closeAll]
      rfl

/-- The dictionary after a run has the first handler registered with each label. -/
theorem dict_run {b : ChannelBindings} (h : BindingInvariant channelLabel labels b)
    (events : List BindingEvent) :
    (run (step channelLabel) b events).dataChannelHandlersDict =
      registerNew labels b.dataChannelHandlersDict (added events) := by
  induction events generalizing b with
  | nil => rfl
  | cons event events ih =>
      have hAdded : added (event :: events) = added [event] ++ added events := by
        rw [added, added, added, ← List.filterMap_append, List.singleton_append]
      rw [run_cons, ih (bindingInvariant_step h event), dict_step h event, hAdded, registerNew_append]

/-! ## Replacing and closing -/

/-- A handler bound to an open channel is bound to nothing else after the next call. -/
theorem bound_open_step {b : ChannelBindings} (h : BindingInvariant channelLabel labels b)
    {handler channel : Nat} (hBound : b.bound handler = some channel)
    (hOpen : b.channels.states channel = .kOpen) (event : BindingEvent) :
    ∀ channel', (step channelLabel b event).bound handler = some channel' → channel' = channel := by
  have hSame {channel' : Nat} (hStill : b.bound handler = some channel') : channel' = channel := by
    rw [hBound] at hStill
    exact (Option.some.inj hStill).symm
  intro channel' hAfter
  cases event with
  | addDataChannelHandler other =>
      rw [step, handle, addDataChannelHandler_run, finalState_ok] at hAfter
      exact hSame hAfter
  | onDataChannel other throws =>
      rw [step, handle] at hAfter
      rcases onDataChannel_cases channelLabel b other throws with hUnchanged | ⟨found, -, hNotOpen, hFound⟩
      · rw [hUnchanged] at hAfter
        exact hSame hAfter
      · rw [hFound] at hAfter
        have hIt : handler ≠ found := by
          -- the channel of the handler is open, so it is not the one that was bound
          rintro rfl
          unfold bound at hBound
          exact hNotOpen (by simp [Endpoint.getState, hBound, hOpen])
        apply hSame
        simpa [bound, withBound, hIt] using hAfter
  | stateChange other state => exact hSame hAfter
  | closeAllDataChannels =>
      rw [h.step_closeAll] at hAfter
      simp only [bound, allClosed, if_pos (h.mem_of_bound hBound)] at hAfter
      exact absurd hAfter (by simp)

/-- The call closes the channel. -/
def closesChannel (channel : Nat) : ChannelCall DataBuffer → Bool
  | .close closed => closed = channel
  | _ => false

/-- Of handlers without repetition, of which one is bound to a channel and no other, the closing closes the
channel once. -/
theorem countP_closings {b : ChannelBindings} {channel : Nat} {handlers : List Nat}
    (hOnce : handlers.Nodup) {handler : Nat} (hBound : b.bound handler = some channel)
    (hOnly : ∀ other, b.bound other = some channel → other = handler) :
    (closings b handlers).countP (closesChannel channel) = if handler ∈ handlers then 1 else 0 := by
  induction handlers with
  | nil => rfl
  | cons other rest ih =>
      simp only [List.nodup_cons] at hOnce
      have hRest := ih hOnce.2
      by_cases hSame : other = handler
      · subst hSame
        have hCons : closings b (other :: rest) = .close channel :: closings b rest := by
          simp [closings, hBound]
        rw [hCons, List.countP_cons, hRest]
        simp [hOnce.1, closesChannel]
      · have hOther : handler ≠ other := fun h => hSame h.symm
        cases hOtherBound : b.bound other with
        | none =>
            have hCons : closings b (other :: rest) = closings b rest := by simp [closings, hOtherBound]
            rw [hCons, hRest]
            simp [hOther]
        | some closed =>
            have hCons : closings b (other :: rest) = .close closed :: closings b rest := by
              simp [closings, hOtherBound]
            have hClosed : closed ≠ channel := fun h => hSame (hOnly other (h ▸ hOtherBound))
            rw [hCons, List.countP_cons, hRest]
            simp [hOther, closesChannel, hClosed]

/-- The calls an event makes on channels. -/
def callsOf (channelLabel : Nat → String) (b : ChannelBindings) (event : BindingEvent) :
    List (ChannelCall DataBuffer) :=
  (step channelLabel b event).channels.calls.drop b.channels.calls.length

/-- **Channels are bound to the right handler.**  After any calls and state changes, a label finds the handler
registered first with it, a bound channel has the label of its handler and no other handler, the next call
replaces no open channel, and `CloseAllDataChannels` leaves no handler bound and closes every channel that
was bound exactly once. -/
theorem channels_bound_right (labels channelLabel : Nat → String) (states : Nat → DataState)
    (events : List BindingEvent) :
    let b := run (step channelLabel) (fresh labels states) events
    (∀ label, b.dataChannelHandlersDict.find? label = first labels label (added events)) ∧
      (∀ handler channel, b.bound handler = some channel → channelLabel channel = labels handler) ∧
      (∀ handler handler' channel, b.bound handler = some channel → b.bound handler' = some channel →
        handler = handler') ∧
      (∀ handler channel event, b.bound handler = some channel → b.channels.states channel = .kOpen →
        ∀ channel', (step channelLabel b event).bound handler = some channel' → channel' = channel) ∧
      (∀ handler, (step channelLabel b .closeAllDataChannels).bound handler = none) ∧
      ∀ handler channel, b.bound handler = some channel →
        (callsOf channelLabel b .closeAllDataChannels).countP (closesChannel channel) = 1 := by
  intro b
  have hFresh := bindingInvariant_fresh channelLabel labels states
  have h : BindingInvariant channelLabel labels b := bindingInvariant_run hFresh events
  refine ⟨?_, ?_, ?_, ?_, ?_, ?_⟩
  · intro label
    have hDict : b.dataChannelHandlersDict = _ := dict_run hFresh events
    rw [hDict, find?_registerNew]
    exact Option.none_or
  · intro handler channel hBound
    exact (h.bound handler channel hBound).2
  · intro handler handler' channel hBound hBound'
    exact h.unique hBound hBound'
  · intro handler channel event hBound hOpen
    exact bound_open_step h hBound hOpen event
  · intro handler
    rw [h.step_closeAll]
    by_cases hMem : handler ∈ b.dataChannelHandlersDict.entries.map Prod.snd
    · simp only [bound, allClosed, if_pos hMem]
    · -- a handler outside the dictionary has never been bound
      simp only [bound, allClosed, if_neg hMem]
      by_contra hBound
      obtain ⟨channel, hChannel⟩ := Option.ne_none_iff_exists'.mp hBound
      exact hMem (h.mem_of_bound hChannel)
  · intro handler channel hBound
    have hCalls : callsOf channelLabel b .closeAllDataChannels =
        closings b (b.dataChannelHandlersDict.entries.map Prod.snd) := by
      rw [callsOf, h.step_closeAll]
      exact List.drop_left
    rw [hCalls, countP_closings h.nodup hBound fun other hOther => h.unique hOther hBound,
      if_pos (h.mem_of_bound hBound)]

/-! ## The connector of a `World` -/

section World

variable {σ : Type} {env : Environment}

/-- The connector of a `World` has the handlers themselves where the pointers are. -/
def Represents (b : ChannelBindings) (w : World σ) : Prop :=
  w.channels = b.channels ∧
    w.connector.dataChannelHandlersDict.entries =
      b.dataChannelHandlersDict.entries.map fun e => (e.1, b.handlers e.2)

theorem Represents.find? {b : ChannelBindings} {w : World σ} (hRep : Represents b w) (label : String) :
    w.connector.dataChannelHandlersDict.find? label =
      (b.dataChannelHandlersDict.find? label).map b.handlers := by
  show OrderedMap.lookup label w.connector.dataChannelHandlersDict.entries = _
  rw [hRep.2]
  show _ = (OrderedMap.lookup label b.dataChannelHandlersDict.entries).map b.handlers
  induction b.dataChannelHandlersDict.entries with
  | nil => rfl
  | cons e rest ih =>
      simp only [List.map_cons, OrderedMap.lookup]
      split_ifs
      · rfl
      · exact ih

/-- A member function of a handler does the same through its pointer and in the dictionary. -/
theorem represents_onHandler {b : ChannelBindings} {w : World σ}
    (h : BindingInvariant channelLabel labels b) (hRep : Represents b w) {label : String} {handler : Nat}
    (hFind : b.dataChannelHandlersDict.find? label = some handler)
    (p : Program (Endpoint DataBuffer) Unit) :
    Represents (finalState ((onHandler handler p).run b))
      (finalState ((World.onDataChannelHandler label p).run w)) := by
  have hImpl : w.connector.dataChannelHandlersDict.find? label = some (b.handlers handler) := by
    rw [hRep.find?, hFind]
    rfl
  have hLabel : labels handler = label := h.filed label handler hFind
  rw [World.onDataChannelHandler, EStateM.run_bind, EStateM.run_get]
  simp only [hImpl]
  rw [onHandler, finalState_zoom, finalState_zoom]
  refine ⟨by simp only [hRep.1], ?_⟩
  simp only [OrderedMap.modify, hRep.2, List.map_map, hRep.1]
  refine List.map_congr_left fun e hMem => ?_
  obtain ⟨label', handler'⟩ := e
  have hFind' := OrderedMap.find?_eq_some_iff.mpr hMem
  by_cases hSame : handler' = handler
  · subst hSame
    have hKey : label' = label := (h.filed _ _ hFind').symm.trans hLabel
    simp [hKey]
  · have hKey : label' ≠ label := by
      rintro rfl
      rw [hFind] at hFind'
      exact hSame (Option.some.inj hFind').symm
    simp [hKey, hSame]

/-- Registering a new handler object is registering a new handler in the dictionary. -/
theorem represents_addDataChannelHandler {b : ChannelBindings} {w : World σ} (hRep : Represents b w)
    {label : String} {handler : Nat} (hNew : b.handlers handler = { label := label }) :
    Represents (finalState ((addDataChannelHandler handler).run b))
      (finalState ((World.addDataChannelHandler label).run w)) := by
  have hLabel : (b.handlers handler).label = label := by rw [hNew]
  have hWorld : (finalState ((World.addDataChannelHandler label).run w)).connector.dataChannelHandlersDict =
      w.connector.dataChannelHandlersDict.insert label { label := label } := by
    by_cases hTaken : (w.connector.dataChannelHandlersDict.find? label).isSome = true
    · simp [World.addDataChannelHandler, hTaken, OrderedMap.insert_of_isSome hTaken]
    · simp [World.addDataChannelHandler, hTaken]
  rw [addDataChannelHandler_run, finalState_ok, hLabel]
  constructor
  · show _ = b.channels
    rw [← hRep.1]
    by_cases hTaken : (w.connector.dataChannelHandlersDict.find? label).isSome = true
    · simp [World.addDataChannelHandler, hTaken]
    · simp [World.addDataChannelHandler, hTaken]
  · rw [hWorld]
    show OrderedMap.insertEntries label _ w.connector.dataChannelHandlersDict.entries =
      (OrderedMap.insertEntries label handler b.dataChannelHandlersDict.entries).map fun e =>
        (e.1, b.handlers e.2)
    rw [OrderedMap.map_insertEntries, hRep.2, hNew]

end World

end ChannelBindings
end MosaicCore
