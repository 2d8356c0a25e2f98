import MosaicCore.Handlers.SendQueue

/-!
# The asynchronous send queue across channels

`CloseDataChannel` resets `dc_interface_` only: `send_queue_`, `is_sending_` and the callback in flight
stay.  Here the handler is followed over any number of channels.  Every buffer carries, as a tag the queue
code never reads, the channel that was bound when `SendAsync` accepted it, so that

* a buffer handed to the channel it was accepted for is a pair `(channel, (buffer, some channel))`;
* a message leaking into a later session is a handed pair with two different channels.

`orphaned` remembers that some `CloseDataChannel` or `SetDataChannelInterface` found `send_queue_`
non-empty.  Up to there every queued buffer belongs to the bound channel; from there on the front of the
queue belongs to a channel that is gone, the queue cannot drain, and the next callback hands that front
buffer to the wrong channel or through the null pointer.
-/

namespace MosaicCore
namespace Endpoint

open EffectProgram EventRun

variable {β : Type}

/-- The event drops or replaces the bound channel. -/
def unbinds : SendEvent β → Bool
  | .closeDataChannel => true
  | .setDataChannelInterface => true
  | _ => false

/-- Sends reach the handler through `DataChannelSendable`. -/
def FromSendable : SendEvent β → Prop
  | .sendAsync _ => False
  | _ => True

/-- A handler whose buffers carry the channel bound at their acceptance, and whether a queue was left
behind by a channel. -/
structure Watched (β : Type) where
  endpoint : Endpoint (β × Option Nat)
  orphaned : Bool

/-- The event with its buffer tagged. -/
def tagged (w : Watched β) : SendEvent β → SendEvent (β × Option Nat)
  | .send buffer isAsync => .send (buffer, w.endpoint.impl.dcInterface) isAsync
  | .sendAsync buffer => .sendAsync (buffer, w.endpoint.impl.dcInterface)
  | .complete index ok => .complete index ok
  | .closeDataChannel => .closeDataChannel
  | .setDataChannelInterface => .setDataChannelInterface
  | .stateChange channel state => .stateChange channel state

/-- One event of the watched handler. -/
def watchedStep (w : Watched β) (event : SendEvent β) : Watched β where
  endpoint := step w.endpoint (tagged w event)
  orphaned := w.orphaned || (unbinds event && !w.endpoint.impl.sendQueue.isEmpty)

/-- Every buffer handed to a channel was accepted while that channel was bound. -/
def HandedToOwn (e : Endpoint (β × Option Nat)) : Prop :=
  ∀ p ∈ handed e, p.2.2 = some p.1

instance (e : Endpoint (β × Option Nat)) : Decidable (HandedToOwn e) :=
  inferInstanceAs (Decidable (∀ p ∈ handed e, p.2.2 = some p.1))

/-- The event runs into no null pointer and leaves only rightly delivered buffers. -/
def Confined (w : Watched β) (event : SendEvent β) : Prop :=
  dereferencesNull w.endpoint (tagged w event) = false ∧ HandedToOwn (watchedStep w event).endpoint

instance (w : Watched β) (event : SendEvent β) : Decidable (Confined w event) :=
  inferInstanceAs (Decidable (_ ∧ _))

/-- No completion callback is delivered once a channel has left a queue behind. -/
def NoLateCallback (w : Watched β) : SendEvent β → Prop
  | .complete index _ => index < w.endpoint.channels.awaiting.length → w.orphaned = false
  | _ => True

/-- What holds until a late callback: every queued buffer belongs to the bound channel, or the queue
was left behind and its front belongs to a channel that will never be bound again. -/
structure SessionInvariant (w : Watched β) : Prop where
  singleFlight : SingleFlight w.endpoint
  noStall : NoStall w.endpoint
  handedToOwn : HandedToOwn w.endpoint
  bound_lt : ∀ channel, w.endpoint.impl.dcInterface = some channel →
    channel < w.endpoint.channels.delivered
  own : w.orphaned = false → ∀ p ∈ w.endpoint.impl.sendQueue, ∃ channel,
    p.2 = some channel ∧ w.endpoint.impl.dcInterface = some channel
  stale : w.orphaned = true → ∃ buffer channel rest,
    w.endpoint.impl.sendQueue = (buffer, some channel) :: rest ∧
      channel < w.endpoint.channels.delivered ∧ w.endpoint.impl.dcInterface ≠ some channel

/-- A handler before its first channel. -/
def unbound (label : String) (states : Nat → DataState) : Watched β where
  endpoint := { impl := { label := label }, channels := { states := states } }
  orphaned := false

theorem sessionInvariant_unbound (label : String) (states : Nat → DataState) :
    SessionInvariant (unbound label states : Watched β) where
  singleFlight := rfl
  noStall := fun hWait => absurd rfl hWait
  handedToOwn := fun p hp => absurd hp (by simp [unbound, handed])
  bound_lt := fun channel hBound => by simp [unbound] at hBound
  own := fun _ p hp => absurd hp (by simp [unbound])
  stale := fun hOrphaned => by simp [unbound] at hOrphaned

/-- A send behind a flight only joins the queue. -/
theorem step_send_waiting {e : Endpoint β} {buffer : β} (hOpen : sendable e = true)
    (hSending : e.impl.isSending = true) :
    handle (.send buffer true) e = .ok ()
      { e with impl := { e.impl with sendQueue := e.impl.sendQueue ++ [buffer] } } := by
  have hStop : processQueue.run
      { e with impl := { e.impl with sendQueue := e.impl.sendQueue ++ [buffer] } } =
        .ok () { e with impl := { e.impl with sendQueue := e.impl.sendQueue ++ [buffer] } } :=
    processQueue_run_sending hSending
  simp [handle, send, hOpen, implSendAsync, hStop]

/-- A send with nothing in flight and nothing queued goes straight to the channel. -/
theorem step_send_idle {e : Endpoint β} {buffer : β} {channel : Nat} (hOpen : sendable e = true)
    (hIdle : e.impl.isSending = false) (hQueue : e.impl.sendQueue = [])
    (hBound : e.impl.dcInterface = some channel) :
    handle (.send buffer true) e = .ok () (handOver e channel buffer []) := by
  have hGo := processQueue_run_handOver
    (e := { e with impl := { e.impl with sendQueue := e.impl.sendQueue ++ [buffer] } })
    hIdle (show e.impl.sendQueue ++ [buffer] = buffer :: [] by simp [hQueue]) hBound
  simp [handle, send, hOpen, implSendAsync, hGo, handOver]

/-- A sendable handler has a channel. -/
theorem bound_of_sendable {e : Endpoint β} (hOpen : sendable e = true) :
    ∃ channel, e.impl.dcInterface = some channel := by
  cases hBound : e.impl.dcInterface with
  | none => simp [sendable, getState, hBound] at hOpen
  | some channel => exact ⟨channel, rfl⟩

/-- A direct send calls the bound channel and leaves the queue alone. -/
theorem step_send_direct {e : Endpoint β} {buffer : β} {channel : Nat} (hOpen : sendable e = true)
    (hBound : e.impl.dcInterface = some channel) :
    handle (.send buffer false) e = (call (.send channel buffer)).run e := by
  simp [handle, send, hOpen, implSend, hBound]

/-- A send through a handler that is not sendable does nothing. -/
theorem step_send_refused {e : Endpoint β} {buffer : β} {isAsync : Bool} (hShut : ¬ sendable e = true) :
    handle (.send buffer isAsync) e = .ok () e := by
  simp [handle, send, hShut]

/-- A completion callback that finds nothing queued only ends the flight. -/
theorem step_complete_empty {e : Endpoint β} {index : Nat} {ok : Bool}
    (hIndex : index < e.channels.awaiting.length) (hQueue : e.impl.sendQueue = []) :
    handle (.complete index ok) e = .ok ()
      { impl := { e.impl with isSending := false }
        channels := { e.channels with awaiting := e.channels.awaiting.eraseIdx index } } := by
  simp [handle, hIndex, onSendComplete, processQueue, hQueue]

/-- A completion callback hands the front of the queue to whatever channel is bound by then. -/
theorem step_complete_handOver {e : Endpoint β} {index channel : Nat} (ok : Bool) {buffer : β}
    {rest : List β} (hIndex : index < e.channels.awaiting.length)
    (hQueue : e.impl.sendQueue = buffer :: rest) (hBound : e.impl.dcInterface = some channel) :
    handle (.complete index ok) e = .ok ()
      (handOver { impl := { e.impl with isSending := false }
                  channels := { e.channels with awaiting := e.channels.awaiting.eraseIdx index } }
        channel buffer rest) := by
  simp [handle, hIndex, onSendComplete, processQueue, hQueue, hBound, callSendAsync, handOver]

/-- A completion callback that finds buffers queued and no channel bound uses the null pointer. -/
theorem step_complete_null {e : Endpoint β} {index : Nat} (ok : Bool) {buffer : β} {rest : List β}
    (hIndex : index < e.channels.awaiting.length) (hQueue : e.impl.sendQueue = buffer :: rest)
    (hBound : e.impl.dcInterface = none) :
    dereferencesNull e (.complete index ok) = true := by
  have hNull := processQueue_run_null
    (e := { impl := { e.impl with isSending := false }
            channels := { e.channels with awaiting := e.channels.awaiting.eraseIdx index } })
    rfl hQueue hBound
  simp [dereferencesNull, handle, hIndex, onSendComplete, hNull]

/-! ## One event -/

/-- The event is confined and keeps the invariant. -/
def Safe (w : Watched β) (event : SendEvent β) : Prop :=
  Confined w event ∧ SessionInvariant (watchedStep w event)

/-- An event that returns in a state satisfying the invariant is safe. -/
theorem safe_of_ok {w : Watched β} {event : SendEvent β} {e : Endpoint (β × Option Nat)}
    (hRun : handle (tagged w event) w.endpoint = .ok () e)
    (h : SessionInvariant ⟨e, w.orphaned || (unbinds event && !w.endpoint.impl.sendQueue.isEmpty)⟩) :
    Safe w event := by
  have hStep : step w.endpoint (tagged w event) = e := by rw [step, hRun]; rfl
  have hWatched : watchedStep w event =
      ⟨e, w.orphaned || (unbinds event && !w.endpoint.impl.sendQueue.isEmpty)⟩ := by
    rw [watchedStep, hStep]
  refine ⟨⟨?_, ?_⟩, ?_⟩
  · rw [dereferencesNull, hRun]
  · rw [hWatched]
    exact h.handedToOwn
  · rw [hWatched]
    exact h

/-- With nothing in flight nothing is queued, so no channel has left a queue behind. -/
theorem SessionInvariant.queue_nil {w : Watched β} (h : SessionInvariant w)
    (hIdle : w.endpoint.impl.isSending = false) : w.endpoint.impl.sendQueue = [] := by
  by_contra hWait
  rw [h.noStall hWait] at hIdle
  exact absurd hIdle (by simp)

theorem SessionInvariant.orphaned_of_nil {w : Watched β} (h : SessionInvariant w)
    (hQueue : w.endpoint.impl.sendQueue = []) : w.orphaned = false := by
  by_contra hOrphaned
  obtain ⟨buffer, channel, rest, hFront, _⟩ := h.stale (by simpa using hOrphaned)
  rw [hQueue] at hFront
  exact absurd hFront (by simp)

theorem SessionInvariant.awaiting_nil {w : Watched β} (h : SessionInvariant w)
    (hIdle : w.endpoint.impl.isSending = false) : w.endpoint.channels.awaiting = [] := by
  have hFlight := h.singleFlight
  simpa [SingleFlight, hIdle] using hFlight

/-- Sending through `DataChannelSendable` is safe in every session. -/
theorem safe_send {w : Watched β} (h : SessionInvariant w) (buffer : β) (isAsync : Bool) :
    Safe w (.send buffer isAsync) := by
  by_cases hOpen : sendable w.endpoint = true
  · obtain ⟨channel, hBound⟩ := bound_of_sendable hOpen
    cases isAsync with
    | false =>
        have hCall := handed_call_other (e := w.endpoint)
          (c := .send channel (buffer, w.endpoint.impl.dcInterface)) (by simp)
        -- A direct send passes the queue by.
        refine safe_of_ok (step_send_direct hOpen hBound) ?_
        simp only [unbinds, Bool.false_and, Bool.or_false]
        exact ⟨h.singleFlight, h.noStall, fun p hp => h.handedToOwn p (hCall ▸ hp), h.bound_lt, h.own,
          h.stale⟩
    | true =>
        cases hSending : w.endpoint.impl.isSending with
        | true =>
            -- Behind a buffer in flight, at the end of the queue.
            refine safe_of_ok (step_send_waiting hOpen hSending) ?_
            simp only [unbinds, Bool.false_and, Bool.or_false]
            refine ⟨h.singleFlight, fun _ => hSending, h.handedToOwn, h.bound_lt, ?_, ?_⟩
            · intro hOwn p hp
              rcases List.mem_append.mp hp with hOld | hNew
              · exact h.own hOwn p hOld
              · rw [List.mem_singleton.mp hNew]
                exact ⟨channel, hBound, hBound⟩
            · intro hOrphaned
              obtain ⟨front, old, rest, hFront, hOld, hGone⟩ := h.stale hOrphaned
              refine ⟨front, old, rest ++ [(buffer, w.endpoint.impl.dcInterface)], ?_, hOld, hGone⟩
              show w.endpoint.impl.sendQueue ++ _ = _
              rw [hFront, List.cons_append]
        | false =>
            -- With nothing in flight the queue is empty, and the buffer goes to the channel at once.
            have hQueue := h.queue_nil hSending
            have hNone := h.awaiting_nil hSending
            refine safe_of_ok (step_send_idle hOpen hSending hQueue hBound) ?_
            simp only [unbinds, Bool.false_and, Bool.or_false]
            refine ⟨by simp [SingleFlight, handOver, hNone], fun _ => rfl, ?_, h.bound_lt,
              fun _ p hp => absurd hp (by simp [handOver]), fun hOrphaned => ?_⟩
            · intro p hp
              rw [handed_handOver] at hp
              rcases List.mem_append.mp hp with hOld | hNew
              · exact h.handedToOwn p hOld
              · rw [List.mem_singleton.mp hNew]
                exact hBound
            · rw [h.orphaned_of_nil hQueue] at hOrphaned
              exact absurd hOrphaned (by simp)
  · refine safe_of_ok (step_send_refused hOpen) ?_
    simp only [unbinds, Bool.false_and, Bool.or_false]
    exact h

/-- A callback while every queued buffer belongs to the bound channel starts the next of its own. -/
theorem safe_complete {w : Watched β} (h : SessionInvariant w) (hOwn : w.orphaned = false)
    {index : Nat} (ok : Bool) (hIndex : index < w.endpoint.channels.awaiting.length) :
    Safe w (.complete index ok) := by
  have hOne : w.endpoint.channels.awaiting.length = 1 := by
    have hFlight := h.singleFlight
    unfold SingleFlight at hFlight
    split at hFlight <;> omega
  have hErased : w.endpoint.channels.awaiting.eraseIdx index = [] := by
    rw [← List.length_eq_zero_iff, List.length_eraseIdx_of_lt hIndex, hOne]
  cases hQueue : w.endpoint.impl.sendQueue with
  | nil =>
      refine safe_of_ok (step_complete_empty hIndex hQueue) ?_
      simp only [unbinds, Bool.false_and, Bool.or_false]
      exact ⟨by simp [SingleFlight, hErased], fun hWait => absurd hQueue hWait, h.handedToOwn, h.bound_lt,
        h.own, h.stale⟩
  | cons front rest =>
      -- Nothing is orphaned, so the next buffer belongs to the channel that is bound.
      obtain ⟨channel, hTag, hBound⟩ := h.own hOwn front (by simp [hQueue])
      refine safe_of_ok (step_complete_handOver _ hIndex hQueue hBound) ?_
      simp only [unbinds, Bool.false_and, Bool.or_false]
      refine ⟨by simp [SingleFlight, handOver, hErased], fun _ => rfl, ?_, h.bound_lt, ?_, ?_⟩
      · intro p hp
        rw [handed_handOver] at hp
        rcases List.mem_append.mp hp with hOld | hNew
        · exact h.handedToOwn p hOld
        · rw [List.mem_singleton.mp hNew]
          exact hTag
      · intro _ p hp
        exact h.own hOwn p (by rw [hQueue]; exact List.mem_cons_of_mem _ hp)
      · intro hOrphaned
        rw [hOwn] at hOrphaned
        exact absurd hOrphaned (by simp)

/-- Dropping or replacing the channel delivers nothing, but orphans what is queued. -/
theorem safe_unbind {w : Watched β} (h : SessionInvariant w) {event : SendEvent β}
    {e : Endpoint (β × Option Nat)} (hUnbinds : unbinds event = true)
    (hRun : handle (tagged w event) w.endpoint = .ok () e)
    (hQueue : e.impl.sendQueue = w.endpoint.impl.sendQueue)
    (hSending : e.impl.isSending = w.endpoint.impl.isSending)
    (hAwaiting : e.channels.awaiting = w.endpoint.channels.awaiting)
    (hHanded : handed e = handed w.endpoint)
    (hDelivered : w.endpoint.channels.delivered ≤ e.channels.delivered)
    (hFresh : e.impl.dcInterface = none ∨ (e.impl.dcInterface = some w.endpoint.channels.delivered ∧
      w.endpoint.channels.delivered < e.channels.delivered)) :
    Safe w event := by
  refine safe_of_ok hRun ⟨?_, ?_, ?_, ?_, ?_, ?_⟩
  · have hFlight := h.singleFlight
    simpa [SingleFlight, hAwaiting, hSending] using hFlight
  · intro hWait
    show e.impl.isSending = true
    rw [hSending]
    exact h.noStall (hQueue ▸ hWait)
  · intro p hp
    exact h.handedToOwn p (hHanded ▸ hp)
  · intro channel hBound
    rcases hFresh with hNone | ⟨hNew, hLess⟩
    · simp [hNone] at hBound
    · rw [hNew] at hBound
      cases hBound
      exact hLess
  · intro hOwn p hp
    -- Nothing was queued, or this very event has orphaned the queue.
    simp [hUnbinds] at hOwn
    simp [hQueue, hOwn.2] at hp
  · intro hLeft
    have hOld : ∀ buffer channel, (buffer, some channel) ∈ w.endpoint.impl.sendQueue →
        channel < w.endpoint.channels.delivered →
        channel < e.channels.delivered ∧ e.impl.dcInterface ≠ some channel := by
      intro buffer channel _ hLess
      refine ⟨by omega, ?_⟩
      rcases hFresh with hNone | ⟨hNew, _⟩
      · simp [hNone]
      · rw [hNew]
        intro hSame
        exact absurd (Option.some.inj hSame) (by omega)
    show ∃ buffer channel rest, e.impl.sendQueue = (buffer, some channel) :: rest ∧ _
    rw [hQueue]
    cases hOrphaned : w.orphaned with
    | true =>
        obtain ⟨front, channel, rest, hFront, hLess, _⟩ := h.stale hOrphaned
        exact ⟨front, channel, rest, hFront, hOld front channel (by simp [hFront]) hLess⟩
    | false =>
        cases hFront : w.endpoint.impl.sendQueue with
        | nil => simp [hOrphaned, hFront] at hLeft
        | cons front rest =>
            have hMem : front ∈ w.endpoint.impl.sendQueue := by simp [hFront]
            obtain ⟨channel, hTag, hBound⟩ := h.own hOrphaned front hMem
            have hEntry : front = (front.1, some channel) := by rw [← hTag]
            refine ⟨front.1, channel, rest, by rw [← hEntry], ?_⟩
            exact hOld front.1 channel (hEntry ▸ hMem) (h.bound_lt channel hBound)

/-- A callback after a channel left a queue behind hands a buffer of that channel to another channel,
or runs into the null pointer. -/
theorem not_confined_late {w : Watched β} (h : SessionInvariant w) (hOrphaned : w.orphaned = true)
    {index : Nat} (ok : Bool) (hIndex : index < w.endpoint.channels.awaiting.length) :
    ¬ Confined w (.complete index ok) := by
  obtain ⟨front, old, rest, hFront, _, hGone⟩ := h.stale hOrphaned
  rintro ⟨hNoNull, hOwn⟩
  cases hBound : w.endpoint.impl.dcInterface with
  | none =>
      have hNull := step_complete_null ok hIndex hFront hBound
      simp [tagged, hNull] at hNoNull
  | some channel =>
      have hStep : (watchedStep w (.complete index ok)).endpoint = _ :=
        congrArg finalState (step_complete_handOver ok hIndex hFront hBound)
      rw [hStep] at hOwn
      have hTag : some old = some channel := hOwn (channel, (front, some old)) (by simp)
      exact hGone (hBound.trans hTag.symm)

/-- Under the invariant, the events that are safe are exactly those that are no late callback. -/
theorem safe_of_noLateCallback {w : Watched β} (h : SessionInvariant w) {event : SendEvent β}
    (hFrom : FromSendable event) (hTimely : NoLateCallback w event) : Safe w event := by
  cases event with
  | send buffer isAsync => exact safe_send h buffer isAsync
  | sendAsync buffer => exact absurd hFrom id
  | complete index ok =>
      by_cases hIndex : index < w.endpoint.channels.awaiting.length
      · exact safe_complete h (hTimely hIndex) ok hIndex
      · have hRun : handle (tagged w (.complete index ok)) w.endpoint = .ok () w.endpoint := by
          simp [tagged, handle, hIndex]
        refine safe_of_ok hRun ?_
        simp only [unbinds, Bool.false_and, Bool.or_false]
        exact h
  | closeDataChannel =>
      cases hBound : w.endpoint.impl.dcInterface with
      | none =>
          have hRun : handle .closeDataChannel w.endpoint = .ok () w.endpoint := by
            simp [handle, closeDataChannel, hBound]
          exact safe_unbind h rfl hRun rfl rfl rfl rfl (Nat.le_refl _) (.inl hBound)
      | some channel =>
          have hRun : handle .closeDataChannel w.endpoint = .ok ()
              { impl := { w.endpoint.impl with dcInterface := none }
                channels := { w.endpoint.channels with
                  calls := w.endpoint.channels.calls ++ [.close channel] } } := by
            simp [handle, closeDataChannel, hBound, call]
          exact safe_unbind h rfl hRun rfl rfl rfl (by simp [handed]) (Nat.le_refl _) (.inl rfl)
  | setDataChannelInterface =>
      have hRun : handle .setDataChannelInterface w.endpoint = .ok ()
          { impl := { w.endpoint.impl with dcInterface := some w.endpoint.channels.delivered }
            channels := { w.endpoint.channels with
              delivered := w.endpoint.channels.delivered + 1 } } := by
        simp [handle, setDataChannelInterface]
      exact safe_unbind h rfl hRun rfl rfl rfl rfl (Nat.le_succ _) (.inr ⟨rfl, Nat.lt_succ_self _⟩)
  | stateChange channel state =>
      refine safe_of_ok rfl ?_
      simp only [unbinds, Bool.false_and, Bool.or_false]
      exact ⟨h.singleFlight, h.noStall, h.handedToOwn, h.bound_lt, h.own, h.stale⟩

theorem noLateCallback_of_confined {w : Watched β} (h : SessionInvariant w) {event : SendEvent β}
    (hConfined : Confined w event) : NoLateCallback w event := by
  cases event with
  | complete index ok =>
      intro hIndex
      by_contra hOrphaned
      exact not_confined_late h (by simpa using hOrphaned) ok hIndex hConfined
  | send buffer isAsync => trivial
  | sendAsync buffer => trivial
  | closeDataChannel => trivial
  | setDataChannelInterface => trivial
  | stateChange channel state => trivial

/-! ## Whole runs -/

/-- **When no message outlives its channel.**  Along any run of sends, callbacks, closes and rebinds, every
event stays off the null `dc_interface_` and hands buffers only to the channel they were accepted for,
exactly when no completion callback arrives after a `CloseDataChannel` or `SetDataChannelInterface`
that found `send_queue_` non-empty. -/
theorem confined_iff_noLateCallback (label : String) (states : Nat → DataState)
    (events : List (SendEvent β)) (hFrom : ∀ event ∈ events, FromSendable event) :
    EachStep watchedStep Confined (unbound label states) events ↔
      EachStep watchedStep NoLateCallback (unbound label states) events := by
  refine eachStep_iff (A := FromSendable) ?_ ?_ (sessionInvariant_unbound label states) hFrom
  · intro w event hEvent h hConfined
    exact (safe_of_noLateCallback h hEvent (noLateCallback_of_confined h hConfined)).2
  · intro w event hEvent h
    exact ⟨noLateCallback_of_confined h, fun hTimely => (safe_of_noLateCallback h hEvent hTimely).1⟩

/-- Two sends, a close and a new channel before the first callback. -/
theorem confined_iff_noLateCallback_reopened :
    let events : List (SendEvent Nat) :=
      [.setDataChannelInterface, .send 7 true, .send 8 true, .closeDataChannel,
        .setDataChannelInterface, .complete 0 true]
    EachStep watchedStep Confined (unbound "telemetry" fun _ => .kOpen) events ↔
      EachStep watchedStep NoLateCallback (unbound "telemetry" fun _ => .kOpen) events :=
  confined_iff_noLateCallback "telemetry" (fun _ => .kOpen)
    [.setDataChannelInterface, .send 7 true, .send 8 true, .closeDataChannel,
      .setDataChannelInterface, .complete 0 true] (by simp [FromSendable])

/-- After a close with one buffer in flight and one queued, the callback runs into the null pointer; with
a new channel bound by then, it hands the old buffer to the new channel. -/
theorem late_callback_not_confined :
    ¬ EachStep watchedStep Confined (unbound "telemetry" fun _ => .kOpen)
        [.setDataChannelInterface, .send 7 true, .send 8 true, .closeDataChannel, .complete 0 true] ∧
      handed (run watchedStep (unbound "telemetry" fun _ => .kOpen)
        [.setDataChannelInterface, .send 7 true, .send 8 true, .closeDataChannel,
          .setDataChannelInterface, .complete 0 true]).endpoint = [(0, (7, some 0)), (1, (8, some 0))] := by
  decide

end Endpoint
end MosaicCore
