import MosaicCore.Handlers.SendQueueSessions

/-!
# Asynchronous sends after a reconnect

`is_sending_` belongs to the handler, the callback that clears it to a channel.  A channel that is torn
down before it completes its `SendAsync` leaves the flag set, and nothing but that callback clears it:
`CloseDataChannel` and `SetDataChannelInterface` do not touch it.

* `FlightInvariant` — while the process lives, the flag says exactly whether a callback is owed, by
  whatever channel, and buffers wait only behind it.
* `SendsOnIdleChannel` — a `SendAsync` on an open channel that owes nothing reaches that channel.
* `OwedByBound` — every callback still owed is owed by the bound channel.

Under the invariant the last two say the same of a state.
-/

namespace MosaicCore
namespace Endpoint

open EffectProgram EventRun

variable {β : Type}

/-- The process lives through the event. -/
def Survives (e : Endpoint β) (event : SendEvent β) : Prop := dereferencesNull e event = false

instance (e : Endpoint β) (event : SendEvent β) : Decidable (Survives e event) :=
  inferInstanceAs (Decidable (_ = _))

/-- A handler before its first channel. -/
def registered (label : String) (states : Nat → DataState) : Endpoint β where
  impl := { label := label }
  channels := { states := states }

/-- `is_sending_` says whether a callback is owed, and buffers wait only while one is. -/
structure FlightInvariant (e : Endpoint β) : Prop where
  singleFlight : SingleFlight e
  noStall : NoStall e

theorem flightInvariant_registered (label : String) (states : Nat → DataState) :
    FlightInvariant (registered label states : Endpoint β) where
  singleFlight := rfl
  noStall := fun hWait => absurd rfl hWait

/-- `ProcessQueue` leaves nothing waiting for no reason, whatever is bound, or uses the null pointer. -/
theorem flightInvariant_processQueue {e : Endpoint β} (hFlight : SingleFlight e) :
    (∃ e', processQueue.run e = .ok () e' ∧ FlightInvariant e') ∨
      ∃ e', processQueue.run e = .error (.nullDereference "dc_interface_") e' := by
  cases hSending : e.impl.isSending with
  | true => exact .inl ⟨e, processQueue_run_sending hSending, hFlight, fun _ => hSending⟩
  | false =>
      cases hQueue : e.impl.sendQueue with
      | nil => exact .inl ⟨e, processQueue_run_empty hQueue, hFlight, fun hWait => absurd hQueue hWait⟩
      | cons buffer rest =>
          cases hBound : e.impl.dcInterface with
          | none =>
              -- the front buffer is taken and lost, and the routine does not return
              exact .inr ⟨_, processQueue_run_null hSending hQueue hBound⟩
          | some channel =>
              have hNone : e.channels.awaiting = [] := by simpa [SingleFlight, hSending] using hFlight
              have hNext : SingleFlight (handOver e channel buffer rest) := by
                simp [SingleFlight, handOver, hNone]
              exact .inl ⟨_, processQueue_run_handOver hSending hQueue hBound, hNext, fun _ => rfl⟩

/-- An event that comes down to `ProcessQueue` keeps the invariant if the process lives through it. -/
theorem flightInvariant_of_processQueue {e : Endpoint β} {event : SendEvent β} (before : Endpoint β)
    (hHandle : handle event e = processQueue.run before) (hFlight : SingleFlight before)
    (hAlive : Survives e event) : FlightInvariant (step e event) := by
  unfold step
  rw [hHandle]
  rcases flightInvariant_processQueue hFlight with ⟨e', hRun, hNext⟩ | ⟨e', hRun⟩
  · rw [hRun]
    exact hNext
  · unfold Survives dereferencesNull at hAlive
    rw [hHandle, hRun] at hAlive
    exact absurd hAlive (by simp)

/-- Any event the process survives keeps the flag in step with what is owed. -/
theorem flightInvariant_step {e : Endpoint β} {event : SendEvent β} (h : FlightInvariant e)
    (hAlive : Survives e event) : FlightInvariant (step e event) := by
  cases event with
  | sendAsync buffer =>
      refine flightInvariant_of_processQueue
        { e with impl := { e.impl with sendQueue := e.impl.sendQueue ++ [buffer] } } ?_ ?_ hAlive
      · simp [handle, implSendAsync]
      · exact h.singleFlight
  | send buffer isAsync =>
      by_cases hOpen : sendable e = true
      · cases isAsync with
        | true =>
            refine flightInvariant_of_processQueue
              { e with impl := { e.impl with sendQueue := e.impl.sendQueue ++ [buffer] } } ?_ ?_ hAlive
            · simp [handle, send, hOpen, implSendAsync]
            · exact h.singleFlight
        | false =>
            obtain ⟨channel, hBound⟩ := bound_of_sendable hOpen
            unfold step
            rw [step_send_direct hOpen hBound]
            exact ⟨h.singleFlight, h.noStall⟩
      · unfold step
        rw [step_send_refused hOpen]
        exact h
  | complete index ok =>
      by_cases hIndex : index < e.channels.awaiting.length
      · have hOne : e.channels.awaiting.length = 1 := by
          have hFlight := h.singleFlight
          unfold SingleFlight at hFlight
          split at hFlight <;> omega
        refine flightInvariant_of_processQueue
          { impl := { e.impl with isSending := false }
            channels := { e.channels with awaiting := e.channels.awaiting.eraseIdx index } }
          ?_ ?_ hAlive
        · simp [handle, hIndex, onSendComplete]
        · -- the only callback owed is the one being called
          show (e.channels.awaiting.eraseIdx index).length = 0
          rw [List.length_eraseIdx_of_lt hIndex]
          omega
      · have hStay : step e (.complete index ok) = e := by simp [step, handle, hIndex]
        rw [hStay]
        exact h
  | closeDataChannel =>
      -- `is_sending_` and the callback owed both stay
      cases hBound : e.impl.dcInterface with
      | none =>
          have hStay : step e .closeDataChannel = e := by simp [step, handle, closeDataChannel, hBound]
          rw [hStay]
          exact h
      | some channel =>
          have hFlight := h.singleFlight
          have hWait := h.noStall
          constructor
          · simpa [step, handle, closeDataChannel, hBound, call, SingleFlight] using hFlight
          · simpa [step, handle, closeDataChannel, hBound, call, NoStall] using hWait
  | setDataChannelInterface => exact ⟨h.singleFlight, h.noStall⟩
  | stateChange channel state => exact ⟨h.singleFlight, h.noStall⟩

/-- The invariant along a run that the process survives. -/
theorem flightInvariant_run {e : Endpoint β} {events : List (SendEvent β)} (h : FlightInvariant e)
    (hAlive : EachStep step Survives e events) : FlightInvariant (run step e events) := by
  induction events generalizing e with
  | nil => exact h
  | cons event events ih => exact ih (flightInvariant_step h hAlive.1) hAlive.2

/-! ## The next send -/

/-- The bound channel is open and owes no callback. -/
def IdleOn (channel : Nat) (e : Endpoint β) : Prop :=
  e.impl.dcInterface = some channel ∧ e.channels.states channel = .kOpen ∧
    ∀ p ∈ e.channels.awaiting, p.1 ≠ channel

/-- On an open channel that owes no callback, the next `SendAsync` hands that channel a buffer. -/
def SendsOnIdleChannel (e : Endpoint β) : Prop :=
  ∀ channel, IdleOn channel e → ∀ buffer, ∃ sent,
    handed (step e (.sendAsync buffer)) = handed e ++ [(channel, sent)]

/-- While the bound channel is open, no callback is owed by a channel bound before it. -/
def OwedByBound (e : Endpoint β) : Prop :=
  sendable e = true → ∀ p ∈ e.channels.awaiting, e.impl.dcInterface = some p.1

/-- With the flag set, a `SendAsync` hands nothing to anyone. -/
theorem handed_sendAsync_sending {e : Endpoint β} (buffer : β) (hSending : e.impl.isSending = true) :
    handed (step e (.sendAsync buffer)) = handed e := by
  have hStop : processQueue.run
      { e with impl := { e.impl with sendQueue := e.impl.sendQueue ++ [buffer] } } =
        .ok () { e with impl := { e.impl with sendQueue := e.impl.sendQueue ++ [buffer] } } :=
    processQueue_run_sending hSending
  simp [step, handle, implSendAsync, hStop, handed]

/-- With the flag clear, a `SendAsync` hands its buffer to the bound channel. -/
theorem handed_sendAsync_idle {e : Endpoint β} {channel : Nat} (buffer : β) (h : FlightInvariant e)
    (hIdle : e.impl.isSending = false) (hBound : e.impl.dcInterface = some channel) :
    handed (step e (.sendAsync buffer)) = handed e ++ [(channel, buffer)] := by
  have hQueue : e.impl.sendQueue = [] := by
    by_contra hWait
    rw [h.noStall hWait] at hIdle
    exact absurd hIdle (by simp)
  have hGo := processQueue_run_handOver
    (e := { e with impl := { e.impl with sendQueue := e.impl.sendQueue ++ [buffer] } })
    hIdle (show e.impl.sendQueue ++ [buffer] = buffer :: [] by simp [hQueue]) hBound
  have hRun : step e (.sendAsync buffer) =
      handOver { e with impl := { e.impl with sendQueue := e.impl.sendQueue ++ [buffer] } }
        channel buffer [] := by
    simp [step, handle, implSendAsync, hGo]
  rw [hRun, handed_handOver]
  rfl

/-- Under the invariant the flag can be left over only from a callback some other channel owes. -/
theorem sendsOnIdleChannel_iff {e : Endpoint β} (h : FlightInvariant e) :
    SendsOnIdleChannel e ↔ OwedByBound e := by
  constructor
  · intro hSends hOpen p hp
    obtain ⟨channel, hBound⟩ := bound_of_sendable hOpen
    by_contra hOther
    -- `p` is the one callback owed, and its channel is not the bound one
    have hSending : e.impl.isSending = true := by
      have hFlight := h.singleFlight
      cases hFlag : e.impl.isSending with
      | true => rfl
      | false =>
          have hNone : e.channels.awaiting = [] := by simpa [SingleFlight, hFlag] using hFlight
          rw [hNone] at hp
          exact absurd hp List.not_mem_nil
    have hOnly : e.channels.awaiting = [p] := by
      have hFlight : e.channels.awaiting.length = 1 := by
        simpa [SingleFlight, hSending] using h.singleFlight
      obtain ⟨q, hq⟩ := List.length_eq_one_iff.mp hFlight
      rw [hq] at hp ⊢
      rw [List.mem_singleton.mp hp]
    have hIdle : IdleOn channel e := by
      refine ⟨hBound, ?_, ?_⟩
      · simp only [sendable, getState, hBound] at hOpen
        cases hState : e.channels.states channel <;> simp [hState] at hOpen ⊢
      · intro q hq
        rw [hOnly, List.mem_singleton] at hq
        rintro rfl
        exact hOther (by rw [hBound, hq])
    obtain ⟨sent, hSent⟩ := hSends channel hIdle p.2
    rw [handed_sendAsync_sending p.2 hSending] at hSent
    have hLength := congrArg List.length hSent
    simp at hLength
  · rintro hOwed channel ⟨hBound, hOpen, hNone⟩ buffer
    have hSendable : sendable e = true := by simp [sendable, getState, hBound, hOpen]
    have hIdle : e.impl.isSending = false := by
      cases hFlag : e.impl.isSending with
      | false => rfl
      | true =>
          have hFlight : e.channels.awaiting.length = 1 := by
            simpa [SingleFlight, hFlag] using h.singleFlight
          obtain ⟨q, hq⟩ := List.length_eq_one_iff.mp hFlight
          have hMem : q ∈ e.channels.awaiting := by simp [hq]
          have hSame : some channel = some q.1 := hBound.symm.trans (hOwed hSendable q hMem)
          exact absurd (Option.some.inj hSame).symm (hNone q hMem)
    exact ⟨buffer, handed_sendAsync_idle buffer h hIdle hBound⟩

/-- **When a reconnect unblocks the queue.**  In every state reached while the process lives, a `SendAsync`
on an open channel that owes no callback hands that channel a buffer, exactly when every callback still
owed while the bound channel is open is owed by that channel. -/
theorem sendsAfterReconnect_iff (label : String) (states : Nat → DataState)
    (events : List (SendEvent β)) (hAlive : EachStep step Survives (registered label states) events) :
    SendsOnIdleChannel (run step (registered label states) events) ↔
      OwedByBound (run step (registered label states) events) :=
  sendsOnIdleChannel_iff (flightInvariant_run (flightInvariant_registered label states) hAlive)

/-- A send, its callback, a close and a new channel: nothing is owed, so the next send goes out. -/
theorem sendsAfterReconnect_iff_completed :
    let events : List (SendEvent Nat) :=
      [.setDataChannelInterface, .sendAsync 7, .complete 0 true, .closeDataChannel,
        .setDataChannelInterface]
    SendsOnIdleChannel (run step (registered "telemetry" fun _ => .kOpen) events) ↔
      OwedByBound (run step (registered "telemetry" fun _ => .kOpen) events) :=
  sendsAfterReconnect_iff "telemetry" (fun _ => .kOpen)
    [.setDataChannelInterface, .sendAsync 7, .complete 0 true, .closeDataChannel,
      .setDataChannelInterface] (by decide)

/-- Channel 0 is closed with a send in flight and never calls back.  On channel 1, open and owing nothing,
the next sends only queue up. -/
theorem send_stalls_after_reconnect :
    let events : List (SendEvent Nat) :=
      [.setDataChannelInterface, .sendAsync 7, .closeDataChannel, .setDataChannelInterface]
    EachStep step Survives (registered "telemetry" fun _ => .kOpen) events ∧
      IdleOn 1 (run step (registered "telemetry" fun _ => .kOpen) events) ∧
      handed (run step (registered "telemetry" fun _ => .kOpen) (events ++ [.sendAsync 8, .sendAsync 9])) =
        [(0, 7)] ∧
      ¬ SendsOnIdleChannel (run step (registered "telemetry" fun _ => .kOpen) events) := by
  intro events
  have hIdle : IdleOn 1 (run step (registered "telemetry" fun _ => .kOpen) events) :=
    ⟨by decide, by decide, by decide⟩
  refine ⟨by decide, hIdle, by decide, fun hSends => ?_⟩
  obtain ⟨sent, hSent⟩ := hSends 1 hIdle 8
  have hBefore : handed (run step (registered "telemetry" fun _ => .kOpen) events) = [(0, 7)] := by decide
  have hAfter : handed (step (run step (registered "telemetry" fun _ => .kOpen) events) (.sendAsync 8)) =
      [(0, 7)] := by decide
  rw [hAfter, hBefore] at hSent
  exact absurd hSent (by simp)

end Endpoint
end MosaicCore
