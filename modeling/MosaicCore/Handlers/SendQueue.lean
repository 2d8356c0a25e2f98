import MosaicCore.Handlers.DataChannelHandler

/-!
# The asynchronous send queue on one channel

While a handler keeps its channel, `send_queue_`, `is_sending_` and the callbacks libwebrtc owes move
together:

* `SingleFlight` — a send is in flight exactly when `is_sending_` is set, and there is never a second.
* `NoStall` — buffers wait only behind a send in flight.
* `Fifo accepted` — what was accepted is what was handed over followed by what waits.

`ProcessQueue` re-establishes `NoStall` from the other two, which is all that both a new `SendAsync` and a
completion callback need; the run invariant follows by induction over the calls and callbacks.
-/

namespace MosaicCore
namespace Endpoint

open EffectProgram EventRun

variable {β : Type}

/-- A send is in flight exactly when `is_sending_` is set, and never a second one. -/
def SingleFlight (e : Endpoint β) : Prop :=
  e.channels.awaiting.length = if e.impl.isSending then 1 else 0

/-- Buffers wait only behind a send in flight. -/
def NoStall (e : Endpoint β) : Prop :=
  e.impl.sendQueue ≠ [] → e.impl.isSending = true

/-- The buffers accepted so far are those handed over followed by those waiting. -/
def Fifo (accepted : List β) (e : Endpoint β) : Prop :=
  accepted = (handed e).map Prod.snd ++ e.impl.sendQueue

/-- The buffers an event makes `SendAsync` accept. -/
def accepts (e : Endpoint β) : SendEvent β → List β
  | .sendAsync buffer => [buffer]
  | .send buffer true => if sendable e then [buffer] else []
  | _ => []

/-- The buffers `SendAsync` accepts along a run, in the order of the calls. -/
def accepted (e : Endpoint β) : List (SendEvent β) → List β
  | [] => []
  | event :: events => accepts e event ++ accepted (step e event) events

/-- The handler keeps its channel over the event. -/
def KeepsChannel : SendEvent β → Prop
  | .closeDataChannel => False
  | .setDataChannelInterface => False
  | _ => True

/-- The run invariant of the queue on one channel. -/
structure QueueInvariant (channel : Nat) (accepted : List β) (e : Endpoint β) : Prop where
  bound : e.impl.dcInterface = some channel
  fifo : Fifo accepted e
  singleFlight : SingleFlight e
  noStall : NoStall e

/-- `ProcessQueue` re-establishes `NoStall` and disturbs nothing else. -/
theorem processQueue_restores {channel : Nat} {accepted : List β} {e : Endpoint β}
    (hBound : e.impl.dcInterface = some channel) (hFifo : Fifo accepted e)
    (hFlight : SingleFlight e) :
    Ends processQueue e fun _ e' => QueueInvariant channel accepted e' := by
  cases hSending : e.impl.isSending with
  | true => exact ⟨(), e, processQueue_run_sending hSending, hBound, hFifo, hFlight, fun _ => hSending⟩
  | false =>
      cases hQueue : e.impl.sendQueue with
      | nil =>
          refine ⟨(), e, processQueue_run_empty hQueue, hBound, hFifo, hFlight, fun hWait => ?_⟩
          exact absurd hQueue hWait
      | cons buffer rest =>
          refine ⟨(), _, processQueue_run_handOver hSending hQueue hBound, hBound, ?_, ?_, fun _ => rfl⟩
          · rw [Fifo, handed_handOver]
            rw [Fifo, hQueue] at hFifo
            simpa [handOver] using hFifo
          · have hNone : e.channels.awaiting = [] := by simpa [SingleFlight, hSending] using hFlight
            simp [SingleFlight, handOver, hNone]

/-- A new asynchronous send is accepted behind everything accepted before it. -/
theorem implSendAsync_restores {channel : Nat} {accepted : List β} {e : Endpoint β} (buffer : β)
    (h : QueueInvariant channel accepted e) :
    Ends (implSendAsync buffer) e fun _ e' => QueueInvariant channel (accepted ++ [buffer]) e' := by
  refine ends_bind (ends_modify ?_)
  refine processQueue_restores h.bound ?_ h.singleFlight
  have hFifo : accepted = (handed e).map Prod.snd ++ e.impl.sendQueue := h.fifo
  show accepted ++ [buffer] = (handed e).map Prod.snd ++ (e.impl.sendQueue ++ [buffer])
  rw [hFifo, List.append_assoc]

/-- A completion callback, success or error, ends the flight and starts the next one. -/
theorem onSendComplete_restores {channel : Nat} {accepted : List β} {e : Endpoint β} {index : Nat}
    (ok : Bool) (hIndex : index < e.channels.awaiting.length) (h : QueueInvariant channel accepted e) :
    Ends (onSendComplete ok)
      { e with channels := { e.channels with awaiting := e.channels.awaiting.eraseIdx index } }
      fun _ e' => QueueInvariant channel accepted e' := by
  refine ends_bind (ends_modify ?_)
  refine processQueue_restores h.bound h.fifo ?_
  have hOne : e.channels.awaiting.length ≤ 1 := by
    have hFlight := h.singleFlight
    unfold SingleFlight at hFlight
    split at hFlight <;> omega
  have hErased : (e.channels.awaiting.eraseIdx index).length = 0 := by
    rw [List.length_eraseIdx_of_lt hIndex]
    omega
  simpa [SingleFlight] using hErased

/-- One event on the kept channel: the invariant moves on by what the event makes `SendAsync` accept. -/
theorem queueInvariant_step {channel : Nat} {before : List β} {e : Endpoint β} {event : SendEvent β}
    (hKeeps : KeepsChannel event) (h : QueueInvariant channel before e) :
    QueueInvariant channel (before ++ accepts e event) (step e event) := by
  cases event with
  | sendAsync buffer =>
      obtain ⟨_, hEnd⟩ := (implSendAsync_restores buffer h).finalState
      exact hEnd
  | send buffer isAsync =>
      by_cases hOpen : sendable e = true
      · cases isAsync with
        | true =>
            have hRun : step e (.send buffer true) = finalState ((implSendAsync buffer).run e) := by
              simp [step, handle, send, hOpen]
            rw [hRun]
            obtain ⟨_, hEnd⟩ := (implSendAsync_restores buffer h).finalState
            simpa [accepts, hOpen] using hEnd
        | false =>
            have hRun : step e (.send buffer false) = finalState ((call (.send channel buffer)).run e) := by
              simp [step, handle, send, hOpen, implSend, h.bound]
            rw [hRun]
            -- A direct send is no part of the queue.
            refine ⟨h.bound, ?_, h.singleFlight, h.noStall⟩
            have hHanded := handed_call_other (e := e) (c := .send channel buffer) (by simp)
            show before ++ [] = _
            rw [hHanded, List.append_nil]
            exact h.fifo
      · have hStay : step e (.send buffer isAsync) = e := by simp [step, handle, send, hOpen]
        have hNone : accepts e (.send buffer isAsync) = [] := by
          cases isAsync <;> simp [accepts, hOpen]
        rw [hStay, hNone, List.append_nil]
        exact h
  | complete index ok =>
      show QueueInvariant channel (before ++ []) (step e (.complete index ok))
      rw [List.append_nil]
      by_cases hIndex : index < e.channels.awaiting.length
      · obtain ⟨_, hEnd⟩ := (onSendComplete_restores ok hIndex h).finalState
        simpa [step, handle, hIndex] using hEnd
      · have hStay : step e (.complete index ok) = e := by simp [step, handle, hIndex]
        rw [hStay]
        exact h
  | closeDataChannel => exact absurd hKeeps id
  | setDataChannelInterface => exact absurd hKeeps id
  | stateChange c state =>
      show QueueInvariant channel (before ++ []) _
      rw [List.append_nil]
      exact ⟨h.bound, h.fifo, h.singleFlight, h.noStall⟩

/-- Any number of events on the kept channel. -/
theorem queueInvariant_run {channel : Nat} {before : List β} {e : Endpoint β}
    {events : List (SendEvent β)} (hKeeps : ∀ event ∈ events, KeepsChannel event)
    (h : QueueInvariant channel before e) :
    QueueInvariant channel (before ++ accepted e events) (run step e events) := by
  induction events generalizing before e with
  | nil =>
      rw [accepted, List.append_nil]
      exact h
  | cons event events ih =>
      have hNext := queueInvariant_step (hKeeps event List.mem_cons_self) h
      have hRest := ih (fun event' hMem => hKeeps event' (List.mem_cons_of_mem _ hMem)) hNext
      rw [accepted, ← List.append_assoc]
      exact hRest

/-- A handler that has just been bound to a channel and has sent nothing asynchronously yet. -/
def bound (label : String) (channel : Nat) (states : Nat → DataState) : Endpoint β where
  impl := { label := label, dcInterface := some channel }
  channels := { states := states, delivered := channel + 1 }

theorem queueInvariant_bound (label : String) (channel : Nat) (states : Nat → DataState) :
    QueueInvariant channel [] (bound label channel states : Endpoint β) where
  bound := rfl
  fifo := rfl
  singleFlight := rfl
  noStall := fun hWait => absurd rfl hWait

/-- **The send queue is FIFO, loses nothing, duplicates nothing and never stalls.**  After any calls and
callbacks on the kept channel, the buffers accepted by `SendAsync` are those handed to the channel
followed by those in `send_queue_`, at most one handed buffer awaits its callback, `is_sending_` says
whether one does, and buffers wait only while it is set. -/
theorem asyncSend_fifo (label : String) (channel : Nat) (states : Nat → DataState)
    (events : List (SendEvent β)) (hKeeps : ∀ event ∈ events, KeepsChannel event) :
    let start : Endpoint β := bound label channel states
    let e := run step start events
    accepted start events = (handed e).map Prod.snd ++ e.impl.sendQueue ∧
      e.channels.awaiting.length ≤ 1 ∧
      (e.impl.isSending = true ↔ e.channels.awaiting.length = 1) ∧
      (e.impl.sendQueue ≠ [] → e.impl.isSending = true) := by
  intro start e
  have hInv : QueueInvariant channel ([] ++ accepted start events) e :=
    queueInvariant_run hKeeps (queueInvariant_bound label channel states)
  have hFlight := hInv.singleFlight
  unfold SingleFlight at hFlight
  refine ⟨hInv.fifo, ?_, ?_, hInv.noStall⟩
  · split at hFlight <;> omega
  · cases hSending : e.impl.isSending <;> simp [hSending] at hFlight ⊢
    · simp [hFlight]
    · exact hFlight

/-- Two sends, an error callback and a success callback on an open channel. -/
theorem asyncSend_fifo_two_sends :
    let start : Endpoint Nat := bound "telemetry" 0 (fun _ => .kOpen)
    let events : List (SendEvent Nat) :=
      [.sendAsync 7, .send 8 true, .complete 0 false, .complete 0 true]
    let e := run step start events
    accepted start events = (handed e).map Prod.snd ++ e.impl.sendQueue ∧
      e.channels.awaiting.length ≤ 1 ∧
      (e.impl.isSending = true ↔ e.channels.awaiting.length = 1) ∧
      (e.impl.sendQueue ≠ [] → e.impl.isSending = true) :=
  asyncSend_fifo "telemetry" 0 (fun _ => .kOpen)
    [.sendAsync 7, .send 8 true, .complete 0 false, .complete 0 true] (by simp [KeepsChannel])

end Endpoint
end MosaicCore
