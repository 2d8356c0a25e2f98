import MosaicCore.Handlers.SendAfterReconnect
import MosaicCore.Signaling.Json

/-!
# Receiving handlers, and the connection check

`DataChannelReceivable` converts what arrives on its channel and hands it to `HandleData`; a `std::exception` of either
of them is logged.  So a message that cannot be handled takes only itself down (`onMessage_forM`).

The connection check is a pair of handlers: what the receiver is sent, the sender sends back.  Here the pair is
followed over any number of sessions, with the callbacks of libwebrtc at any time: what came in while the sender's
channel was open has been sent, or waits, in the order in which it came in (`echoes_in_order`).
-/

namespace MosaicCore

open EffectProgram EventRun

/-! ## Receiving -/

/-- `DataChannelReceivable<ReceiveT>`, for data of the type `ρ`; `HandleData` runs over a state of any type. -/
structure DataChannelReceivable (σ ρ : Type) where
  convertBufferToData : DataBuffer → Except String ρ
  handleData : ρ → Program σ Unit := fun _ => pure ()

namespace DataChannelReceivable

variable {σ ρ : Type}

/-- `OnMessage`. -/
def onMessage (receivable : DataChannelReceivable σ ρ) (buffer : DataBuffer) : Program σ Unit :=
  catchException do
    let data ← orThrow (receivable.convertBufferToData buffer)
    receivable.handleData data

/-- The data of a message, if it can be converted. -/
def received (receivable : DataChannelReceivable σ ρ) (buffer : DataBuffer) : Option ρ :=
  (receivable.convertBufferToData buffer).toOption

/-- `DataChannelStringReceivable`; a `std::string` is its bytes. -/
def ofString (handleData : List UInt8 → Program σ Unit) : DataChannelReceivable σ (List UInt8) where
  convertBufferToData buffer := .ok buffer.data
  handleData := handleData

/-- `DataChannelByteReceivable`. -/
def ofBytes (handleData : List UInt8 → Program σ Unit) : DataChannelReceivable σ (List UInt8) where
  convertBufferToData buffer := .ok buffer.data
  handleData := handleData

/-- `DataChannelJsonReceivable`, over what `Json::parseFromStream` gives or complains about. -/
def ofJson (parseFromStream : List UInt8 → Except String Json) (handleData : Json → Program σ Unit) :
    DataChannelReceivable σ Json where
  convertBufferToData buffer := (parseFromStream buffer.data).mapError ("JSON parsing failed: " ++ ·)
  handleData := handleData

/-- What a message leaves behind: nothing if it cannot be converted, and what `HandleData` did otherwise. -/
theorem finalState_onMessage (receivable : DataChannelReceivable σ ρ) (buffer : DataBuffer) (s : σ) :
    finalState ((receivable.onMessage buffer).run s) =
      (receivable.received buffer).elim s fun data => finalState ((receivable.handleData data).run s) := by
  rw [onMessage, catchException, finalState_recover, received]
  cases receivable.convertBufferToData buffer with
  | ok data => rfl
  | error what => rfl

/-- `OnMessage` returns if `HandleData` throws nothing but exceptions. -/
theorem neverFaults_onMessage {receivable : DataChannelReceivable σ ρ}
    (hExceptions : ∀ data, FaultsOnly (·.isException) (receivable.handleData data)) (buffer : DataBuffer) :
    NeverFaults (receivable.onMessage buffer) := by
  refine neverFaults_recover ?_
  cases receivable.convertBufferToData buffer with
  | ok data => exact hExceptions data
  | error what =>
      intro s e s' hRun
      cases hRun
      rfl

/-- A message takes only itself down.  Where `HandleData` throws nothing but `std::exception`s, each message that can be
converted is handled, in order and from the state that the one before it left behind, whether that one could be
converted or made `HandleData` throw. -/
theorem onMessage_forM {receivable : DataChannelReceivable σ ρ}
    (hExceptions : ∀ data, FaultsOnly (·.isException) (receivable.handleData data)) (buffers : List DataBuffer)
    (s : σ) :
    (buffers.forM receivable.onMessage).run s =
      .ok () ((buffers.filterMap receivable.received).foldl
        (fun s data => finalState ((receivable.handleData data).run s)) s) := by
  induction buffers generalizing s with
  | nil => rfl
  | cons buffer rest ih =>
      obtain ⟨_, s', hRun⟩ := neverFaults_onMessage hExceptions buffer s
      have hLeft := finalState_onMessage receivable buffer s
      rw [hRun, finalState_ok] at hLeft
      show (receivable.onMessage buffer >>= fun _ => rest.forM receivable.onMessage).run s = _
      rw [EStateM.run_bind, hRun]
      show (rest.forM receivable.onMessage).run s' = _
      rw [ih, hLeft]
      cases hConverted : receivable.received buffer with
      | none =>
          rw [List.filterMap_cons_none hConverted]
          rfl
      | some data =>
          rw [List.filterMap_cons_some hConverted]
          rfl

/-- A message that is no JSON between two that are, each of which makes the handler throw. -/
example :
    let receivable : DataChannelReceivable (List Json) Json :=
      .ofJson (fun bytes => if bytes = [] then .error "no value" else .ok (.int bytes.length)) fun data => do
        modify fun handled => handled ++ [data]
        throw (.exception "HandleData")
    ([⟨[49], false⟩, ⟨[], false⟩, ⟨[49, 48], true⟩].forM receivable.onMessage).run [] =
      .ok () [.int 1, .int 2] := rfl

end DataChannelReceivable

/-! ## The connection check -/

/-- `ConnectionCheckDataChannelReceiver`, over its `sender_`: `HandleData` is `sender_->SendString(data, true)`. -/
def connectionCheckReceiver : DataChannelReceivable (Endpoint DataBuffer) (List UInt8) :=
  .ofString fun data => Endpoint.sendConverted ⟨data, false⟩ true

/-- For a text it is `SendString`. -/
theorem handleData_connectionCheckReceiver (text : String) :
    connectionCheckReceiver.handleData text.toUTF8.toList = Endpoint.sendString text true := rfl

/-- What reaches the pair of handlers: a message for the receiver, or a call or callback of the sender that does not
send. -/
inductive CheckEvent
  | message (buffer : DataBuffer)
  | complete (index : Nat) (ok : Bool)
  | closeDataChannel
  | setDataChannelInterface
  | stateChange (channel : Nat) (state : DataState)
  deriving DecidableEq

namespace ConnectionCheck

open Endpoint

/-- What an event is to the sender; a message becomes a text. -/
def asSend : CheckEvent → SendEvent DataBuffer
  | .message buffer => .send { buffer with binary := false } true
  | .complete index ok => .complete index ok
  | .closeDataChannel => .closeDataChannel
  | .setDataChannelInterface => .setDataChannelInterface
  | .stateChange channel state => .stateChange channel state

/-- The state of the sender after an event. -/
def step (e : Endpoint DataBuffer) : CheckEvent → Endpoint DataBuffer
  | .message buffer => finalState ((connectionCheckReceiver.onMessage buffer).run e)
  | event => Endpoint.step e (asSend event)

/-- What is to be sent back for an event. -/
def echo (e : Endpoint DataBuffer) : CheckEvent → List DataBuffer
  | .message buffer => if sendable e then [{ buffer with binary := false }] else []
  | _ => []

/-- A message makes the sender send. -/
theorem step_eq (e : Endpoint DataBuffer) (event : CheckEvent) : step e event = Endpoint.step e (asSend event) := by
  cases event with
  | message buffer =>
      show finalState ((connectionCheckReceiver.onMessage buffer).run e) = finalState ((send _ true).run e)
      rw [DataChannelReceivable.finalState_onMessage, ← sendConverted_eq_send]
      rfl
  | complete index ok => rfl
  | closeDataChannel => rfl
  | setDataChannelInterface => rfl
  | stateChange channel state => rfl

theorem run_eq (e : Endpoint DataBuffer) (events : List CheckEvent) :
    run step e events = run Endpoint.step e (events.map asSend) := by
  induction events generalizing e with
  | nil => rfl
  | cons event rest ih => rw [run_cons, ih, step_eq, List.map_cons, run_cons]

/-! ## What is sent back -/

/-- `ProcessQueue` keeps the order, unless it uses the null pointer. -/
theorem fifo_processQueue {before : List DataBuffer} {e : Endpoint DataBuffer} (hFifo : Fifo before e) :
    Fifo before (finalState (processQueue.run e)) ∨
      ∃ e', processQueue.run e = .error (.nullDereference "dc_interface_") e' := by
  cases hSending : e.impl.isSending with
  | true =>
      rw [processQueue_run_sending hSending]
      exact .inl hFifo
  | false =>
      cases hQueue : e.impl.sendQueue with
      | nil =>
          rw [processQueue_run_empty hQueue]
          exact .inl hFifo
      | cons buffer rest =>
          cases hBound : e.impl.dcInterface with
          | none => exact .inr ⟨_, processQueue_run_null hSending hQueue hBound⟩
          | some channel =>
              rw [processQueue_run_handOver hSending hQueue hBound]
              rw [Fifo, hQueue] at hFifo
              refine .inl ?_
              rw [finalState_ok, Fifo, handed_handOver]
              simpa [handOver] using hFifo

/-- An event that comes down to `ProcessQueue`. -/
theorem fifo_of_processQueue {before : List DataBuffer} {e : Endpoint DataBuffer} {event : SendEvent DataBuffer}
    (start : Endpoint DataBuffer) (hHandle : handle event e = processQueue.run start) (hFifo : Fifo before start)
    (hAlive : Survives e event) : Fifo before (Endpoint.step e event) := by
  rcases fifo_processQueue hFifo with hNext | ⟨e', hRun⟩
  · rw [Endpoint.step, hHandle]
    exact hNext
  · unfold Survives dereferencesNull at hAlive
    rw [hHandle, hRun] at hAlive
    exact absurd hAlive (by simp)

/-- An event that the process survives extends what was handed over and what waits by the echo. -/
theorem fifo_step {before : List DataBuffer} {e : Endpoint DataBuffer} {event : CheckEvent} (hFifo : Fifo before e)
    (hAlive : Survives e (asSend event)) : Fifo (before ++ echo e event) (step e event) := by
  rw [step_eq]
  have hOrder : before = (handed e).map Prod.snd ++ e.impl.sendQueue := hFifo
  cases event with
  | message buffer =>
      by_cases hOpen : sendable e = true
      · let text : DataBuffer := { buffer with binary := false }
        have hEcho : echo e (.message buffer) = [text] := if_pos hOpen
        rw [hEcho]
        refine fifo_of_processQueue
          { e with impl := { e.impl with sendQueue := e.impl.sendQueue ++ [text] } } ?_ ?_ hAlive
        · simp [asSend, handle, send, hOpen, implSendAsync, text]
        · show before ++ [text] = (handed e).map Prod.snd ++ (e.impl.sendQueue ++ [text])
          rw [hOrder, List.append_assoc]
      · have hStay : Endpoint.step e (asSend (.message buffer)) = e := by
          rw [Endpoint.step, asSend, step_send_refused hOpen, finalState_ok]
        have hEcho : echo e (.message buffer) = [] := if_neg hOpen
        rw [hStay, hEcho, List.append_nil]
        exact hFifo
  | complete index ok =>
      show Fifo (before ++ []) _
      rw [List.append_nil]
      by_cases hIndex : index < e.channels.awaiting.length
      · refine fifo_of_processQueue
          { impl := { e.impl with isSending := false }
            channels := { e.channels with awaiting := e.channels.awaiting.eraseIdx index } }
          ?_ hFifo hAlive
        simp [asSend, handle, hIndex, onSendComplete]
      · have hStay : Endpoint.step e (asSend (.complete index ok)) = e := by
          simp [asSend, Endpoint.step, handle, hIndex]
        rw [hStay]
        exact hFifo
  | closeDataChannel =>
      show Fifo (before ++ []) _
      rw [List.append_nil]
      cases hBound : e.impl.dcInterface with
      | none => simpa [asSend, Endpoint.step, handle, closeDataChannel, hBound] using hFifo
      | some channel =>
          -- Closing a channel hands nothing over, and leaves the queue as it is.
          simpa [asSend, Endpoint.step, handle, closeDataChannel, hBound, call, Fifo, handed] using hFifo
  | setDataChannelInterface =>
      show Fifo (before ++ []) _
      rw [List.append_nil]
      exact hFifo
  | stateChange channel state =>
      show Fifo (before ++ []) _
      rw [List.append_nil]
      exact hFifo

/-- The order along a run that the process survives. -/
theorem fifo_run {before : List DataBuffer} {e : Endpoint DataBuffer} {events : List CheckEvent}
    (hFifo : Fifo before e) (hAlive : EachStep step (fun e event => Survives e (asSend event)) e events) :
    Fifo (before ++ outputs step echo e events) (run step e events) := by
  induction events generalizing before e with
  | nil =>
      rw [outputs, List.append_nil]
      exact hFifo
  | cons event events ih =>
      rw [outputs, ← List.append_assoc]
      exact ih (fifo_step hFifo hAlive.1) hAlive.2

/-! ## Nothing stays waiting -/

/-- A callback takes one buffer off the queue. -/
theorem sendQueue_complete {channel : Nat} {before : List DataBuffer} {e : Endpoint DataBuffer}
    (h : QueueInvariant channel before e) (ok : Bool) :
    (Endpoint.step e (.complete 0 ok)).impl.sendQueue = e.impl.sendQueue.tail := by
  have hFlight : e.channels.awaiting.length = if e.impl.isSending then 1 else 0 := h.singleFlight
  cases hSending : e.impl.isSending with
  | true =>
      have hIndex : 0 < e.channels.awaiting.length := by simp [hFlight, hSending]
      cases hQueue : e.impl.sendQueue with
      | nil =>
          rw [Endpoint.step, step_complete_empty hIndex hQueue]
          exact hQueue
      | cons buffer rest =>
          rw [Endpoint.step, step_complete_handOver ok hIndex hQueue h.bound]
          rfl
  | false =>
      have hNone : e.impl.sendQueue = [] := by
        by_contra hWait
        rw [h.noStall hWait] at hSending
        cases hSending
      have hIndex : ¬ 0 < e.channels.awaiting.length := by simp [hFlight, hSending]
      rw [Endpoint.step, handle, if_neg hIndex, finalState_ok, hNone]
      rfl

/-- Each callback hands the next buffer over, to the channel that is bound. -/
theorem fifo_drained {channel : Nat} {before : List DataBuffer} {e : Endpoint DataBuffer}
    (h : QueueInvariant channel before e) {oks : List Bool} (hEnough : e.impl.sendQueue.length ≤ oks.length) :
    (handed (run Endpoint.step e (oks.map (.complete 0)))).map Prod.snd = before := by
  induction oks generalizing e with
  | nil =>
      have hFifo : before = (handed e).map Prod.snd ++ e.impl.sendQueue := h.fifo
      have hNone : e.impl.sendQueue = [] := List.eq_nil_of_length_eq_zero (Nat.le_zero.mp hEnough)
      rw [hFifo, hNone, List.append_nil]
      rfl
  | cons ok oks ih =>
      have hKeeps : KeepsChannel (.complete 0 ok : SendEvent DataBuffer) := trivial
      have hNext : QueueInvariant channel (before ++ []) (Endpoint.step e (.complete 0 ok)) :=
        queueInvariant_step hKeeps h
      rw [List.append_nil] at hNext
      refine ih hNext ?_
      rw [sendQueue_complete h, List.length_tail]
      exact Nat.sub_le_iff_le_add.mpr hEnough

/-- **The connection check sends back what it is sent.**  Over any number of sessions and in any order of messages and
callbacks, as long as no callback uses a null pointer: what was handed to the channels and what waits is the text of
every message that came in while the sender's channel was open, once each and in the order in which they came in.
Where a channel is bound, as many callbacks as there are buffers waiting hand over all of it. -/
theorem echoes_in_order (label : String) (states : Nat → DataState) (events : List CheckEvent)
    (hAlive : EachStep step (fun e event => Survives e (asSend event)) (registered label states) events) :
    let e := run step (registered label states) events
    let echoes := outputs step echo (registered label states) events
    echoes = (handed e).map Prod.snd ++ e.impl.sendQueue ∧
      ∀ channel, e.impl.dcInterface = some channel →
        ∀ oks : List Bool, e.impl.sendQueue.length ≤ oks.length →
          (handed (run step e (oks.map (.complete 0)))).map Prod.snd = echoes := by
  intro e echoes
  have hFresh : Fifo [] (registered label states : Endpoint DataBuffer) := rfl
  have hFifo : Fifo ([] ++ echoes) e := fifo_run hFresh hAlive
  have hFlight : FlightInvariant e :=
    hAlive.keeps (fun e event h hStep => step_eq e event ▸ flightInvariant_step h hStep)
      (flightInvariant_registered label states)
  refine ⟨hFifo, fun channel hBound oks hEnough => ?_⟩
  have hCallbacks : (oks.map (CheckEvent.complete 0)).map asSend = oks.map (.complete 0) := by
    simp [asSend]
  rw [run_eq, hCallbacks]
  exact fifo_drained ⟨hBound, hFifo, hFlight.singleFlight, hFlight.noStall⟩ hEnough

/-- A message before the channel is open, a binary message and a text on the open channel, and one callback. -/
theorem echoes_in_order_three_messages :
    let events : List CheckEvent :=
      [.message ⟨[1], false⟩, .setDataChannelInterface, .stateChange 0 .kOpen, .message ⟨[2], true⟩,
        .message ⟨[3], false⟩, .complete 0 true]
    let start : Endpoint DataBuffer := registered "check-sender" fun _ => .kConnecting
    let e := run step start events
    outputs step echo start events = (handed e).map Prod.snd ++ e.impl.sendQueue ∧
      ∀ channel, e.impl.dcInterface = some channel →
        ∀ oks : List Bool, e.impl.sendQueue.length ≤ oks.length →
          (handed (run step e (oks.map (.complete 0)))).map Prod.snd = outputs step echo start events :=
  echoes_in_order "check-sender" (fun _ => .kConnecting) _ (by simp only [EachStep]; decide)

end ConnectionCheck

end MosaicCore
