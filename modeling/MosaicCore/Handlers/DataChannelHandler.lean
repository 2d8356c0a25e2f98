import Mathlib.Data.List.Basic
import MosaicCore.Core.Fault
import MosaicCore.Library.EventRun

/-!
# `ADataChannelHandler` and `DataChannelSendable`

A handler owns at most one libwebrtc channel at a time and a queue of buffers for asynchronous sends.
The queue code never looks inside a buffer, so it is written for buffers of any type `β`.

* `DataChannelHandler` — the fields of `ADataChannelHandler::Impl`.
* `Channels` — libwebrtc's side: the state of every channel, the calls made on channels, and the
  completion callbacks it still owes.
* `Endpoint` — one handler and libwebrtc's side, the state its member functions run over.
* `SendEvent`, `step` — the calls and callbacks that reach a handler, handled one at a time; every
  `SendAsync` and every callback runs under `queue_mutex_`.
-/

namespace MosaicCore

open EffectProgram

/-- `IDataChannelHandler::ChannelState`. -/
inductive ChannelState
  | kConnecting
  | kOpen
  | kClosing
  | kClosed
  | kUnknown
  deriving DecidableEq, Repr

/-- `webrtc::DataChannelInterface::DataState`. -/
inductive DataState
  | kConnecting
  | kOpen
  | kClosing
  | kClosed
  deriving DecidableEq, Repr

/-- `webrtc::DataBuffer`. -/
structure DataBuffer where
  data : List UInt8
  binary : Bool
  deriving DecidableEq, Repr

/-- The fields of `ADataChannelHandler::Impl`.  Channels and observers are objects elsewhere; a pointer
to one is its number. -/
structure DataChannelHandler (β : Type) where
  label : String
  dcInterface : Option Nat := none
  observer : Option Nat := none
  sendQueue : List β := []
  isSending : Bool := false

/-- The calls a handler makes on a `webrtc::DataChannelInterface`. -/
inductive ChannelCall (β : Type)
  | send (channel : Nat) (buffer : β)
  | sendAsync (channel : Nat) (buffer : β)
  | registerObserver (channel observer : Nat)
  | close (channel : Nat)
  deriving DecidableEq, Repr

/-- libwebrtc's side of the data channels. -/
structure Channels (β : Type) where
  states : Nat → DataState
  calls : List (ChannelCall β) := []
  /-- The `SendAsync` calls whose completion callback has not been called. -/
  awaiting : List (Nat × β) := []
  /-- How many channels libwebrtc has delivered; the next one gets this number. -/
  delivered : Nat := 0

/-- A handler together with libwebrtc's side. -/
structure Endpoint (β : Type) where
  impl : DataChannelHandler β
  channels : Channels β

variable {β : Type}

namespace Endpoint

/-- Record a call on a channel. -/
def call (c : ChannelCall β) : Program (Endpoint β) Unit :=
  modify fun e => { e with channels := { e.channels with calls := e.channels.calls ++ [c] } }

/-- `dc_interface_->SendAsync(buffer, on_complete)`: the callback is owed from here on. -/
def callSendAsync (channel : Nat) (buffer : β) : Program (Endpoint β) Unit :=
  modify fun e =>
    { e with channels :=
        { e.channels with
          calls := e.channels.calls ++ [.sendAsync channel buffer]
          awaiting := e.channels.awaiting ++ [(channel, buffer)] } }

/-- `Impl::SetDataChannelInterface`. -/
def setDataChannelInterface : Option Nat → Program (Endpoint β) Unit
  | none => throw (.exception "DataChannelInterface cannot be null")
  | some channel => modify fun e => { e with impl := { e.impl with dcInterface := some channel } }

/-- `Impl::RegisterDataChannelObserver`; `fresh` is the `DataChannelObserver` it makes. -/
def registerDataChannelObserver (fresh : Nat) : Program (Endpoint β) Unit := do
  match (← get).impl.dcInterface with
  | none => throw (.exception "DataChannelInterface is not set")
  | some channel =>
      modify fun e => { e with impl := { e.impl with observer := some fresh } }
      call (.registerObserver channel fresh)

/-- `Impl::GetState`. -/
def getState (e : Endpoint β) : ChannelState :=
  match e.impl.dcInterface with
  | none => .kUnknown
  | some channel =>
      match e.channels.states channel with
      | .kConnecting => .kConnecting
      | .kOpen => .kOpen
      | .kClosing => .kClosing
      | .kClosed => .kClosed

/-- `Impl::CloseDataChannel`: only `dc_interface_` is reset. -/
def closeDataChannel : Program (Endpoint β) Unit := do
  match (← get).impl.dcInterface with
  | some channel =>
      call (.close channel)
      modify fun e => { e with impl := { e.impl with dcInterface := none } }
  | none => pure ()

/-- `Impl::Send`. -/
def implSend (buffer : β) : Program (Endpoint β) Unit := do
  let channel ← dereference "dc_interface_" (← get).impl.dcInterface
  call (.send channel buffer)

/-- `Impl::ProcessQueue`. -/
def processQueue : Program (Endpoint β) Unit := do
  let e ← get
  match e.impl.isSending, e.impl.sendQueue with
  | false, buffer :: rest =>
      set { e with impl := { e.impl with isSending := true, sendQueue := rest } }
      let channel ← dereference "dc_interface_" e.impl.dcInterface
      callSendAsync channel buffer
  | _, _ => pure ()

/-- `Impl::SendAsync`. -/
def implSendAsync (buffer : β) : Program (Endpoint β) Unit := do
  modify fun e => { e with impl := { e.impl with sendQueue := e.impl.sendQueue ++ [buffer] } }
  processQueue

/-- The completion callback `ProcessQueue` hands to `SendAsync`; an error is only logged. -/
def onSendComplete (_ok : Bool) : Program (Endpoint β) Unit := do
  modify fun e => { e with impl := { e.impl with isSending := false } }
  processQueue

/-- `DataChannelSendable::Sendable`. -/
def sendable (e : Endpoint β) : Bool := getState e = .kOpen

/-- `DataChannelSendable::Send`. -/
def send (buffer : β) (isAsync : Bool) : Program (Endpoint β) Unit := do
  if ¬ sendable (← get) then pure ()
  else if isAsync then implSendAsync buffer
  else implSend buffer

/-- The common body of the converting sends: check, build the buffer, `Send` it. -/
def sendConverted (buffer : β) (isAsync : Bool) : Program (Endpoint β) Unit := do
  if ¬ sendable (← get) then pure ()
  else send buffer isAsync

/-- `DataChannelSendable::SendString`. -/
def sendString (string : String) (isAsync : Bool) : Program (Endpoint DataBuffer) Unit :=
  sendConverted ⟨string.toUTF8.toList, false⟩ isAsync

/-- `DataChannelSendable::SendStringAsByte`. -/
def sendStringAsByte (string : String) (isAsync : Bool) : Program (Endpoint DataBuffer) Unit :=
  sendConverted ⟨string.toUTF8.toList, true⟩ isAsync

/-- `DataChannelSendable::SendJson`, of the text `Json::writeString` gives. -/
def sendJson (jsonString : String) (isAsync : Bool) : Program (Endpoint DataBuffer) Unit :=
  sendConverted ⟨jsonString.toUTF8.toList, false⟩ isAsync

/-- The second check of a converting send sees the state of the first, so it is a plain `Send`. -/
theorem sendConverted_eq_send (buffer : β) (isAsync : Bool) :
    (sendConverted buffer isAsync : Program (Endpoint β) Unit) = send buffer isAsync := by
  funext e
  show (sendConverted buffer isAsync).run e = (send buffer isAsync).run e
  by_cases hOpen : sendable e = true
  · simp [sendConverted, hOpen]
  · simp [sendConverted, send, hOpen]

end Endpoint

/-! ## Calls and callbacks reaching a handler -/

/-- One call or callback, handled on its own. -/
inductive SendEvent (β : Type)
  | send (buffer : β) (isAsync : Bool)
  | sendAsync (buffer : β)
  /-- libwebrtc calls the completion callback of one of the `SendAsync` calls it still owes. -/
  | complete (index : Nat) (ok : Bool)
  | closeDataChannel
  /-- `SetDataChannelInterface` with the next channel libwebrtc delivers. -/
  | setDataChannelInterface
  | stateChange (channel : Nat) (state : DataState)
  deriving DecidableEq, Repr

namespace Endpoint

/-- The routine an event runs. -/
def handle (event : SendEvent β) (e : Endpoint β) : EStateM.Result Fault (Endpoint β) Unit :=
  match event with
  | .send buffer isAsync => (send buffer isAsync).run e
  | .sendAsync buffer => (implSendAsync buffer).run e
  | .complete index ok =>
      if index < e.channels.awaiting.length then
        (onSendComplete ok).run
          { e with channels := { e.channels with awaiting := e.channels.awaiting.eraseIdx index } }
      else .ok () e
  | .closeDataChannel => closeDataChannel.run e
  | .setDataChannelInterface =>
      (setDataChannelInterface (some e.channels.delivered)).run
        { e with channels := { e.channels with delivered := e.channels.delivered + 1 } }
  | .stateChange channel state =>
      .ok () { e with channels :=
        { e.channels with states := fun c => if c = channel then state else e.channels.states c } }

/-- The state after an event. -/
def step (e : Endpoint β) (event : SendEvent β) : Endpoint β := finalState (handle event e)

/-- The event runs into a null `dc_interface_`. -/
def dereferencesNull (e : Endpoint β) (event : SendEvent β) : Bool :=
  match handle event e with
  | .error (.nullDereference _) _ => true
  | _ => false

/-- The buffers handed to channels by `SendAsync`, oldest first, each with its channel. -/
def handed (e : Endpoint β) : List (Nat × β) :=
  e.channels.calls.filterMap fun
    | .sendAsync channel buffer => some (channel, buffer)
    | _ => none

/-! ## What the routines compute -/

@[simp] theorem handed_call_other {e : Endpoint β} {c : ChannelCall β}
    (hc : ∀ channel buffer, c ≠ .sendAsync channel buffer) :
    handed (finalState ((call c).run e)) = handed e := by
  cases c with
  | sendAsync channel buffer => exact absurd rfl (hc channel buffer)
  | send channel buffer => simp [call, handed]
  | registerObserver channel observer => simp [call, handed]
  | close channel => simp [call, handed]

/-- `ProcessQueue` does nothing while a send is in flight. -/
theorem processQueue_run_sending {e : Endpoint β} (h : e.impl.isSending = true) :
    processQueue.run e = .ok () e := by
  simp [processQueue, h]

/-- `ProcessQueue` does nothing on an empty queue. -/
theorem processQueue_run_empty {e : Endpoint β} (h : e.impl.sendQueue = []) :
    processQueue.run e = .ok () e := by
  simp [processQueue, h]

/-- The state after `ProcessQueue` hands the front buffer to a channel. -/
def handOver (e : Endpoint β) (channel : Nat) (buffer : β) (rest : List β) : Endpoint β where
  impl := { e.impl with isSending := true, sendQueue := rest }
  channels :=
    { e.channels with
      calls := e.channels.calls ++ [.sendAsync channel buffer]
      awaiting := e.channels.awaiting ++ [(channel, buffer)] }

@[simp] theorem handed_handOver (e : Endpoint β) (channel : Nat) (buffer : β) (rest : List β) :
    handed (handOver e channel buffer rest) = handed e ++ [(channel, buffer)] := by
  simp [handed, handOver]

/-- `ProcessQueue` hands the front buffer to the bound channel. -/
theorem processQueue_run_handOver {e : Endpoint β} {channel : Nat} {buffer : β} {rest : List β}
    (hIdle : e.impl.isSending = false) (hQueue : e.impl.sendQueue = buffer :: rest)
    (hBound : e.impl.dcInterface = some channel) :
    processQueue.run e = .ok () (handOver e channel buffer rest) := by
  simp [processQueue, hIdle, hQueue, hBound, callSendAsync, handOver]

/-- With no channel bound, `ProcessQueue` takes the front buffer and runs into the null pointer. -/
theorem processQueue_run_null {e : Endpoint β} {buffer : β} {rest : List β}
    (hIdle : e.impl.isSending = false) (hQueue : e.impl.sendQueue = buffer :: rest)
    (hBound : e.impl.dcInterface = none) :
    processQueue.run e = .error (.nullDereference "dc_interface_")
      { e with impl := { e.impl with isSending := true, sendQueue := rest } } := by
  simp only [processQueue, EStateM.run_bind, EStateM.run_get, hIdle, hQueue, hBound,
    dereference_none]
  rfl

end Endpoint

end MosaicCore
