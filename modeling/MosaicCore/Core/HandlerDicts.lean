import MosaicCore.Core.PeerConnectionManager
import MosaicCore.Library.Registration

/-!
# The handler dictionaries as pointers

`data_channel_handlers_dict_` and `media_track_handlers_dict_` hold pointers to handler objects.  Where it
matters which object a dictionary holds, the objects are of any type here: `getLabel` and `getTrackName` are
their constant names, and a null pointer is `none`.

`World` keeps the objects themselves in its dictionaries; `ChannelBinding` compares the two.
-/

namespace MosaicCore

open EffectProgram Registration

/-- The dictionaries of a `MosaicConnector`, for handler objects of any type. -/
structure HandlerDicts (δ μ : Type) where
  dataChannelHandlersDict : OrderedMap String δ := .empty
  mediaTrackHandlersDict : OrderedMap String μ := .empty

namespace HandlerDicts

variable {α δ μ : Type} (getName : α → String) (getLabel : δ → String) (getTrackName : μ → String)

/-- The common body of the two registrations: the name is read first, and a name that is taken is only
logged. -/
def addHandler (pointer : String) (handler : Option α) : Program (OrderedMap String α) Unit := do
  let handler ← dereference pointer handler
  if ((← get).find? (getName handler)).isSome then pure ()
  else modify fun dict => dict.insert (getName handler) handler

/-- `MosaicConnector::AddDataChannelHandler`. -/
def addDataChannelHandler (handler : Option δ) : Program (HandlerDicts δ μ) Unit :=
  zoom (·.dataChannelHandlersDict) (fun dict d => { d with dataChannelHandlersDict := dict })
    (addHandler getLabel "data_channel_handler" handler)

/-- `MosaicConnector::AddMediaTrackHandler`. -/
def addMediaTrackHandler (handler : Option μ) : Program (HandlerDicts δ μ) Unit :=
  zoom (·.mediaTrackHandlersDict) (fun dict d => { d with mediaTrackHandlersDict := dict })
    (addHandler getTrackName "media_track_handler" handler)

/-- Registering an object keeps what has its name. -/
theorem addHandler_run (pointer : String) (handler : α) (dict : OrderedMap String α) :
    (addHandler getName pointer (some handler)).run dict =
      .ok () (dict.insert (getName handler) handler) := by
  by_cases hTaken : (dict.find? (getName handler)).isSome = true
  · simp [addHandler, hTaken, OrderedMap.insert_of_isSome hTaken]
  · simp [addHandler, hTaken]

/-- Registering a null pointer ends the process. -/
theorem addHandler_run_null (pointer : String) (dict : OrderedMap String α) :
    (addHandler getName pointer none).run dict = .error (.nullDereference pointer) dict := by
  simp only [addHandler, dereference_none]
  rfl

theorem addDataChannelHandler_run (handler : δ) (d : HandlerDicts δ μ) :
    (addDataChannelHandler getLabel (some handler)).run d =
      .ok () { d with dataChannelHandlersDict :=
        d.dataChannelHandlersDict.insert (getLabel handler) handler } := by
  rw [addDataChannelHandler, zoom_run, addHandler_run]

theorem addMediaTrackHandler_run (handler : μ) (d : HandlerDicts δ μ) :
    (addMediaTrackHandler getTrackName (some handler)).run d =
      .ok () { d with mediaTrackHandlersDict :=
        d.mediaTrackHandlersDict.insert (getTrackName handler) handler } := by
  rw [addMediaTrackHandler, zoom_run, addHandler_run]

end HandlerDicts
end MosaicCore
