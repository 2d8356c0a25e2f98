import MosaicCore.Signaling.SignalingRun

/-!
# The state the server was told last

`latest_state_` has two writers.  `SetState` and `StateBroadcastWorker` send the state under the state manager's
mutex; the on-connected callback re-sends the latest state it has read, without it.  So the callback is three
steps here, `is_connected_ = true`, reading `latest_state_`, and `SendState`, and anything may happen between
them: state changes, broadcasts, the end of the connection, and the next connection with its own callback.

A callback that has read `latest_state_` before a change of the state sends the old state after the new one.
`upToDate_iff` says that nothing else goes wrong: with no callback in progress, the server was told the state
exactly if the last `SendState` of the run was called with it.
-/

namespace MosaicCore

open EffectProgram EventRun

/-- An on-connected callback in progress. -/
inductive OnConnected
  /-- It has set `is_connected_`. -/
  | connected
  /-- It has read `latest_state_`, and calls `SendState` next. -/
  | read (latestState : Int)
  deriving DecidableEq, Repr

/-- A connector with the on-connected callbacks in progress. -/
structure Reporting where
  system : System
  callbacks : List OnConnected := []
  /-- How many calls had been made when the current connection came up. -/
  since : Nat := 0

/-- What happens next. -/
inductive ReportEvent
  | setState (newState : ConnectorState)
  | stateBroadcast
  /-- A connection is there, and its callback sets `is_connected_`. -/
  | connected
  /-- The next step of one of the callbacks in progress. -/
  | advance (callback : Nat)
  | disconnected
  deriving DecidableEq, Repr

/-- The state that a call reports. -/
def WsCall.status : WsCall → Option Int
  | .send (.object [("type", .string "status.update"), ("data", .object [("status", .int state)])]) => some state
  | _ => none

@[simp] theorem WsCall.status_stateMessage (state : Int) :
    (WsCall.send (SignalingClient.stateMessage state)).status = some state := rfl

theorem ConnectorState.stateToInt_ne (state : ConnectorState) : state.stateToInt ≠ -1 := by
  cases state <;> decide

namespace Reporting

variable (lib : Libraries)

/-- Run a routine of the connector. -/
def onSystem (p : Program System Unit) (r : Reporting) : Reporting :=
  { r with system := finalState (p.run r.system) }

/-- `m_connected = true`, and the first statement of the on-connected callback. -/
def comeUp : Program SignalingClient Unit := do
  SignalingClient.modifyWs fun ws => { ws with mConnected := true }
  modify fun s => { s with isConnected := true }

/-- The state after an event. -/
def step (r : Reporting) : ReportEvent → Reporting
  | .setState newState => onSystem (World.setState (SignalingClient.iface lib.sending) newState) r
  | .stateBroadcast => onSystem (World.sendState (SignalingClient.iface lib.sending)) r
  | .connected =>
      { system := finalState ((World.onSignaling comeUp).run r.system)
        callbacks := r.callbacks ++ [.connected]
        since := r.system.signaling.wsClient.calls.length }
  | .advance callback =>
      match r.callbacks[callback]? with
      | none => r
      | some .connected =>
          if r.system.signaling.latestState ≠ -1 then
            { r with callbacks := r.callbacks.set callback (.read r.system.signaling.latestState) }
          else { r with callbacks := r.callbacks.eraseIdx callback }
      | some (.read latestState) =>
          { onSystem (World.onSignaling (SignalingClient.sendState lib.sending latestState)) r with
            callbacks := r.callbacks.eraseIdx callback }
  | .disconnected => onSystem (World.onSignaling SignalingClient.handleClose) r

/-- A new connector, not connected. -/
def fresh (wsUri : String) (authenticator : Authenticator) (states : Nat → DataState)
    (iceServers : List IceServerConfig) : Reporting where
  system := System.initial wsUri authenticator states iceServers

/-- The states reported on the current connection. -/
def statuses (r : Reporting) : List Int :=
  (r.system.signaling.wsClient.calls.drop r.since).filterMap WsCall.status

/-- The server has been told the state. -/
def UpToDate (r : Reporting) : Prop :=
  r.system.signaling.latestState = r.system.stateManager.state.stateToInt ∧
    (r.system.signaling.isConnected = true →
      (statuses r).getLast? = some r.system.stateManager.state.stateToInt)

/-- The step calls `SendState`. -/
def reports (r : Reporting) : ReportEvent → Bool
  | .setState _ => true
  | .stateBroadcast => true
  | .advance callback =>
      match r.callbacks[callback]? with
      | some (.read _) => true
      | _ => false
  | _ => false

/-- The step is a callback that calls `SendState` with another state than the current one. -/
def stale (r : Reporting) : ReportEvent → Bool
  | .advance callback =>
      match r.callbacks[callback]? with
      | some (.read latestState) => latestState ≠ r.system.stateManager.state.stateToInt
      | _ => false
  | _ => false

/-! ## What the steps do -/

variable {lib}

/-- A `SendState` that succeeds. -/
theorem sendState_sending (s : SignalingClient) (state : Int) :
    (SignalingClient.sendState lib.sending state).run s = .ok () (SignalingClient.told s state) := by
  simp [SignalingClient.sendState_run, Libraries.sending]

/-- The connector after a `SendState` that succeeded. -/
def reported (r : Reporting) (stateManager : ConnectorStateManager) (state : Int)
    (callbacks : List OnConnected) : Reporting :=
  { r with
    system :=
      { r.system with
        stateManager := stateManager
        signaling := SignalingClient.told r.system.signaling state }
    callbacks := callbacks }

theorem step_setState {r : Reporting} (hClient : r.system.stateManager.signalingClient = true)
    (newState : ConnectorState) : step lib r (.setState newState) =
      reported r { r.system.stateManager with state := newState } newState.stateToInt r.callbacks := by
  have hRun : (World.setState (SignalingClient.iface lib.sending) newState).run r.system =
      (World.onSignaling (SignalingClient.sendState lib.sending newState.stateToInt)).run
        { r.system with stateManager := { r.system.stateManager with state := newState } } := by
    simp [World.setState, World.sendState, hClient, SignalingClient.iface]
  show onSystem _ r = _
  rw [onSystem, hRun, World.onSignaling, finalState_zoom, sendState_sending]
  rfl

theorem step_stateBroadcast {r : Reporting} (hClient : r.system.stateManager.signalingClient = true) :
    step lib r .stateBroadcast =
      reported r r.system.stateManager r.system.stateManager.state.stateToInt r.callbacks := by
  have hRun : (World.sendState (SignalingClient.iface lib.sending)).run r.system =
      (World.onSignaling (SignalingClient.sendState lib.sending
        r.system.stateManager.state.stateToInt)).run r.system := by
    simp [World.sendState, hClient, SignalingClient.iface]
  show onSystem _ r = _
  rw [onSystem, hRun, World.onSignaling, finalState_zoom, sendState_sending]
  rfl

theorem step_advance_read {r : Reporting} {callback : Nat} {latestState : Int}
    (hAt : r.callbacks[callback]? = some (.read latestState)) :
    step lib r (.advance callback) =
      reported r r.system.stateManager latestState (r.callbacks.eraseIdx callback) := by
  simp only [step, hAt, onSystem, World.onSignaling, finalState_zoom, sendState_sending]
  rfl

/-- A callback that nothing interrupts is the one of the signaling client. -/
theorem callback_alone {r : Reporting} (hNone : r.callbacks = []) :
    (run (step lib) r [.connected, .advance 0, .advance 0]).system =
      finalState ((World.onSignaling (SignalingClient.modifyWs (fun ws => { ws with mConnected := true }) >>=
        fun _ => SignalingClient.onConnected lib.sending)).run r.system) := by
  by_cases hLatest : r.system.signaling.latestState = -1
  · simp [step, hNone, comeUp, World.onSignaling, finalState_zoom, SignalingClient.onConnected,
      SignalingClient.modifyWs, hLatest]
  · simp [step, hNone, comeUp, World.onSignaling, finalState_zoom, SignalingClient.onConnected,
      SignalingClient.modifyWs, hLatest, onSystem]

/-! ## The invariant -/

/-- Once no callback is in progress, the server has been told what `latest_state_` says. -/
structure ReportInvariant (r : Reporting) : Prop where
  client : r.system.stateManager.signalingClient = true
  up : r.system.signaling.isConnected = true → r.system.signaling.wsClient.mConnected = true
  since : r.since ≤ r.system.signaling.wsClient.calls.length
  told : r.callbacks = [] → r.system.signaling.isConnected = true → r.system.signaling.latestState ≠ -1 →
    (statuses r).getLast? = some r.system.signaling.latestState

theorem ReportInvariant.reported {r : Reporting} (h : ReportInvariant r) {stateManager : ConnectorStateManager}
    (hClient : stateManager.signalingClient = true) (state : Int) (callbacks : List OnConnected) :
    ReportInvariant (reported r stateManager state callbacks) := by
  have hCalls := SignalingClient.told_calls r.system.signaling state
  have hSince := h.since
  refine ⟨hClient, ?_, ?_, ?_⟩
  · simpa [Reporting.reported] using h.up
  · show r.since ≤ (SignalingClient.told r.system.signaling state).wsClient.calls.length
    rw [hCalls, List.length_append]
    omega
  · intro _ hConnected _
    have hConnected' : r.system.signaling.isConnected = true := by
      simpa [Reporting.reported] using hConnected
    show (((SignalingClient.told r.system.signaling state).wsClient.calls.drop r.since).filterMap
      WsCall.status).getLast? = some (SignalingClient.told r.system.signaling state).latestState
    rw [hCalls, List.drop_append_of_le_length hSince]
    simp [hConnected', h.up hConnected']

variable (lib) in
theorem reportInvariant_step {r : Reporting} (event : ReportEvent) (h : ReportInvariant r) :
    ReportInvariant (step lib r event) := by
  cases event with
  | setState newState =>
      rw [step_setState h.client]
      apply h.reported
      exact h.client
  | stateBroadcast =>
      rw [step_stateBroadcast h.client]
      exact h.reported h.client _ _
  | connected =>
      refine ⟨h.client, fun _ => rfl, Nat.le_refl _, fun hNone => ?_⟩
      exact absurd hNone (by simp [step])
  | advance callback =>
      cases hAt : r.callbacks[callback]? with
      | none =>
          have hStep : step lib r (.advance callback) = r := by simp [step, hAt]
          rw [hStep]
          exact h
      | some location =>
          cases location with
          | read latestState =>
              rw [step_advance_read hAt]
              exact h.reported h.client _ _
          | connected =>
              by_cases hLatest : r.system.signaling.latestState = -1
              · -- The callback ends without a report: there has been none at all.
                have hStep : step lib r (.advance callback) =
                    { r with callbacks := r.callbacks.eraseIdx callback } := by simp [step, hAt, hLatest]
                rw [hStep]
                exact ⟨h.client, h.up, h.since, fun _ _ hReported => absurd hLatest hReported⟩
              · have hStep : step lib r (.advance callback) =
                    { r with callbacks := r.callbacks.set callback (.read r.system.signaling.latestState) } := by
                  simp [step, hAt, hLatest]
                rw [hStep]
                refine ⟨h.client, h.up, h.since, fun hNone => ?_⟩
                -- The callback is still there.
                have hEmpty : r.callbacks = [] := by simpa using hNone
                simp [hEmpty] at hAt
  | disconnected =>
      refine ⟨h.client, fun hConnected => ?_, h.since, fun _ hConnected => ?_⟩
      · exact absurd hConnected (by simp [step, onSystem, World.onSignaling, finalState_zoom,
          SignalingClient.handleClose, SignalingClient.modifyWs, SignalingClient.onDisconnected])
      · exact absurd hConnected (by simp [step, onSystem, World.onSignaling, finalState_zoom,
          SignalingClient.handleClose, SignalingClient.modifyWs, SignalingClient.onDisconnected])

theorem reportInvariant_fresh (wsUri : String) (authenticator : Authenticator) (states : Nat → DataState)
    (iceServers : List IceServerConfig) : ReportInvariant (fresh wsUri authenticator states iceServers) := by
  refine ⟨rfl, fun hConnected => ?_, Nat.le_refl _, fun _ hConnected => ?_⟩
  · exact absurd hConnected (by simp [fresh, System.initial, World.wired])
  · exact absurd hConnected (by simp [fresh, System.initial, World.wired])

/-! ## The last report -/

/-- `latest_state_` is the state. -/
def LatestIsState (r : Reporting) : Prop :=
  r.system.signaling.latestState = r.system.stateManager.state.stateToInt

/-- A report leaves `latest_state_` at the state exactly if it is not stale. -/
theorem latestIsState_of_reports {r : Reporting} (event : ReportEvent) (h : ReportInvariant r)
    (hReports : reports r event = true) : LatestIsState (step lib r event) ↔ stale r event = false := by
  cases event with
  | setState newState =>
      rw [step_setState h.client]
      simp [LatestIsState, reported, stale]
  | stateBroadcast =>
      rw [step_stateBroadcast h.client]
      simp [LatestIsState, reported, stale]
  | connected => simp [reports] at hReports
  | disconnected => simp [reports] at hReports
  | advance callback =>
      cases hAt : r.callbacks[callback]? with
      | none => simp [reports, hAt] at hReports
      | some location =>
          cases location with
          | connected => simp [reports, hAt] at hReports
          | read latestState =>
              rw [step_advance_read hAt]
              simp [LatestIsState, reported, stale, hAt]

/-- Without a report, neither `latest_state_` nor the state changes. -/
theorem latestIsState_of_not_reports {r : Reporting} (event : ReportEvent)
    (hReports : reports r event = false) : LatestIsState (step lib r event) ↔ LatestIsState r := by
  cases event with
  | setState newState => simp [reports] at hReports
  | stateBroadcast => simp [reports] at hReports
  | connected => exact Iff.rfl
  | disconnected => exact Iff.rfl
  | advance callback =>
      cases hAt : r.callbacks[callback]? with
      | none => simp [step, hAt]
      | some location =>
          cases location with
          | read latestState => simp [reports, hAt] at hReports
          | connected =>
              by_cases hLatest : r.system.signaling.latestState = -1
              · simp [step, hAt, hLatest, LatestIsState]
              · simp [step, hAt, hLatest, LatestIsState]

variable (lib) in
/-- **When the server's view is the state.**  After any interleaving of state changes, broadcasts, ends of
connections and new connections with the steps of their callbacks, once a `SendState` has happened and no
callback is in progress: the server has been told the state exactly if the last `SendState` was not that of a
callback with an older state. -/
theorem upToDate_iff (wsUri : String) (authenticator : Authenticator) (states : Nat → DataState)
    (iceServers : List IceServerConfig) (events : List ReportEvent) {before : Reporting} {event : ReportEvent}
    (hLast : lastStep (step lib) reports (fresh wsUri authenticator states iceServers) events =
      some (before, event))
    (hIdle : (run (step lib) (fresh wsUri authenticator states iceServers) events).callbacks = []) :
    UpToDate (run (step lib) (fresh wsUri authenticator states iceServers) events) ↔
      stale before event = false := by
  have hFresh := reportInvariant_fresh wsUri authenticator states iceServers
  have hEnd : ReportInvariant (run (step lib) (fresh wsUri authenticator states iceServers) events) :=
    run_invariant (A := fun _ => True) (fun r event _ h => reportInvariant_step lib event h) hFresh
      fun _ _ => trivial
  -- The last report decides, since what comes after it reports nothing.
  have hLatest := lastStep_rule (I := ReportInvariant)
    (K := fun before event r => LatestIsState r ↔ stale before event = false)
    (fun r event h => reportInvariant_step lib event h)
    (fun r event h hReports => latestIsState_of_reports event h hReports)
    (fun before event r event' _ hReports hK => (latestIsState_of_not_reports event' hReports).trans hK)
    hFresh hLast
  rw [← hLatest]
  constructor
  · intro hUpToDate
    exact hUpToDate.1
  · intro hSame
    refine ⟨hSame, fun hConnected => ?_⟩
    rw [hEnd.told hIdle hConnected (hSame ▸ ConnectorState.stateToInt_ne _), hSame]

/-- A connector that has reported READY_TO_CONNECT, and whose connection has come up since. -/
def readyConnected (lib : Libraries) : Reporting :=
  run (step lib) (fresh "" {} (fun _ => .kConnecting) []) [.setState .readyToConnect, .connected, .advance 0]

/-- Nothing changes the state before the callback sends it. -/
theorem upToDate_iff_alone :
    UpToDate (run (step .silent) (fresh "" {} (fun _ => .kConnecting) [])
        [.setState .readyToConnect, .connected, .advance 0, .advance 0]) ↔
      stale (readyConnected .silent) (.advance 0) = false :=
  upToDate_iff .silent "" {} (fun _ => .kConnecting) []
    [.setState .readyToConnect, .connected, .advance 0, .advance 0] rfl (by decide)

/-- The state becomes RTC_CONNECTING after the callback has read READY_TO_CONNECT: the server is told the new
state, and then the old one. -/
theorem callback_overwrites_state :
    let r := run (step .silent) (fresh "" {} (fun _ => .kConnecting) [])
      [.setState .readyToConnect, .connected, .advance 0, .setState .rtcConnecting, .advance 0]
    r.callbacks = [] ∧ r.system.signaling.isConnected = true ∧
      r.system.stateManager.state = .rtcConnecting ∧ statuses r = [1, 0] ∧
      r.system.signaling.latestState = 0 ∧ ¬ UpToDate r := by
  refine ⟨by decide, by decide, by decide, by decide, by decide, ?_⟩
  intro hUpToDate
  exact absurd hUpToDate.1 (by decide)

end Reporting

end MosaicCore
