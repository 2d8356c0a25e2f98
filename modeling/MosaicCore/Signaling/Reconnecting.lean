import MosaicCore.Signaling.Stopped

/-!
# How often the connection is rebuilt

Every `connect` starts something that goes on for ever: an attempt becomes a connection, the end of a connection
starts a reconnect thread, and the thread makes the next attempt.  `Pending.total` counts what is under way.  It
never grows but by a `connect` (`total_le_connects`), so no end of a connection is ever followed by two attempts;
and where the WebSocket library calls the close handler for every connection that ends and every attempt that
fails, it never shrinks either (`total_eq_connects`): the client reconnects for ever, also after it was stopped.

That an end is counted once rests on the clients having different numbers (`Distinct`).
-/

namespace MosaicCore

open EffectProgram EventRun

/-- How many connections there are, are being made, or will be. -/
def Pending.total (p : Pending) : Nat :=
  p.reconnectThreads + p.connecting.length + p.connections.length

/-- The close handler is called whenever a connection has ended or an attempt has failed. -/
def Libraries.Notifies (lib : Libraries) : Prop :=
  lib.closeNotifies = true ∧ lib.failNotifies = true

namespace SignalingClient

variable {lib : Libraries}

/-- The clients of the attempts and of the connections are different ones that have been made. -/
structure Distinct (s : SignalingClient) : Prop where
  nodup : (s.wsClient.connecting ++ s.wsClient.connections).Nodup
  made : ∀ client ∈ s.wsClient.connecting ++ s.wsClient.connections, client < s.wsClient.clients

variable (lib) in
/-- Nothing new is begun, and nothing is given up where the library notifies. -/
def Carries (s s' : SignalingClient) : Prop :=
  Distinct s → Distinct s' ∧ (pending s').total ≤ (pending s).total ∧
    (lib.Notifies → (pending s').total = (pending s).total)

instance : IsPreorder SignalingClient (Carries lib) where
  refl _ h := ⟨h, Nat.le_refl _, fun _ => rfl⟩
  trans _ _ _ hFirst hSecond h := by
    obtain ⟨h₁, hLess₁, hSame₁⟩ := hFirst h
    obtain ⟨h₂, hLess₂, hSame₂⟩ := hSecond h₁
    exact ⟨h₂, Nat.le_trans hLess₂ hLess₁, fun hNotifies => (hSame₂ hNotifies).trans (hSame₁ hNotifies)⟩

/-- What leaves the attempts, the connections and the threads alone. -/
theorem Carries.of_pending {s s' : SignalingClient} (hPending : pending s' = pending s)
    (hClients : s'.wsClient.clients = s.wsClient.clients) : Carries lib s s' := by
  intro h
  have hConnecting : s'.wsClient.connecting = s.wsClient.connecting := congrArg Pending.connecting hPending
  have hConnections : s'.wsClient.connections = s.wsClient.connections := congrArg Pending.connections hPending
  refine ⟨⟨?_, ?_⟩, Nat.le_of_eq (congrArg Pending.total hPending), fun _ => congrArg Pending.total hPending⟩
  · rw [hConnecting, hConnections]
    exact h.nodup
  · rw [hConnecting, hConnections, hClients]
    exact h.made

theorem Carries.of_socket {s s' : SignalingClient} (hSame : socket s' = socket s) : Carries lib s s' := by
  have hWs : { s'.wsClient with calls := [] } = { s.wsClient with calls := [] } := congrArg Prod.snd hSame
  obtain ⟨-, -, -, hClients, hConnecting, hConnections, hThreads, -⟩ := by
    simpa only [WebSocketClientImpl.mk.injEq] using hWs
  exact Carries.of_pending (by rw [pending, pending, hConnecting, hConnections, hThreads]) hClients

/-! ## The ends of attempts and connections -/

/-- Taking one client out of a list without repetitions. -/
theorem perm_cons_filter_ne {clients : List Nat} (hNodup : clients.Nodup) {client : Nat} (hMem : client ∈ clients) :
    clients.Perm (client :: clients.filter fun other => other ≠ client) := by
  have hErase : (clients.filter fun other => other ≠ client) = clients.erase client := by
    rw [hNodup.erase_eq_filter]
    exact List.filter_congr fun other _ => by by_cases hSame : other = client <;> simp [hSame]
  rw [hErase]
  exact List.perm_cons_erase hMem

theorem length_filter_ne {clients : List Nat} (hNodup : clients.Nodup) {client : Nat} (hMem : client ∈ clients) :
    (clients.filter fun other => other ≠ client).length + 1 = clients.length :=
  (perm_cons_filter_ne hNodup hMem).length_eq.symm

/-- An attempt or a connection ends, and a reconnect thread is started or not. -/
theorem Carries.ended {s s' : SignalingClient} (client : Nat) (notified : Bool)
    (hNotified : lib.Notifies → notified = true) (hClients : s'.wsClient.clients = s.wsClient.clients)
    (hThreads : s'.wsClient.reconnectThreads = s.wsClient.reconnectThreads + if notified then 1 else 0)
    (hEnded : client ∈ s.wsClient.connecting ∧
        s'.wsClient.connecting = s.wsClient.connecting.filter (· ≠ client) ∧
        s'.wsClient.connections = s.wsClient.connections ∨
      client ∈ s.wsClient.connections ∧ s'.wsClient.connecting = s.wsClient.connecting ∧
        s'.wsClient.connections = s.wsClient.connections.filter (· ≠ client)) : Carries lib s s' := by
  intro h
  obtain ⟨hAttempts, hOpen, -⟩ := List.nodup_append.mp h.nodup
  -- Both lists shrink, and by one client in all.
  have hSublist : (s'.wsClient.connecting ++ s'.wsClient.connections).Sublist
      (s.wsClient.connecting ++ s.wsClient.connections) := by
    rcases hEnded with ⟨-, hConnecting, hConnections⟩ | ⟨-, hConnecting, hConnections⟩
    · rw [hConnecting, hConnections]
      exact List.filter_sublist.append (List.Sublist.refl _)
    · rw [hConnecting, hConnections]
      exact (List.Sublist.refl _).append List.filter_sublist
  have hOne : s'.wsClient.connecting.length + s'.wsClient.connections.length + 1 =
      s.wsClient.connecting.length + s.wsClient.connections.length := by
    rcases hEnded with ⟨hMem, hConnecting, hConnections⟩ | ⟨hMem, hConnecting, hConnections⟩
    · have hLess := length_filter_ne hAttempts hMem
      rw [hConnecting, hConnections]
      omega
    · have hLess := length_filter_ne hOpen hMem
      rw [hConnecting, hConnections]
      omega
  refine ⟨⟨h.nodup.sublist hSublist, fun other hMem => ?_⟩, ?_, fun hNotifies => ?_⟩
  · rw [hClients]
    exact h.made other (hSublist.subset hMem)
  · simp only [pending, Pending.total, hThreads]
    split_ifs <;> omega
  · simp only [pending, Pending.total, hThreads, hNotified hNotifies, if_true]
    omega

theorem carries_closeClient : Within (Carries lib) (closeClient lib) := by
  intro s
  cases hClient : s.wsClient.mClient with
  | none =>
      rw [closeClient_none hClient]
      exact Std.Refl.refl s
  | some client =>
      have hCalled : Carries lib s (called s .close) := Carries.of_socket rfl
      rw [closeClient_some hClient]
      by_cases hFails : lib.fails s.wsClient.calls.length = true
      · rw [if_pos hFails]
        exact hCalled
      rw [if_neg hFails]
      by_cases hOpen : client ∈ s.wsClient.connections
      · refine Carries.ended client lib.closeNotifies And.left ?_ ?_ (.inr ⟨hOpen, ?_⟩)
        all_goals
          cases hNotifies : lib.closeNotifies <;>
            simp [closedOn, hOpen, hNotifies, dropConnection, modifyWs, handleClose, onDisconnected, called]
      · rw [finalState_ok, closedOn, if_neg hOpen]
        exact hCalled

theorem carries_connectFailed (client : Nat) : Within (Carries lib) (connectFailed lib client) := by
  intro s
  by_cases hMem : client ∈ s.wsClient.connecting
  · refine Carries.ended client lib.failNotifies And.right ?_ ?_ (.inl ⟨hMem, ?_⟩)
    all_goals
      cases hNotifies : lib.failNotifies <;>
        simp [connectFailed, hMem, hNotifies, modifyWs, handleClose, onDisconnected]
  · have hSame : finalState ((connectFailed lib client).run s) = s := by simp [connectFailed, hMem]
    rw [hSame]
    exact Std.Refl.refl s

theorem carries_serverClosed (client : Nat) : Within (Carries lib) (serverClosed client) := by
  intro s
  by_cases hMem : client ∈ s.wsClient.connections
  · refine Carries.ended client true (fun _ => rfl) ?_ ?_ (.inr ⟨hMem, ?_⟩)
    all_goals simp [serverClosed, hMem, dropConnection, modifyWs, handleClose, onDisconnected]
  · have hSame : finalState ((serverClosed client).run s) = s := by simp [serverClosed, hMem]
    rw [hSame]
    exact Std.Refl.refl s

theorem carries_halt (halt : Halt) : Within (Carries lib) (halt.program lib) :=
  within_halt (R := Carries lib) (within_modify fun _ => Carries.of_pending rfl rfl) carries_closeClient
    (within_modify fun _ => Carries.of_pending rfl rfl) halt

/-! ## Attempts -/

/-- An attempt of a new client. -/
theorem Distinct.begun {s s' : SignalingClient} (h : Distinct s)
    (hConnecting : s'.wsClient.connecting = s.wsClient.connecting ++ [s.wsClient.clients])
    (hConnections : s'.wsClient.connections = s.wsClient.connections)
    (hClients : s'.wsClient.clients = s.wsClient.clients + 1) : Distinct s' := by
  have hPerm : (s'.wsClient.connecting ++ s'.wsClient.connections).Perm
      (s.wsClient.clients :: (s.wsClient.connecting ++ s.wsClient.connections)) := by
    rw [hConnecting, hConnections, List.append_assoc]
    exact List.perm_middle
  constructor
  · refine hPerm.nodup_iff.mpr (List.nodup_cons.mpr ⟨fun hMem => ?_, h.nodup⟩)
    exact Nat.lt_irrefl _ (h.made _ hMem)
  · intro client hMem
    rw [hClients]
    rcases List.mem_cons.mp (hPerm.subset hMem) with rfl | hOld
    · exact Nat.lt_succ_self _
    · exact Nat.lt_succ_of_lt (h.made client hOld)

/-- The attempt of a client becomes a connection. -/
theorem Carries.succeeded {s s' : SignalingClient} {client : Nat} (hMem : client ∈ s.wsClient.connecting)
    (hConnecting : s'.wsClient.connecting = s.wsClient.connecting.filter (· ≠ client))
    (hConnections : s'.wsClient.connections = s.wsClient.connections ++ [client])
    (hThreads : s'.wsClient.reconnectThreads = s.wsClient.reconnectThreads)
    (hClients : s'.wsClient.clients = s.wsClient.clients) : Carries lib s s' := by
  intro h
  have hAttempts : s.wsClient.connecting.Nodup := (List.nodup_append.mp h.nodup).1
  have hLess := length_filter_ne hAttempts hMem
  have hPerm : (s'.wsClient.connecting ++ s'.wsClient.connections).Perm
      (s.wsClient.connecting ++ s.wsClient.connections) := by
    rw [hConnecting, hConnections, ← List.append_assoc]
    refine (List.perm_append_singleton _ _).trans ?_
    exact (perm_cons_filter_ne hAttempts hMem).symm.append_right _
  refine ⟨⟨hPerm.nodup_iff.mpr h.nodup, fun other hOther => ?_⟩, ?_⟩
  · rw [hClients]
    exact h.made other (hPerm.subset hOther)
  · have hTotal : (pending s').total = (pending s).total := by
      simp only [pending, Pending.total, hThreads, hConnecting, hConnections, List.length_append,
        List.length_singleton]
      omega
    exact ⟨Nat.le_of_eq hTotal, fun _ => hTotal⟩

theorem carries_onConnected : Within (Carries lib) (onConnected lib) := by
  refine within_onConnected (fun _ => Carries.of_pending rfl rfl) fun state => ?_
  exact (keepsSocket_sendState state).mono fun _ _ => Carries.of_socket

theorem carries_connectSucceeded (client : Nat) : Within (Carries lib) (connectSucceeded lib client) := by
  intro s
  by_cases hMem : client ∈ s.wsClient.connecting
  · have hOpened : Carries lib s
        { s with
          wsClient :=
            { s.wsClient with
              mConnected := true
              connecting := s.wsClient.connecting.filter (· ≠ client)
              connections := s.wsClient.connections ++ [client] } } :=
      Carries.succeeded hMem rfl rfl rfl rfl
    simp only [connectSucceeded, EStateM.run_bind, EStateM.run_get, hMem, if_true, modifyWs]
    exact IsTrans.trans _ _ _ hOpened (within_recover carries_onConnected _ _)
  · have hSame : finalState ((connectSucceeded lib client).run s) = s := by simp [connectSucceeded, hMem]
    rw [hSame]
    exact Std.Refl.refl s

theorem carries_reconnectThreadWakes : Within (Carries lib) reconnectThreadWakes := by
  intro s h
  by_cases hSleeps : 0 < s.wsClient.reconnectThreads
  · have hTotal : (pending (finalState (reconnectThreadWakes.run s))).total = (pending s).total := by
      simp [reconnectThreadWakes, hSleeps, modifyWs, connectInternal, pending, Pending.total]
      omega
    refine ⟨h.begun ?_ ?_ ?_, Nat.le_of_eq hTotal, fun _ => hTotal⟩
    all_goals simp [reconnectThreadWakes, hSleeps, modifyWs, connectInternal]
  · have hSame : finalState (reconnectThreadWakes.run s) = s := by simp [reconnectThreadWakes, hSleeps]
    rw [hSame]
    exact ⟨h, Nat.le_refl _, fun _ => rfl⟩

end SignalingClient

namespace System

open World SignalingClient

variable {lib : Libraries} {env : Environment}

variable (lib env) in
/-- Every event but `connect` carries on what has been begun. -/
theorem carries_step {w : System} {event : SystemEvent} (hEvent : event.isConnect = false) :
    Carries lib w.signaling (step lib env w event).signaling := by
  have hMoves : SignalingMoves (Carries lib) (handle lib env event) := by
    cases event with
    | connect uri => cases hEvent
    | connectSucceeded client => exact signalingMoves_onSignaling (carries_connectSucceeded client)
    | connectFailed client => exact signalingMoves_onSignaling (carries_connectFailed client)
    | serverClosed client => exact signalingMoves_onSignaling (carries_serverClosed client)
    | reconnectThreadWakes => exact signalingMoves_onSignaling carries_reconnectThreadWakes
    | message message created inside =>
        exact signalingMoves_handleMessage Carries.of_socket carries_closeClient
          (within_modify fun _ => Carries.of_pending rfl rfl) message created inside
    | stop => exact signalingMoves_onSignaling (carries_halt .stop)
    | disconnect => exact signalingMoves_onSignaling (carries_halt .disconnect)
    | destroy => exact signalingMoves_onSignaling (carries_halt .destroy)
    | setMosaicConnector => exact signalingMoves_onSignaling (within_modify fun _ => Carries.of_pending rfl rfl)
    | connector event => exact signalingMoves_connector Carries.of_socket fun _ _ => carries_halt .stop
  exact hMoves w

variable (lib env) in
/-- `connect` begins one attempt more. -/
theorem begins_step {w : System} (h : Distinct w.signaling) (uri : String) :
    Distinct (step lib env w (.connect uri)).signaling ∧
      (pending (step lib env w (.connect uri)).signaling).total = (pending w.signaling).total + 1 := by
  have hTotal : (pending (step lib env w (.connect uri)).signaling).total = (pending w.signaling).total + 1 := by
    simp [step, handle, onSignaling, finalState_zoom, connect, modifyWs, connectInternal, pending, Pending.total]
    omega
  refine ⟨h.begun ?_ ?_ ?_, hTotal⟩
  all_goals simp [step, handle, onSignaling, finalState_zoom, connect, modifyWs, connectInternal]

theorem distinct_initial (wsUri : String) (authenticator : Authenticator) (states : Nat → DataState)
    (iceServers : List IceServerConfig) : Distinct (initial wsUri authenticator states iceServers).signaling :=
  ⟨List.nodup_nil, fun _ hMem => nomatch hMem⟩

variable (lib env) in
/-- Only `connect` adds to the total. -/
theorem total_step {w : System} (h : Distinct w.signaling) (event : SystemEvent) :
    let next := (step lib env w event).signaling
    let grown := (pending w.signaling).total + if event.isConnect then 1 else 0
    Distinct next ∧ (pending next).total ≤ grown ∧ (lib.Notifies → (pending next).total = grown) := by
  intro next grown
  cases hConnect : event.isConnect with
  | false =>
      have hGrown : grown = (pending w.signaling).total := by simp [grown, hConnect]
      rw [hGrown]
      exact carries_step lib env hConnect h
  | true =>
      have hGrown : grown = (pending w.signaling).total + 1 := by simp [grown, hConnect]
      obtain ⟨uri, rfl⟩ : ∃ uri, event = .connect uri := by
        cases event with
        | connect uri => exact ⟨uri, rfl⟩
        | _ => cases hConnect
      obtain ⟨hNext, hTotal⟩ := begins_step lib env h uri
      rw [hGrown]
      exact ⟨hNext, Nat.le_of_eq hTotal, fun _ => hTotal⟩

variable (lib env) in
/-- **A connection is never rebuilt twice.**  In every run, the attempts under way, the connections and the sleeping
reconnect threads are together no more than the calls of `connect`. -/
theorem total_le_connects (wsUri : String) (authenticator : Authenticator) (states : Nat → DataState)
    (iceServers : List IceServerConfig) (events : List SystemEvent) :
    (pending (run (step lib env) (initial wsUri authenticator states iceServers) events).signaling).total ≤
      events.countP SystemEvent.isConnect := by
  have hCount := le_countP (I := fun w : System => Distinct w.signaling) (fun w => (pending w.signaling).total)
    (fun w event h => ⟨(total_step lib env h event).1, (total_step lib env h event).2.1⟩)
    (distinct_initial wsUri authenticator states iceServers) events
  exact Nat.le_trans hCount (Nat.le_of_eq (Nat.zero_add _))

/-- **The client reconnects for ever.**  Where the library calls the close handler for every connection that ends
and every attempt that fails, in every run, whatever was stopped, each call of `connect` still has an attempt, a
connection or a sleeping reconnect thread.  A destruction does not end them either; a thread that wakes after it uses
an object that has been freed, and what it does then is not the subject here. -/
theorem total_eq_connects (hNotifies : lib.Notifies) (wsUri : String) (authenticator : Authenticator)
    (states : Nat → DataState) (iceServers : List IceServerConfig) (events : List SystemEvent) :
    (pending (run (step lib env) (initial wsUri authenticator states iceServers) events).signaling).total =
      events.countP SystemEvent.isConnect := by
  have hCount := eq_countP (I := fun w : System => Distinct w.signaling) (fun w => (pending w.signaling).total)
    (fun w event h => ⟨(total_step lib env h event).1, (total_step lib env h event).2.2 hNotifies⟩)
    (distinct_initial wsUri authenticator states iceServers) events
  exact hCount.trans (Nat.zero_add _)

/-- A library that calls the close handler for every end. -/
def notifying : Libraries :=
  { Libraries.silent with closeNotifies := true, failNotifies := true }

/-- The first attempt fails, the second connection is stopped, and the client connects once more. -/
theorem total_eq_connects_stopped :
    (pending (run (step notifying .calm) (initial "ws://server" {} (fun _ => .kConnecting) [])
      [.connect "ws://server", .connectFailed 0, .reconnectThreadWakes, .connectSucceeded 1, .stop,
        .reconnectThreadWakes, .connectSucceeded 2]).signaling).total = 1 :=
  total_eq_connects ⟨rfl, rfl⟩ "ws://server" {} (fun _ => .kConnecting) [] _

end System

end MosaicCore
