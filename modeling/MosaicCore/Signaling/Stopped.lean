import MosaicCore.Signaling.SignalingRun

/-!
# What can still run after a stop

`Stop`, `disconnect` and the destructors close the connection and put the flags down.  Nothing ends a reconnect
thread that `handleClose` has detached, or an attempt to connect that is under way; and each of them does
nothing at all when the flag it looks at is down already.

`Pending` is what can open a connection later: the sleeping reconnect threads, the attempts, and the
connections themselves, whose close starts a reconnect thread.  `stopped_iff` says that a stop is final exactly
when it leaves nothing of the three.
-/

namespace MosaicCore

open EffectProgram EventRun

/-- What can open a connection without `connect`. -/
structure Pending where
  reconnectThreads : Nat
  connecting : List Nat
  connections : List Nat
  deriving DecidableEq

/-- Nothing can. -/
def Pending.none : Pending := ⟨0, [], []⟩

/-- The connection of a client is closed on its request. -/
def Pending.closed (lib : Libraries) (client : Nat) (p : Pending) : Pending :=
  if client ∈ p.connections then
    { p with
      reconnectThreads := p.reconnectThreads + if lib.closeNotifies then 1 else 0
      connections := p.connections.filter (· ≠ client) }
  else p

/-- The ways to stop. -/
inductive Halt
  | stop
  | disconnect
  | destroy
  deriving DecidableEq

/-- What a way to stop runs. -/
def Halt.program (lib : Libraries) : Halt → Program SignalingClient Unit
  | .stop => SignalingClient.stop lib
  | .disconnect => SignalingClient.disconnect lib
  | .destroy => SignalingClient.destroy lib

/-- A way to stop moves the client along a preorder if its primitive steps do. -/
theorem within_halt {lib : Libraries} {R : SignalingClient → SignalingClient → Prop}
    [IsPreorder SignalingClient R]
    (hDown : Within R (SignalingClient.modifyWs fun ws => { ws with mConnected := false }))
    (hClose : Within R (SignalingClient.closeClient lib))
    (hClear : Within R SignalingClient.onDisconnected) (halt : Halt) : Within R (halt.program lib) := by
  cases halt with
  | stop => exact SignalingClient.within_stop hDown hClose hClear
  | disconnect => exact SignalingClient.within_disconnect hDown hClose hClear
  | destroy => exact SignalingClient.within_destroy hDown hClose hClear

/-- The flags it looks at are up, and it closes the current client. -/
def Halt.closes (halt : Halt) (s : SignalingClient) : Bool :=
  match halt with
  | .stop => s.isConnected && s.wsClient.mConnected
  | .disconnect => s.wsClient.mConnected
  | .destroy => s.wsClient.mConnected

namespace SignalingClient

variable {lib : Libraries}

/-- What can open a connection. -/
def pending (s : SignalingClient) : Pending :=
  ⟨s.wsClient.reconnectThreads, s.wsClient.connecting, s.wsClient.connections⟩

/-- A stop leaves nothing behind: no thread sleeps, no attempt is under way, and there is no connection but the
one that is closed now, silently. -/
structure NothingLeft (lib : Libraries) (halt : Halt) (s : SignalingClient) : Prop where
  threads : s.wsClient.reconnectThreads = 0
  connecting : s.wsClient.connecting = []
  connections : ∀ client ∈ s.wsClient.connections,
    halt.closes s = true ∧ s.wsClient.mClient = some client ∧ lib.closeNotifies = false

/-! ## A stop that returns -/

/-- Closing the current client. -/
theorem closeClient_returns {s s' : SignalingClient} {u : Unit}
    (hRun : (closeClient lib).run s = .ok u s') :
    ∃ client, s.wsClient.mClient = some client ∧ pending s' = (pending s).closed lib client ∧
      (s.wsClient.mConnected = false → s'.wsClient.mConnected = false) := by
  cases hClient : s.wsClient.mClient with
  | none =>
      rw [closeClient_none hClient] at hRun
      cases hRun
  | some client =>
      refine ⟨client, rfl, ?_⟩
      rw [closeClient_some hClient] at hRun
      by_cases hFails : lib.fails s.wsClient.calls.length = true
      · rw [if_pos hFails] at hRun
        cases hRun
      rw [if_neg hFails] at hRun
      cases hRun
      -- The reconnect thread is started by the close callback, if the connection was still open.
      by_cases hOpen : client ∈ s.wsClient.connections
      · cases hNotifies : lib.closeNotifies with
        | false =>
            simp [closedOn, hOpen, hNotifies, dropConnection, modifyWs, called, pending, Pending.closed]
        | true =>
            simp [closedOn, hOpen, hNotifies, dropConnection, modifyWs, handleClose, onDisconnected, called,
              pending, Pending.closed]
      · simp [closedOn, hOpen, called, pending, Pending.closed]

theorem disconnect_idle {s : SignalingClient} (hIdle : s.wsClient.mConnected = false) :
    (disconnect lib).run s = .ok () s := by
  simp [disconnect, hIdle]

theorem disconnect_returns {s s' : SignalingClient} {u : Unit} (hUp : s.wsClient.mConnected = true)
    (hRun : (disconnect lib).run s = .ok u s') :
    ∃ client, s.wsClient.mClient = some client ∧ pending s' = (pending s).closed lib client ∧
      s'.wsClient.mConnected = false := by
  have hBody : (disconnect lib).run s = (modifyWs (fun ws => { ws with mConnected := false }) >>= fun _ =>
      closeClient lib >>= fun _ => onDisconnected).run s := by
    simp [disconnect, hUp]
  rw [hBody] at hRun
  obtain ⟨_, s₁, hDown, hRest⟩ := run_bind_eq_ok.mp hRun
  obtain ⟨_, s₂, hClose, hLast⟩ := run_bind_eq_ok.mp hRest
  cases hDown
  cases hLast
  obtain ⟨client, hClient, hPending, hStays⟩ := closeClient_returns hClose
  exact ⟨client, hClient, hPending, hStays rfl⟩

theorem disconnect_cases {s s' : SignalingClient} {u : Unit} (hRun : (disconnect lib).run s = .ok u s') :
    s'.wsClient.mConnected = false ∧
      ((s.wsClient.mConnected = false ∧ pending s' = pending s) ∨
        ∃ client, s.wsClient.mConnected = true ∧ s.wsClient.mClient = some client ∧
          pending s' = (pending s).closed lib client) := by
  cases hUp : s.wsClient.mConnected with
  | false =>
      rw [disconnect_idle hUp] at hRun
      cases hRun
      exact ⟨hUp, .inl ⟨rfl, rfl⟩⟩
  | true =>
      obtain ⟨client, hClient, hPending, hDown⟩ := disconnect_returns hUp hRun
      exact ⟨hDown, .inr ⟨client, rfl, hClient, hPending⟩⟩

/-- `Stop` runs `disconnect` if `is_connected_` is set. -/
theorem stop_cases {s s' : SignalingClient} {u : Unit} (hRun : (stop lib).run s = .ok u s') :
    (s.isConnected = false ∧ s' = s) ∨
      ∃ s₁, s.isConnected = true ∧ (disconnect lib).run s = .ok () s₁ ∧
        s' = { s₁ with isConnected := false } := by
  cases hConnected : s.isConnected with
  | false =>
      have hIdle : (stop lib).run s = .ok () s := by simp [stop, hConnected]
      rw [hIdle] at hRun
      cases hRun
      exact .inl ⟨rfl, rfl⟩
  | true =>
      have hBody : (stop lib).run s = (disconnect lib >>= fun _ =>
          modify fun s => { s with isConnected := false }).run s := by
        simp [stop, hConnected]
      rw [hBody] at hRun
      obtain ⟨_, s₁, hFirst, hLast⟩ := run_bind_eq_ok.mp hRun
      cases hLast
      exact .inr ⟨s₁, rfl, hFirst, rfl⟩

/-- What a stop that returns leaves behind. -/
theorem halt_returns {halt : Halt} {s s' : SignalingClient} {u : Unit}
    (hRun : (halt.program lib).run s = .ok u s') :
    (halt.closes s = false ∧ pending s' = pending s) ∨
      ∃ client, halt.closes s = true ∧ s.wsClient.mClient = some client ∧
        pending s' = (pending s).closed lib client := by
  cases halt with
  | disconnect => exact (disconnect_cases hRun).2
  | stop =>
      rcases stop_cases hRun with ⟨hSkipped, rfl⟩ | ⟨s₁, hConnected, hFirst, rfl⟩
      · exact .inl ⟨by simp [Halt.closes, hSkipped], rfl⟩
      · rcases (disconnect_cases hFirst).2 with ⟨hDown, hSame⟩ | ⟨client, hUp, hClient, hPending⟩
        · exact .inl ⟨by simp [Halt.closes, hDown], hSame⟩
        · exact .inr ⟨client, by simp [Halt.closes, hConnected, hUp], hClient, hPending⟩
  | destroy =>
      obtain ⟨_, s₁, hStop, hRest⟩ := run_bind_eq_ok.mp hRun
      have hSecond : ∀ s₁ : SignalingClient, s₁.wsClient.mConnected = false →
          (do if (← get).wsClient.mConnected then disconnect lib else pure () :
            Program SignalingClient Unit).run s₁ = .ok u s' → s' = s₁ := by
        intro s₁ hDown hLast
        simp [hDown] at hLast
        exact hLast.symm
      -- If `Stop` was skipped, the `disconnect` after it does the work.
      rcases stop_cases hStop with ⟨hSkipped, rfl⟩ | ⟨s₂, hConnected, hFirst, rfl⟩
      · cases hUp : s₁.wsClient.mConnected with
        | false =>
            rw [hSecond s₁ hUp hRest]
            exact .inl ⟨hUp, rfl⟩
        | true =>
            have hDisconnect : (disconnect lib).run s₁ = .ok u s' := by simpa [hUp] using hRest
            obtain ⟨client, hClient, hPending, _⟩ := disconnect_returns hUp hDisconnect
            exact .inr ⟨client, hUp, hClient, hPending⟩
      · obtain ⟨hDown, hCases⟩ := disconnect_cases hFirst
        rw [hSecond { s₂ with isConnected := false } hDown hRest]
        exact hCases

/-- Nothing is left exactly if nothing is pending afterwards. -/
theorem nothingLeft_iff {halt : Halt} {s s' : SignalingClient} {u : Unit}
    (hRun : (halt.program lib).run s = .ok u s') :
    NothingLeft lib halt s ↔ pending s' = Pending.none := by
  rcases halt_returns hRun with ⟨hSkipped, hPending⟩ | ⟨client, hCloses, hClient, hPending⟩
  · -- Nothing was closed, so nothing may have been pending.
    rw [hPending]
    constructor
    · intro h
      have hNone : s.wsClient.connections = [] := by
        refine List.eq_nil_iff_forall_not_mem.mpr fun client hMem => ?_
        rw [(h.connections client hMem).1] at hSkipped
        cases hSkipped
      simp [pending, Pending.none, h.threads, h.connecting, hNone]
    · intro hNone
      simp only [pending, Pending.none, Pending.mk.injEq] at hNone
      exact ⟨hNone.1, hNone.2.1, fun client hMem => by simp [hNone.2.2] at hMem⟩
  · rw [hPending]
    by_cases hOpen : client ∈ s.wsClient.connections
    · simp only [pending, Pending.closed, hOpen, if_true, Pending.none, Pending.mk.injEq,
        List.filter_eq_nil_iff, decide_eq_true_eq, not_not]
      constructor
      · intro h
        have hSilent : lib.closeNotifies = false := (h.connections client hOpen).2.2
        refine ⟨by simp [h.threads, hSilent], h.connecting, fun other hMem => ?_⟩
        exact (Option.some.inj ((h.connections other hMem).2.1.symm.trans hClient))
      · rintro ⟨hThreads, hConnecting, hOnly⟩
        have hSilent : lib.closeNotifies = false := by
          by_contra hNotifies
          simp [hNotifies] at hThreads
        refine ⟨by omega, hConnecting, fun other hMem => ⟨hCloses, ?_, hSilent⟩⟩
        rw [hClient, hOnly other hMem]
    · simp only [pending, Pending.closed, hOpen, if_false, Pending.none, Pending.mk.injEq]
      constructor
      · intro h
        refine ⟨h.threads, h.connecting, List.eq_nil_iff_forall_not_mem.mpr fun other hMem => ?_⟩
        have hSame := Option.some.inj ((h.connections other hMem).2.1.symm.trans hClient)
        exact hOpen (hSame ▸ hMem)
      · rintro ⟨hThreads, hConnecting, hNone⟩
        exact ⟨hThreads, hConnecting, fun other hMem => by simp [hNone] at hMem⟩

/-! ## Nothing pending -/

/-- With nothing pending, nothing becomes pending, no client is made, and `m_connected` does not come up. -/
def StaysDormant (s s' : SignalingClient) : Prop :=
  pending s = Pending.none → pending s' = Pending.none ∧ s'.wsClient.clients = s.wsClient.clients ∧
    (s'.wsClient.mConnected = true → s.wsClient.mConnected = true)

instance : IsPreorder SignalingClient StaysDormant where
  refl _ hNone := ⟨hNone, rfl, id⟩
  trans _ _ _ hFirst hSecond hNone := by
    obtain ⟨hNone₁, hClients₁, hUp₁⟩ := hFirst hNone
    obtain ⟨hNone₂, hClients₂, hUp₂⟩ := hSecond hNone₁
    exact ⟨hNone₂, hClients₂.trans hClients₁, hUp₁ ∘ hUp₂⟩

theorem StaysDormant.of_socket {s s' : SignalingClient} (hSame : socket s' = socket s) :
    StaysDormant s s' := by
  have hWs : { s'.wsClient with calls := [] } = { s.wsClient with calls := [] } := congrArg Prod.snd hSame
  obtain ⟨hUp, -, -, hClients, hConnecting, hConnections, hThreads, -⟩ := by
    simpa only [WebSocketClientImpl.mk.injEq] using hWs
  intro hNone
  refine ⟨?_, hClients, fun h => hUp ▸ h⟩
  rw [← hNone, pending, pending, hConnecting, hConnections, hThreads]

theorem KeepsSocket.staysDormant {p : Program SignalingClient Unit} (h : KeepsSocket p) :
    Within StaysDormant p :=
  h.mono fun _ _ => StaysDormant.of_socket

theorem staysDormant_onDisconnected : Within StaysDormant onDisconnected :=
  within_modify fun _ hNone => ⟨hNone, rfl, id⟩

/-- A step for one of the clients does nothing when there is none. -/
theorem staysDormant_ifMember (clients : SignalingClient → List Nat) {client : Nat}
    {p : Program SignalingClient Unit} (hClients : ∀ s, pending s = Pending.none → clients s = []) :
    Within StaysDormant (do if client ∈ clients (← get) then p else pure ()) := by
  intro s hNone
  have hEmpty := hClients s hNone
  simp [hEmpty, hNone]

theorem staysDormant_closeClient : Within StaysDormant (closeClient lib) := by
  apply within_get_bind
  intro _
  apply within_dereference_bind
  intro client
  apply within_bind
  · exact (keepsSocket_wsCall _).staysDormant
  intro _
  -- Whatever the client is, it has no connection left to drop.
  exact staysDormant_ifMember (fun s => s.wsClient.connections)
    fun s hNone => congrArg Pending.connections hNone

theorem staysDormant_halt (halt : Halt) : Within StaysDormant (halt.program lib) :=
  within_halt (within_modify fun _ hNone => ⟨hNone, rfl, fun hUp => by simp at hUp⟩)
    staysDormant_closeClient staysDormant_onDisconnected halt

end SignalingClient

/-! ## Runs after a stop -/

namespace System

open SignalingClient World

variable {lib : Libraries} {env : Environment}

variable (lib env) in
/-- The step runs no `connectInternal`, opens no connection and does not make `m_connected` true. -/
def Stopped (s : System) (event : SystemEvent) : Prop :=
  let ws := s.signaling.wsClient
  let ws' := (step lib env s event).signaling.wsClient
  ws'.clients = ws.clients ∧ ws'.connections.length ≤ ws.connections.length ∧
    (ws'.mConnected = true → ws.mConnected = true)

instance (s : System) (event : SystemEvent) : Decidable (Stopped lib env s event) :=
  inferInstanceAs (Decidable (_ ∧ _ ∧ _))

variable (lib env) in
/-- With nothing pending, every event but `connect` leaves it so. -/
theorem staysDormant_step {s : System} {event : SystemEvent} (hEvent : event.isConnect = false) :
    StaysDormant s.signaling (step lib env s event).signaling := by
  have hMoves : SignalingMoves StaysDormant (handle lib env event) := by
    cases event with
    | connect uri => cases hEvent
    | connectSucceeded client =>
        exact signalingMoves_onSignaling (staysDormant_ifMember (fun s => s.wsClient.connecting)
          fun s hNone => congrArg Pending.connecting hNone)
    | connectFailed client =>
        exact signalingMoves_onSignaling (staysDormant_ifMember (fun s => s.wsClient.connecting)
          fun s hNone => congrArg Pending.connecting hNone)
    | serverClosed client =>
        exact signalingMoves_onSignaling (staysDormant_ifMember (fun s => s.wsClient.connections)
          fun s hNone => congrArg Pending.connections hNone)
    | reconnectThreadWakes =>
        refine signalingMoves_onSignaling fun s hNone => ?_
        have hThreads : s.wsClient.reconnectThreads = 0 := congrArg Pending.reconnectThreads hNone
        simp [reconnectThreadWakes, hThreads, hNone]
    | message message created inside =>
        exact signalingMoves_handleMessage StaysDormant.of_socket staysDormant_closeClient
          staysDormant_onDisconnected message created inside
    | stop => exact signalingMoves_onSignaling (staysDormant_halt .stop)
    | disconnect => exact signalingMoves_onSignaling (staysDormant_halt .disconnect)
    | destroy => exact signalingMoves_onSignaling (staysDormant_halt .destroy)
    | setMosaicConnector =>
        exact signalingMoves_onSignaling (within_modify fun _ hNone => ⟨hNone, rfl, id⟩)
    | connector event =>
        exact signalingMoves_connector StaysDormant.of_socket fun _ _ => staysDormant_halt .stop
  exact hMoves s

/-- A sleeping reconnect thread makes another client. -/
theorem clients_reconnectThreadWakes {s : System} (hSleeps : s.signaling.wsClient.reconnectThreads ≠ 0) :
    (step lib env s .reconnectThreadWakes).signaling.wsClient.clients =
      s.signaling.wsClient.clients + 1 := by
  have hPositive : 0 < s.signaling.wsClient.reconnectThreads := Nat.pos_of_ne_zero hSleeps
  rw [step, handle, signaling_onSignaling]
  simp [reconnectThreadWakes, hPositive, modifyWs, connectInternal]

/-- An attempt under way may open a connection. -/
theorem connections_connectSucceeded {s : System} {client : Nat}
    (hConnecting : client ∈ s.signaling.wsClient.connecting) :
    (step lib env s (.connectSucceeded client)).signaling.wsClient.connections =
      s.signaling.wsClient.connections ++ [client] := by
  have hConnected : Within (fun s s' : SignalingClient =>
      s'.wsClient.connections = s.wsClient.connections) (onConnected lib) :=
    by
    apply within_bind
    · exact within_modify fun _ => rfl
    intro _
    apply within_get_bind
    intro _
    refine within_ite ((keepsSocket_sendState _).mono fun _ _ hSame => ?_) (within_pure _)
    exact congrArg (fun socket => socket.2.connections) hSame
  rw [step, handle, signaling_onSignaling]
  simp only [connectSucceeded, EStateM.run_bind, EStateM.run_get, hConnecting, if_true, modifyWs]
  exact within_recover hConnected _ _

/-- The server's close starts a reconnect thread. -/
theorem reconnectThreads_serverClosed {s : System} {client : Nat}
    (hOpen : client ∈ s.signaling.wsClient.connections) :
    (step lib env s (.serverClosed client)).signaling.wsClient.reconnectThreads =
      s.signaling.wsClient.reconnectThreads + 1 := by
  rw [step, handle, signaling_onSignaling]
  simp [serverClosed, hOpen, dropConnection, modifyWs, handleClose, onDisconnected]

/-- Whatever is pending opens a connection in some run. -/
theorem pending_none_of_stopped {s : System} (h : ∀ later : List SystemEvent,
    (∀ event ∈ later, event.isConnect = false) →
      EachStep (step lib env) (Stopped lib env) s later) : pending s.signaling = Pending.none := by
  have hThreads : s.signaling.wsClient.reconnectThreads = 0 := by
    by_contra hSleeps
    obtain ⟨⟨hClients, _⟩, _⟩ := h [.reconnectThreadWakes] (by simp [SystemEvent.isConnect])
    rw [clients_reconnectThreadWakes hSleeps] at hClients
    omega
  have hConnecting : s.signaling.wsClient.connecting = [] := by
    refine List.eq_nil_iff_forall_not_mem.mpr fun client hMem => ?_
    obtain ⟨⟨_, hLength, _⟩, _⟩ := h [.connectSucceeded client] (by simp [SystemEvent.isConnect])
    rw [connections_connectSucceeded hMem, List.length_append] at hLength
    simp at hLength
  have hConnections : s.signaling.wsClient.connections = [] := by
    refine List.eq_nil_iff_forall_not_mem.mpr fun client hMem => ?_
    obtain ⟨_, ⟨hClients, _⟩, _⟩ := h [.serverClosed client, .reconnectThreadWakes]
      (by simp [SystemEvent.isConnect])
    rw [clients_reconnectThreadWakes (by rw [reconnectThreads_serverClosed hMem]; omega)] at hClients
    omega
  simp [pending, Pending.none, hThreads, hConnecting, hConnections]

/-- **When a stop is final.**  After any run, once `Stop`, `disconnect` or the destructors have returned: no
later step of any run without `connect` runs `connectInternal`, opens a connection or makes `m_connected`
true, exactly when the stop found no reconnect thread asleep, no attempt under way, and no connection but one
that it closes itself without the close handler being called. -/
theorem stopped_iff (wsUri : String) (authenticator : Authenticator) (states : Nat → DataState)
    (iceServers : List IceServerConfig) (before : List SystemEvent) (halt : Halt) (s' : System)
    (hHalt : (onSignaling (halt.program lib)).run
      (run (step lib env) (initial wsUri authenticator states iceServers) before) = .ok () s') :
    (∀ later : List SystemEvent, (∀ event ∈ later, event.isConnect = false) →
        EachStep (step lib env) (Stopped lib env) s' later) ↔
      NothingLeft lib halt
        (run (step lib env) (initial wsUri authenticator states iceServers) before).signaling := by
  have hRun : ∃ u, (halt.program lib).run (run (step lib env)
      (initial wsUri authenticator states iceServers) before).signaling = .ok u s'.signaling := by
    rw [onSignaling, zoom_run] at hHalt
    cases hInner : (halt.program lib).run (run (step lib env)
        (initial wsUri authenticator states iceServers) before).signaling with
    | error e s₁ =>
        rw [hInner] at hHalt
        cases hHalt
    | ok u s₁ =>
        rw [hInner] at hHalt
        cases hHalt
        exact ⟨_, rfl⟩
  obtain ⟨_, hRun⟩ := hRun
  rw [nothingLeft_iff hRun]
  refine ⟨pending_none_of_stopped, fun hNone later hLater => ?_⟩
  -- With nothing pending, no event but `connect` makes anything pending.
  refine eachStep_of_invariant (I := fun s : System => pending s.signaling = Pending.none)
    (A := fun event => event.isConnect = false) (fun s event hEvent hs => ?_) hNone hLater
  obtain ⟨hNext, hClients, hUp⟩ := staysDormant_step lib env hEvent hs
  have hConnections : (step lib env s event).signaling.wsClient.connections = [] :=
    congrArg Pending.connections hNext
  exact ⟨⟨hClients, by simp [hConnections], hUp⟩, hNext⟩

/-- A new signaling client on a server. -/
def fresh : System := initial "ws://server" {} (fun _ => .kConnecting) []

/-- A stop of a live connection that closes silently. -/
theorem stopped_iff_live :
    let s := run (step .silent .calm) fresh [.connect "ws://server", .connectSucceeded 0]
    (∀ later : List SystemEvent, (∀ event ∈ later, event.isConnect = false) →
        EachStep (step .silent .calm) (Stopped .silent .calm) (step .silent .calm s .stop) later) ↔
      NothingLeft .silent .stop s.signaling :=
  @stopped_iff .silent .calm "ws://server" {} (fun _ => .kConnecting) []
    [.connect "ws://server", .connectSucceeded 0] .stop _ rfl

/-- The server closes; `Stop` returns; five seconds later the client connects again. -/
theorem reconnect_outlives_stop :
    let s := run (step .silent .calm) fresh
      [.connect "ws://server", .connectSucceeded 0, .serverClosed 0]
    let s' := step .silent .calm s .stop
    ((onSignaling (Halt.stop.program .silent)).run s = .ok () s') ∧
      ¬ EachStep (step .silent .calm) (Stopped .silent .calm) s'
        [.reconnectThreadWakes, .connectSucceeded 1] ∧
      (run (step .silent .calm) s' [.reconnectThreadWakes,
        .connectSucceeded 1]).signaling.wsClient.mConnected = true :=
  ⟨rfl, by decide, by decide⟩

end System

end MosaicCore
