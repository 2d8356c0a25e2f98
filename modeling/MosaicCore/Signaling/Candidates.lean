import MosaicCore.Signaling.Answers

/-!
# Candidates from the server

The server sends the candidates of the other side while a session is set up.  `HandleIceCandidateFromSignaling` gives
each to the peer connection that is held, and forgets it if there is none.  So over whole runs, what libwebrtc has been
given is the candidates received while a peer connection was held, each for that peer connection and in the order in
which they were received (`candidates_added_in_order`).
-/

namespace MosaicCore

open EffectProgram EventRun

/-- The candidate a call adds, with its peer connection. -/
def RtcCall.candidateAdded : RtcCall → Option (Nat × CandidateInit)
  | .addIceCandidate peer candidate => some (peer, candidate)
  | _ => none

/-- The call adds a candidate. -/
def RtcCall.isCandidate (call : RtcCall) : Bool := call.candidateAdded.isSome

theorem onlyRequested_isCandidate : OnlyRequested RtcCall.isCandidate := by
  intro call hCandidate
  cases call with
  | addIceCandidate peer candidate => rfl
  | _ => cases hCandidate

namespace World

variable {σ : Type} {sc : ISignalingClient σ} {env : Environment}

/-- The candidates that peer connections have been given, oldest first. -/
def candidatesAdded (w : World σ) : List (Nat × CandidateInit) :=
  (callsOf RtcCall.isCandidate w).filterMap RtcCall.candidateAdded

theorem MakesNone.candidatesAdded {p : Program (World σ) Unit} (hp : MakesNone RtcCall.isCandidate p) (w : World σ) :
    World.candidatesAdded (finalState (p.run w)) = World.candidatesAdded w :=
  congrArg (List.filterMap RtcCall.candidateAdded) (hp w)

/-- The candidates that an event gives to a peer connection. -/
def candidatesFor (w : World σ) : ConnectorEvent → List (Nat × CandidateInit)
  | .iceCandidateMessage candidate => w.manager.peerConnection.toList.map fun peer => (peer, candidate)
  | _ => []

/-- Every other event leaves the candidates alone. -/
theorem candidatesFor_eq_nil {event : ConnectorEvent} (hOther : ¬ event.asksFor RtcCall.isCandidate) (w : World σ) :
    candidatesFor w event = [] := by
  cases event with
  | iceCandidateMessage candidate => exact absurd ⟨0, rfl⟩ hOther
  | _ => rfl

theorem candidatesAdded_handleIceCandidate (w : World σ) (candidate : CandidateInit) :
    candidatesAdded (finalState ((handleIceCandidateFromSignaling candidate).run w)) =
      candidatesAdded w ++ candidatesFor w (.iceCandidateMessage candidate) := by
  cases hHeld : w.manager.peerConnection with
  | none => simp [handleIceCandidateFromSignaling, candidatesFor, hHeld]
  | some peer =>
      have hRun : (handleIceCandidateFromSignaling candidate).run w =
          (rtcCall (.addIceCandidate peer candidate)).run w := by
        simp [handleIceCandidateFromSignaling, hHeld]
      rw [hRun, candidatesAdded, callsOf_rtcCall, List.filterMap_append, candidatesFor, hHeld]
      rfl

theorem candidatesAdded_step (w : World σ) (event : ConnectorEvent) :
    candidatesAdded (step sc env w event) = candidatesAdded w ++ candidatesFor w event := by
  by_cases hOther : event.asksFor RtcCall.isCandidate
  · cases event with
    | iceCandidateMessage candidate => exact candidatesAdded_handleIceCandidate w candidate
    | sdpOffer text created inside =>
        obtain ⟨peer, hCandidate⟩ := hOther
        cases hCandidate
    | _ => exact hOther.elim
  · rw [candidatesFor_eq_nil hOther, List.append_nil]
    exact (makesNone_step onlyRequested_isCandidate hOther).candidatesAdded w

end World

namespace System

open World

variable (lib : Libraries)

/-- The candidates that an event of the system gives to a peer connection. -/
def candidatesReceived (w : System) (event : SystemEvent) : List (Nat × CandidateInit) :=
  (heard lib w event).elim [] (candidatesFor w)

variable (env : Environment) in
theorem candidatesAdded_step (w : System) (event : SystemEvent) :
    candidatesAdded (step lib env w event) = candidatesAdded w ++ candidatesReceived lib w event := by
  have hSide : peerSide (step lib env w event) = _ := peerSide_step lib env w event
  rw [candidatesAdded, callsOf, hSide, candidatesReceived]
  cases heard lib w event with
  | none => exact (List.append_nil _).symm
  | some connected => exact World.candidatesAdded_step w connected

/-- **Candidates are added in the order in which they are received**, each to the peer connection held at the time;
those received while none is held are never added. -/
theorem candidates_added_in_order (env : Environment) (wsUri : String) (authenticator : Authenticator)
    (states : Nat → DataState) (iceServers : List IceServerConfig) (events : List SystemEvent) :
    candidatesAdded (run (step lib env) (initial wsUri authenticator states iceServers) events) =
      outputs (step lib env) (candidatesReceived lib) (initial wsUri authenticator states iceServers) events :=
  log_eq_outputs candidatesAdded (candidatesAdded_step lib env) _ events

end System

end MosaicCore
