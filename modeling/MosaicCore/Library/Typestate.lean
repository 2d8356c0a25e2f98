import Mathlib.Data.List.Basic

/-!
# Protocols of logged calls

A log lists calls on objects, and a protocol says what may be called on an object in which stage of its life.
The stage of an object is the log's doing alone: the calls about it, one after the other, from the first stage
on; there is none if one of them was not allowed.

* `Obeys P log` — every call of the log was allowed when it was made.
* `Staged P I log` — moreover, the stage that each object has reached satisfies `I`; this is the form in which a
  protocol is an invariant of the program that writes the log (`Staged.append`).
* `stage_induction` — what a stage says about the calls that led to it.
-/

namespace Typestate

/-- What may be called on an object, by the stage it is in, and where the call leads. -/
structure Protocol (κ σ γ : Type) where
  about : γ → Option κ
  start : σ
  next : σ → γ → Option σ

namespace Protocol

variable {κ σ γ : Type} (P : Protocol κ σ γ)

/-- Some calls on one object, from a stage on. -/
def follow (stage : σ) : List γ → Option σ
  | [] => some stage
  | call :: calls => (P.next stage call).bind fun stage' => follow stage' calls

variable {P} in
theorem follow_append (stage : σ) (calls more : List γ) :
    P.follow stage (calls ++ more) = (P.follow stage calls).bind fun stage' => P.follow stage' more := by
  induction calls generalizing stage with
  | nil => rfl
  | cons call calls ih =>
      show (P.next stage call).bind (fun stage' => P.follow stage' (calls ++ more)) = _
      rw [funext ih, ← Option.bind_assoc]
      rfl

variable [DecidableEq κ]

/-- The calls about one object. -/
def callsOn (key : κ) (log : List γ) : List γ :=
  log.filter fun call => P.about call = some key

/-- The stage a log leaves an object in. -/
def stage (log : List γ) (key : κ) : Option σ :=
  P.follow P.start (P.callsOn key log)

/-- Every call was allowed. -/
def Obeys (log : List γ) : Prop :=
  ∀ key, (P.stage log key).isSome = true

/-- Every call was allowed, and the stages reached satisfy `I`. -/
def Staged (I : κ → σ → Prop) (log : List γ) : Prop :=
  ∀ key, ∃ stage, P.stage log key = some stage ∧ I key stage

variable {P}

@[simp] theorem callsOn_append (key : κ) (log more : List γ) :
    P.callsOn key (log ++ more) = P.callsOn key log ++ P.callsOn key more :=
  List.filter_append ..

theorem callsOn_singleton (key : κ) (call : γ) :
    P.callsOn key [call] = if P.about call = some key then [call] else [] := by
  by_cases hAbout : P.about call = some key <;> simp [callsOn, hAbout]

theorem mem_callsOn_iff {log : List γ} {call : γ} {key : κ} :
    call ∈ P.callsOn key log ↔ call ∈ log ∧ P.about call = some key := by
  simp [callsOn]

/-- Calls on the object that a pointer may hold. -/
theorem callsOn_toList {calls : κ → List γ} (hAbout : ∀ key, ∀ call ∈ calls key, P.about call = some key)
    (held : Option κ) (key : κ) :
    P.callsOn key (held.toList.flatMap calls) = if held = some key then calls key else [] := by
  cases held with
  | none => rfl
  | some other =>
      rw [Option.toList_some, List.flatMap_singleton]
      by_cases hSame : other = key
      · subst hSame
        rw [if_pos rfl]
        exact List.filter_eq_self.mpr fun call hCall => decide_eq_true (hAbout other call hCall)
      · rw [if_neg fun hHeld => hSame (Option.some.inj hHeld)]
        refine List.eq_nil_iff_forall_not_mem.mpr fun call hCall => hSame ?_
        obtain ⟨hMem, hKey⟩ := mem_callsOn_iff.mp hCall
        exact Option.some.inj ((hAbout other call hMem).symm.trans hKey)

theorem stage_append (log more : List γ) (key : κ) :
    P.stage (log ++ more) key =
      (P.stage log key).bind fun stage => P.follow stage (P.callsOn key more) := by
  rw [stage, callsOn_append, follow_append]
  rfl

@[simp] theorem stage_nil (key : κ) : P.stage [] key = some P.start := rfl

/-- With nothing called, every object is in the first stage. -/
theorem staged_nil {I : κ → σ → Prop} (hStart : ∀ key, I key P.start) : P.Staged I [] :=
  fun key => ⟨P.start, rfl, hStart key⟩

theorem Staged.obeys {I : κ → σ → Prop} {log : List γ} (h : P.Staged I log) : P.Obeys log := by
  intro key
  obtain ⟨stage, hStage, _⟩ := h key
  rw [hStage]
  rfl

/-- Calls that are allowed in every stage `I` permits lead from `I` to `I'`. -/
theorem Staged.append {I I' : κ → σ → Prop} {log more : List γ} (h : P.Staged I log)
    (hMore : ∀ key stage, I key stage →
      ∃ stage', P.follow stage (P.callsOn key more) = some stage' ∧ I' key stage') :
    P.Staged I' (log ++ more) := by
  intro key
  obtain ⟨stage, hStage, hI⟩ := h key
  obtain ⟨stage', hFollow, hI'⟩ := hMore key stage hI
  refine ⟨stage', ?_, hI'⟩
  rw [stage_append, hStage]
  exact hFollow

/-- An allowed call was allowed in the stage that the log before it had reached. -/
theorem Obeys.allowed {before after : List γ} {call : γ} {key : κ} (h : P.Obeys (before ++ call :: after))
    (hAbout : P.about call = some key) :
    ∃ stage stage', P.stage before key = some stage ∧ P.next stage call = some stage' := by
  have hSome := h key
  rw [stage_append] at hSome
  cases hStage : P.stage before key with
  | none => simp [hStage] at hSome
  | some stage =>
      have hHead : P.callsOn key (call :: after) = call :: P.callsOn key after := by
        simp [callsOn, hAbout]
      rw [hStage, Option.bind_some, hHead, follow] at hSome
      cases hNext : P.next stage call with
      | none => simp [hNext] at hSome
      | some stage' => exact ⟨stage, stage', rfl, hNext⟩

/-- What holds of the first stage with no calls, and is passed on by every allowed call, holds of the stage of an
object and the calls about it. -/
theorem stage_induction {F : List γ → σ → Prop} {key : κ} (hStart : F [] P.start)
    (hNext : ∀ calls stage call stage', P.about call = some key → F calls stage →
      P.next stage call = some stage' → F (calls ++ [call]) stage') {log : List γ} {stage : σ}
    (hStage : P.stage log key = some stage) : F (P.callsOn key log) stage := by
  -- The calls are taken one by one from the front, those already taken on the left.
  have hFollow : ∀ (calls done : List γ) (first last : σ), (∀ call ∈ calls, P.about call = some key) →
      F done first → P.follow first calls = some last → F (done ++ calls) last := by
    intro calls
    induction calls with
    | nil =>
        intro done first last _ hDone hLast
        cases hLast
        rwa [List.append_nil]
    | cons call calls ih =>
        intro done first last hAbout hDone hLast
        obtain ⟨middle, hMiddle, hRest⟩ := Option.bind_eq_some_iff.mp hLast
        have hCall := hNext _ _ _ _ (hAbout call List.mem_cons_self) hDone hMiddle
        have hStep := ih (done ++ [call]) middle last
          (fun other hOther => hAbout other (List.mem_cons_of_mem _ hOther)) hCall hRest
        rwa [List.append_assoc] at hStep
  exact hFollow _ [] _ _ (fun call hCall => (mem_callsOn_iff.mp hCall).2) hStart hStage

end Protocol

end Typestate
