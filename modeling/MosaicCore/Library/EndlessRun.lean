import Mathlib.Data.Nat.Find
import MosaicCore.Library.EventRun

/-!
# Endless runs

A system that is fed an event at every time `t : Nat`.  What must happen in such a run goes in stages: a stage is a
condition on the state that only an event of a certain kind ends, and if one is sure to come, the stage lasts up to
the first of them (`stage_lasts`) and gives way to the next stage there (`stage_ends`).
-/

namespace EventRun

variable {σ ε : Type} {step : σ → ε → σ}

variable (step) in
/-- The state in which an endless run handles the event of time `t`. -/
def stateAt (s : σ) (events : Nat → ε) : Nat → σ
  | 0 => s
  | t + 1 => step (stateAt s events t) (events t)

@[simp] theorem stateAt_zero (s : σ) (events : Nat → ε) : stateAt step s events 0 = s := rfl

variable {A E : ε → Prop} {I J : σ → Prop} {s : σ} {events : Nat → ε} {start : Nat}

/-- A stage lasts up to the first event that may end it. -/
theorem stage_lasts (hKept : ∀ s e, A e → ¬ E e → I s → I (step s e)) (hAllowed : ∀ t, A (events t))
    (hs : I (stateAt step s events start)) (hEnds : ∃ t, start ≤ t ∧ E (events t)) :
    ∃ t, start ≤ t ∧ E (events t) ∧ I (stateAt step s events t) := by
  classical
  have hFirst := Nat.find_spec hEnds
  refine ⟨Nat.find hEnds, hFirst.1, hFirst.2, ?_⟩
  -- Up to that time, by induction on the time.
  have hBefore : ∀ passed, start + passed ≤ Nat.find hEnds → I (stateAt step s events (start + passed)) := by
    intro passed
    induction passed with
    | zero => exact fun _ => hs
    | succ passed ih =>
        intro hLe
        have hNot : ¬ E (events (start + passed)) := fun hEnd =>
          Nat.find_min hEnds hLe ⟨Nat.le_add_right _ _, hEnd⟩
        exact hKept _ _ (hAllowed _) hNot (ih (Nat.le_of_succ_le hLe))
  obtain ⟨passed, hPassed⟩ := Nat.exists_eq_add_of_le hFirst.1
  rw [hPassed]
  exact hBefore passed (Nat.le_of_eq hPassed.symm)

/-- A stage gives way to the next one. -/
theorem stage_ends (hKept : ∀ s e, A e → ¬ E e → I s → I (step s e))
    (hNext : ∀ s e, A e → E e → I s → J (step s e)) (hAllowed : ∀ t, A (events t))
    (hs : I (stateAt step s events start)) (hEnds : ∃ t, start ≤ t ∧ E (events t)) :
    ∃ t, start ≤ t ∧ J (stateAt step s events t) := by
  obtain ⟨t, hLe, hEnd, hStage⟩ := stage_lasts hKept hAllowed hs hEnds
  exact ⟨t + 1, Nat.le_succ_of_le hLe, hNext _ _ (hAllowed t) hEnd hStage⟩

end EventRun
