import Mathlib.Order.Defs.Unbundled

/-!
# Runs of a system driven by events

A system is a step function `step : σ → ε → σ`; a run feeds it a list of events.  Safety claims about
such a system have one of two shapes, and each gets a predicate that recurses along the run:

* `Throughout step P s es` — `P` holds in every state between two steps, the first and last included;
* `EachStep step G s es` — every step of the run, seen as a state and the event handled in it, meets `G`.

A claim about what was done last is about `lastStep`, the last step of a kind; one about everything that was done
is about `outputs`.

The rules below package the inductions: an inductive invariant holds throughout, and where keeping the
invariant is *equivalent* to a condition on the step, the invariant holds throughout a run exactly when
every step of the run meets the condition.
-/

namespace EventRun

variable {σ τ ε δ : Type} (step : σ → ε → σ)

/-- The state after handling the events in order. -/
def run (s : σ) : List ε → σ
  | [] => s
  | e :: es => run (step s e) es

@[simp] theorem run_nil (s : σ) : run step s [] = s := rfl

@[simp] theorem run_cons (s : σ) (e : ε) (es : List ε) :
    run step s (e :: es) = run step (step s e) es := rfl

theorem run_append (s : σ) (es es' : List ε) : run step s (es ++ es') = run step (run step s es) es' := by
  induction es generalizing s with
  | nil => rfl
  | cons e es ih => exact ih (step s e)

/-- `P` holds in every state between two steps of the run. -/
def Throughout (P : σ → Prop) (s : σ) : List ε → Prop
  | [] => P s
  | e :: es => P s ∧ Throughout P (step s e) es

/-- Every step of the run meets `G`. -/
def EachStep (G : σ → ε → Prop) (s : σ) : List ε → Prop
  | [] => True
  | e :: es => G s e ∧ EachStep G (step s e) es

instance decidableThroughout (P : σ → Prop) [DecidablePred P] (s : σ) (es : List ε) :
    Decidable (Throughout step P s es) :=
  match es with
  | [] => inferInstanceAs (Decidable (P s))
  | e :: es =>
      have := decidableThroughout P (step s e) es
      inferInstanceAs (Decidable (P s ∧ Throughout step P (step s e) es))

instance decidableEachStep (G : σ → ε → Prop) [∀ s e, Decidable (G s e)] (s : σ) (es : List ε) :
    Decidable (EachStep step G s es) :=
  match es with
  | [] => inferInstanceAs (Decidable True)
  | e :: es =>
      have := decidableEachStep G (step s e) es
      inferInstanceAs (Decidable (G s e ∧ EachStep step G (step s e) es))

variable {step}

/-- `Throughout` speaks about the states the prefixes of the run reach. -/
theorem throughout_iff_forall_before {P : σ → Prop} {s : σ} {es : List ε} :
    Throughout step P s es ↔ ∀ before after, es = before ++ after → P (run step s before) := by
  induction es generalizing s with
  | nil =>
      constructor
      · intro h before after hSplit
        obtain ⟨rfl, rfl⟩ := List.append_eq_nil_iff.mp hSplit.symm
        exact h
      · intro h
        exact h [] [] rfl
  | cons e es ih =>
      constructor
      · rintro ⟨hHead, hTail⟩ before after hSplit
        cases before with
        | nil => exact hHead
        | cons b before =>
            obtain ⟨rfl, hRest⟩ := List.cons.inj hSplit
            exact ih.mp hTail before after hRest
      · intro h
        refine ⟨h [] (e :: es) rfl, ih.mpr fun before after hSplit => ?_⟩
        exact h (e :: before) after (by rw [hSplit]; rfl)

theorem Throughout.first {P : σ → Prop} {s : σ} {es : List ε} (h : Throughout step P s es) : P s := by
  cases es with
  | nil => exact h
  | cons e es => exact h.1

theorem Throughout.last {P : σ → Prop} {s : σ} {es : List ε} (h : Throughout step P s es) :
    P (run step s es) :=
  throughout_iff_forall_before.mp h es [] (List.append_nil es).symm

theorem Throughout.imp {P Q : σ → Prop} {s : σ} {es : List ε} (h : Throughout step P s es)
    (hPQ : ∀ s, P s → Q s) : Throughout step Q s es := by
  induction es generalizing s with
  | nil => exact hPQ s h
  | cons e es ih => exact ⟨hPQ s h.1, ih h.2⟩

/-- What `P` before and after a step gives about the step, each step of a run that keeps `P` gives. -/
theorem Throughout.eachStep {P : σ → Prop} {G : σ → ε → Prop} (hPG : ∀ s e, P s → P (step s e) → G s e)
    {s : σ} {es : List ε} (h : Throughout step P s es) : EachStep step G s es := by
  induction es generalizing s with
  | nil => trivial
  | cons e es ih => exact ⟨hPG s e h.1 h.2.first, ih h.2⟩

/-- An invariant of the A events holds throughout every run of A events. -/
theorem throughout_of_invariant {I : σ → Prop} {A : ε → Prop}
    (hStep : ∀ s e, A e → I s → I (step s e)) {s : σ} (hs : I s) :
    ∀ {es : List ε}, (∀ e ∈ es, A e) → Throughout step I s es := by
  intro es
  induction es generalizing s with
  | nil => exact fun _ => hs
  | cons e es ih =>
      intro hAllowed
      have hNext : I (step s e) := hStep s e (hAllowed e List.mem_cons_self) hs
      exact ⟨hs, ih hNext fun e' he' => hAllowed e' (List.mem_cons_of_mem _ he')⟩

/-- An invariant of the A events holds at the end of every run of A events. -/
theorem run_invariant {I : σ → Prop} {A : ε → Prop}
    (hStep : ∀ s e, A e → I s → I (step s e)) {s : σ} (hs : I s) {es : List ε}
    (hAllowed : ∀ e ∈ es, A e) : I (run step s es) :=
  (throughout_of_invariant hStep hs hAllowed).last

/-- Steps among the A events that meet `G` meet what `G` gives. -/
theorem EachStep.mono {G H : σ → ε → Prop} {A : ε → Prop} (hGH : ∀ s e, A e → G s e → H s e) {s : σ}
    {es : List ε} (hAllowed : ∀ e ∈ es, A e) (h : EachStep step G s es) : EachStep step H s es := by
  induction es generalizing s with
  | nil => trivial
  | cons e es ih =>
      exact ⟨hGH s e (hAllowed e List.mem_cons_self) h.1,
        ih (fun e' he' => hAllowed e' (List.mem_cons_of_mem _ he')) h.2⟩

theorem EachStep.and {G H : σ → ε → Prop} {s : σ} {es : List ε} (hG : EachStep step G s es)
    (hH : EachStep step H s es) : EachStep step (fun s e => G s e ∧ H s e) s es := by
  induction es generalizing s with
  | nil => trivial
  | cons e es ih => exact ⟨⟨hG.1, hH.1⟩, ih hG.2 hH.2⟩

/-- A condition on what a view shows is a condition on the run that the view shows. -/
theorem eachStep_view {τ : Type} {step' : τ → ε → τ} {view : σ → τ}
    (hStep : ∀ s e, view (step s e) = step' (view s) e) {G : τ → ε → Prop} {s : σ} {es : List ε} :
    EachStep step (fun s e => G (view s) e) s es ↔ EachStep step' G (view s) es := by
  induction es generalizing s with
  | nil => exact Iff.rfl
  | cons e es ih =>
      show _ ∧ _ ↔ _ ∧ _
      rw [ih, hStep]

theorem eachStep_append {G : σ → ε → Prop} {s : σ} {es es' : List ε} :
    EachStep step G s (es ++ es') ↔ EachStep step G s es ∧ EachStep step G (run step s es) es' := by
  induction es generalizing s with
  | nil => exact (and_iff_right trivial).symm
  | cons e es ih =>
      show (G s e ∧ EachStep step G (step s e) (es ++ es')) ↔ _
      rw [ih, ← and_assoc]
      exact Iff.rfl

/-- Two systems that agree on the steps that meet `G` have the same run while every step meets it. -/
theorem EachStep.run_eq {step' : σ → ε → σ} {G : σ → ε → Prop} {A : ε → Prop}
    (hSame : ∀ s e, A e → G s e → step s e = step' s e) {s : σ} {es : List ε} (hAllowed : ∀ e ∈ es, A e)
    (h : EachStep step G s es) : run step s es = run step' s es := by
  induction es generalizing s with
  | nil => rfl
  | cons e es ih =>
      have hHead : step s e = step' s e := hSame s e (hAllowed e List.mem_cons_self) h.1
      rw [run_cons, run_cons, ← hHead]
      exact ih (fun e' he' => hAllowed e' (List.mem_cons_of_mem _ he')) h.2

/-- Where the A events keep an invariant and meet `G` under it, every step of their runs meets `G`. -/
theorem eachStep_of_invariant {I : σ → Prop} {G : σ → ε → Prop} {A : ε → Prop}
    (hStep : ∀ s e, A e → I s → G s e ∧ I (step s e)) {s : σ} (hs : I s) :
    ∀ {es : List ε}, (∀ e ∈ es, A e) → EachStep step G s es := by
  intro es
  induction es generalizing s with
  | nil => exact fun _ => trivial
  | cons e es ih =>
      intro hAllowed
      obtain ⟨hG, hNext⟩ := hStep s e (hAllowed e List.mem_cons_self) hs
      exact ⟨hG, ih hNext fun e' he' => hAllowed e' (List.mem_cons_of_mem _ he')⟩

/-- What the steps that meet `G` keep, a run of them keeps. -/
theorem EachStep.keeps {I : σ → Prop} {G : σ → ε → Prop} (hStep : ∀ s e, I s → G s e → I (step s e)) {s : σ}
    {es : List ε} (h : EachStep step G s es) (hs : I s) : I (run step s es) := by
  induction es generalizing s with
  | nil => exact hs
  | cons e es ih => exact ih h.2 (hStep s e hs h.1)

/-- If a step keeps `I` exactly when it meets `G`, then `I` holds throughout a run exactly when every
step of the run meets `G`. -/
theorem throughout_iff_eachStep {I : σ → Prop} {G : σ → ε → Prop}
    (hStep : ∀ s e, I s → (I (step s e) ↔ G s e)) {s : σ} (hs : I s) {es : List ε} :
    Throughout step I s es ↔ EachStep step G s es := by
  induction es generalizing s with
  | nil => exact iff_of_true hs trivial
  | cons e es ih =>
      constructor
      · rintro ⟨_, hTail⟩
        have hNext : I (step s e) := hTail.first
        exact ⟨(hStep s e hs).mp hNext, (ih hNext).mp hTail⟩
      · rintro ⟨hHead, hTail⟩
        have hNext : I (step s e) := (hStep s e hs).mpr hHead
        exact ⟨hs, (ih hNext).mpr hTail⟩

/-- An invariant of all steps comes for free. -/
theorem throughout_and_invariant {P I : σ → Prop} (hStep : ∀ s e, I s → I (step s e)) {s : σ} (hs : I s)
    {es : List ε} : Throughout step (fun s => P s ∧ I s) s es ↔ Throughout step P s es := by
  induction es generalizing s with
  | nil => exact and_iff_left hs
  | cons e es ih =>
      show (P s ∧ I s) ∧ _ ↔ P s ∧ _
      rw [ih (hStep s e hs), and_iff_left hs]

/-- Under an invariant that steps meeting `G` keep, every step meeting `G` also meets `H`. -/
theorem EachStep.imp {I : σ → Prop} {G H : σ → ε → Prop}
    (hKeep : ∀ s e, I s → G s e → I (step s e)) (hGH : ∀ s e, I s → G s e → H s e) {s : σ}
    (hs : I s) {es : List ε} (h : EachStep step G s es) : EachStep step H s es := by
  induction es generalizing s with
  | nil => trivial
  | cons e es ih => exact ⟨hGH s e hs h.1, ih (hKeep s e hs h.1) h.2⟩

/-- Where, among the A events, meeting `G` and meeting `H` are the same under an invariant that
steps meeting `G` keep, whole runs meet `G` and `H` alike. -/
theorem eachStep_iff {I : σ → Prop} {G H : σ → ε → Prop} {A : ε → Prop}
    (hKeep : ∀ s e, A e → I s → G s e → I (step s e))
    (hGH : ∀ s e, A e → I s → (G s e ↔ H s e)) {s : σ} (hs : I s) :
    ∀ {es : List ε}, (∀ e ∈ es, A e) → (EachStep step G s es ↔ EachStep step H s es) := by
  intro es
  induction es generalizing s with
  | nil => exact fun _ => Iff.rfl
  | cons e es ih =>
      intro hAllowed
      have hHead : A e := hAllowed e List.mem_cons_self
      have hTail : ∀ e' ∈ es, A e' := fun e' he' => hAllowed e' (List.mem_cons_of_mem _ he')
      constructor
      · rintro ⟨hG, hRest⟩
        exact ⟨(hGH s e hHead hs).mp hG, (ih (hKeep s e hHead hs hG) hTail).mp hRest⟩
      · rintro ⟨hH, hRest⟩
        have hG : G s e := (hGH s e hHead hs).mpr hH
        exact ⟨hG, (ih (hKeep s e hHead hs hG) hTail).mpr hRest⟩

/-- Where a step that meets `A` leads into `P` exactly from `P` by meeting `G`, a run whose steps meet `A` ends
in `P` exactly if it starts there and every step of it meets `G`. -/
theorem last_iff_eachStep {I P : σ → Prop} {A G : σ → ε → Prop}
    (hKeep : ∀ s e, I s → I (step s e))
    (hStep : ∀ s e, I s → A s e → (P (step s e) ↔ P s ∧ G s e)) {s : σ} (hs : I s) {es : List ε}
    (hAllowed : EachStep step A s es) : P (run step s es) ↔ P s ∧ EachStep step G s es := by
  induction es generalizing s with
  | nil => exact (and_iff_left trivial).symm
  | cons e es ih =>
      rw [run_cons, ih (hKeep s e hs) hAllowed.2, hStep s e hs hAllowed.1, and_assoc]
      exact Iff.rfl

/-! ## The last step of a kind -/

variable (step) in
/-- The last step of a run that is marked, with the state it was taken in. -/
def lastStep (marks : σ → ε → Bool) (s : σ) : List ε → Option (σ × ε)
  | [] => none
  | e :: es =>
      match lastStep marks (step s e) es with
      | some last => some last
      | none => if marks s e then some (s, e) else none

/-- What a marked step establishes, and steps that are not marked keep, holds since the last marked step. -/
theorem lastStep_rule {I : σ → Prop} {marks : σ → ε → Bool} {K : σ → ε → σ → Prop}
    (hInvariant : ∀ s e, I s → I (step s e))
    (hMarked : ∀ s e, I s → marks s e = true → K s e (step s e))
    (hKeep : ∀ s₀ e₀ s e, I s → marks s e = false → K s₀ e₀ s → K s₀ e₀ (step s e)) {s s₀ : σ} {e₀ : ε}
    (hs : I s) {es : List ε} (hLast : lastStep step marks s es = some (s₀, e₀)) : K s₀ e₀ (run step s es) := by
  -- Without a marked step, what holds at the start holds at the end.
  have hIdle : ∀ {es : List ε} {s : σ}, I s → K s₀ e₀ s → lastStep step marks s es = none →
      K s₀ e₀ (run step s es) := by
    intro es
    induction es with
    | nil => exact fun _ hK _ => hK
    | cons e es ih =>
        intro s hs hK hNone
        rw [lastStep] at hNone
        cases hTail : lastStep step marks (step s e) es with
        | some last => simp [hTail] at hNone
        | none =>
            have hMark : marks s e = false := by simpa [hTail] using hNone
            exact ih (hInvariant s e hs) (hKeep s₀ e₀ s e hs hMark hK) hTail
  induction es generalizing s with
  | nil => simp [lastStep] at hLast
  | cons e es ih =>
      rw [lastStep] at hLast
      have hNext : I (step s e) := hInvariant s e hs
      cases hTail : lastStep step marks (step s e) es with
      | some last =>
          simp only [hTail] at hLast
          exact ih hNext (hTail.trans hLast)
      | none =>
          cases hMark : marks s e with
          | false => simp [hTail, hMark] at hLast
          | true =>
              simp only [hTail, hMark, if_true, Option.some.injEq, Prod.mk.injEq] at hLast
              obtain ⟨rfl, rfl⟩ := hLast
              rw [run_cons]
              exact hIdle hNext (hMarked _ _ hs hMark) hTail

/-! ## What the steps put out -/

variable (step) in
/-- What the steps of a run put out, in order. -/
def outputs (out : σ → ε → List δ) (s : σ) : List ε → List δ
  | [] => []
  | e :: es => out s e ++ outputs out (step s e) es

/-- A log that each step extends by what it puts out holds what the run has put out. -/
theorem log_eq_outputs (log : σ → List δ) {out : σ → ε → List δ}
    (hStep : ∀ s e, log (step s e) = log s ++ out s e) (s : σ) (es : List ε) :
    log (run step s es) = log s ++ outputs step out s es := by
  induction es generalizing s with
  | nil => exact (List.append_nil _).symm
  | cons e es ih => rw [run_cons, ih, hStep, List.append_assoc, outputs]

/-- What a state and the log so far satisfy, and the steps that meet `G` keep, the state after a run of them satisfies
with what the run has put out. -/
theorem outputs_invariant {I : σ → List δ → Prop} {G : σ → ε → Prop} {out : σ → ε → List δ}
    (hStep : ∀ s log e, I s log → G s e → I (step s e) (log ++ out s e)) {s : σ} {es : List ε} {log : List δ}
    (h : EachStep step G s es) (hs : I s log) : I (run step s es) (log ++ outputs step out s es) := by
  induction es generalizing s log with
  | nil =>
      rw [outputs, List.append_nil]
      exact hs
  | cons e es ih =>
      rw [outputs, ← List.append_assoc]
      exact ih h.2 (hStep s log e hs h.1)

/-- What only marked events take up, and by at most one each, is bounded by their number. -/
theorem le_countP {I : σ → Prop} (f : σ → Nat) {marks : ε → Bool}
    (hStep : ∀ s e, I s → I (step s e) ∧ f (step s e) ≤ f s + if marks e then 1 else 0) {s : σ} (hs : I s)
    (es : List ε) : f (run step s es) ≤ f s + es.countP marks := by
  induction es generalizing s with
  | nil => exact Nat.le_refl _
  | cons e es ih =>
      obtain ⟨hNext, hHead⟩ := hStep s e hs
      have hTail := ih hNext
      rw [run_cons, List.countP_cons]
      omega

/-- What every marked event takes up by one, and nothing else changes, is their number. -/
theorem eq_countP {I : σ → Prop} (f : σ → Nat) {marks : ε → Bool}
    (hStep : ∀ s e, I s → I (step s e) ∧ f (step s e) = f s + if marks e then 1 else 0) {s : σ} (hs : I s)
    (es : List ε) : f (run step s es) = f s + es.countP marks := by
  induction es generalizing s with
  | nil => rfl
  | cons e es ih =>
      obtain ⟨hNext, hHead⟩ := hStep s e hs
      rw [run_cons, ih hNext, hHead, List.countP_cons]
      omega

/-- A forward simulation: if every step of the system maps to a step of its abstraction, so does
every run. -/
theorem run_simulation {R : σ → τ → Prop} {astep : τ → δ → τ} {view : ε → δ}
    {A : ε → Prop}
    (hStep : ∀ s t e, A e → R s t → R (step s e) (astep t (view e))) {s : σ} {t : τ}
    (hs : R s t) : ∀ {es : List ε}, (∀ e ∈ es, A e) →
      R (run step s es) (run astep t (es.map view)) := by
  intro es
  induction es generalizing s t with
  | nil => exact fun _ => hs
  | cons e es ih =>
      intro hAllowed
      have hNext : R (step s e) (astep t (view e)) := hStep s t e (hAllowed e List.mem_cons_self) hs
      exact ih hNext fun e' he' => hAllowed e' (List.mem_cons_of_mem _ he')

/-- A run whose every step takes a measure down is no longer than the measure. -/
theorem EachStep.length_le {I : σ → Prop} {G : σ → ε → Prop} {rank : σ → Nat}
    (hStep : ∀ s e, I s → G s e → I (step s e) ∧ rank (step s e) < rank s) {s : σ} (hs : I s) :
    ∀ {es : List ε}, EachStep step G s es → es.length + rank (run step s es) ≤ rank s := by
  intro es
  induction es generalizing s with
  | nil => exact fun _ => Nat.le_of_eq (Nat.zero_add _)
  | cons e es ih =>
      rintro ⟨hHead, hTail⟩
      obtain ⟨hNext, hLess⟩ := hStep s e hs hHead
      have hRest := ih hNext hTail
      rw [List.length_cons, run_cons]
      omega

end EventRun
