import MosaicCore.Library.EffectProgram

/-!
# The states between statements

A routine is a function from the state before it to the state after it; what it passes through in between is not
there to be spoken about.  A traced routine runs over `Traced σ` instead, which keeps every state that a
`Traced.statement` has left, oldest first.

* `Erases`: without the kept states a traced routine is the plain one, with a rule for each way to build a routine.
* `Goes`: the kept states are only added to, and the last one is the current one.
* `Passes`: the triple of traced routines, with a condition on every state passed through.
-/

namespace EffectProgram

variable {ε σ τ α β : Type}

/-- A state, and the states passed through on the way to it. -/
structure Traced (σ : Type) where
  current : σ
  passed : List σ := []

/-- One statement. -/
def Traced.statement (p : EStateM ε σ α) : EStateM ε (Traced σ) α :=
  zoom (fun t => t.current) (fun s t => ⟨s, t.passed ++ [s]⟩) p

/-- Read the state. -/
def Traced.look : EStateM ε (Traced σ) σ := do
  pure (← get).current

/-- The states a traced routine passes through. -/
def visited (q : EStateM ε (Traced σ) α) (s : σ) : List σ :=
  (finalState (q.run ⟨s, []⟩)).passed

theorem statement_run (p : EStateM ε σ α) (t : Traced σ) :
    (Traced.statement p).run t =
      match p.run t.current with
      | .ok a s => .ok a ⟨s, t.passed ++ [s]⟩
      | .error e s => .error e ⟨s, t.passed ++ [s]⟩ := rfl

theorem look_run (t : Traced σ) : (Traced.look : EStateM ε (Traced σ) σ).run t = .ok t.current t := rfl

theorem look_bind_run (k : σ → EStateM ε (Traced σ) β) (t : Traced σ) :
    (Traced.look >>= k).run t = (k t.current).run t := rfl

theorem statement_bind_run (p : EStateM ε σ α) (k : α → EStateM ε (Traced σ) β) (t : Traced σ) :
    (Traced.statement p >>= k).run t =
      match p.run t.current with
      | .ok a s => (k a).run ⟨s, t.passed ++ [s]⟩
      | .error e s => .error e ⟨s, t.passed ++ [s]⟩ := by
  rw [EStateM.run_bind, statement_run]
  cases p.run t.current with
  | ok a s => rfl
  | error e s => rfl

/-! ## Forgetting the kept states -/

/-- A result with its state seen through a view. -/
def mapState (view : σ → τ) : EStateM.Result ε σ α → EStateM.Result ε τ α
  | .ok a s => .ok a (view s)
  | .error e s => .error e (view s)

@[simp] theorem mapState_ok (view : σ → τ) (a : α) (s : σ) :
    mapState view (.ok a s : EStateM.Result ε σ α) = .ok a (view s) := rfl

@[simp] theorem mapState_error (view : σ → τ) (e : ε) (s : σ) :
    mapState view (.error e s : EStateM.Result ε σ α) = .error e (view s) := rfl

/-- The traced routine `q` does to what a view shows what `p` does. -/
def Erases (view : σ → τ) (q : EStateM ε (Traced σ) α) (p : EStateM ε τ α) : Prop :=
  ∀ t, mapState (fun t => view t.current) (q.run t) = p.run (view t.current)

section Erases

variable {view : σ → τ}

theorem erases_pure (a : α) : Erases view (pure a : EStateM ε (Traced σ) α) (pure a) :=
  fun _ => rfl

theorem erases_bind {q : EStateM ε (Traced σ) α} {p : EStateM ε τ α} {k : α → EStateM ε (Traced σ) β}
    {k' : α → EStateM ε τ β} (h : Erases view q p) (hk : ∀ a, Erases view (k a) (k' a)) :
    Erases view (q >>= k) (p >>= k') := by
  intro t
  have hFirst := h t
  rw [EStateM.run_bind, EStateM.run_bind, ← hFirst]
  cases q.run t with
  | ok a t' => exact hk a t'
  | error e t' => rfl

theorem erases_look {k : σ → EStateM ε (Traced σ) β} {k' : τ → EStateM ε τ β}
    (hk : ∀ s, Erases view (k s) (k' (view s))) :
    Erases view (Traced.look >>= k) (get >>= k') :=
  fun t => hk t.current t

theorem erases_ite {c : Prop} [Decidable c] {q q' : EStateM ε (Traced σ) α} {p p' : EStateM ε τ α}
    (h : Erases view q p) (h' : Erases view q' p') :
    Erases view (if c then q else q') (if c then p else p') := by
  split
  · exact h
  · exact h'

theorem erases_statement {q : EStateM ε σ α} {p : EStateM ε τ α}
    (h : ∀ s, mapState view (q.run s) = p.run (view s)) : Erases view (Traced.statement q) p := by
  intro t
  rw [← h t.current, statement_run]
  cases q.run t.current with
  | ok a s => rfl
  | error e s => rfl

/-- What a traced routine ends in. -/
theorem Erases.finalState {q : EStateM ε (Traced σ) α} {p : EStateM ε τ α} (h : Erases view q p) (t : Traced σ) :
    view (EffectProgram.finalState (q.run t)).current = EffectProgram.finalState (p.run (view t.current)) := by
  rw [← h t]
  cases q.run t with
  | ok a t' => rfl
  | error e t' => rfl

theorem erases_recover {q : EStateM ε (Traced σ) PUnit} {p : EStateM ε τ PUnit} (h : Erases view q p)
    (caught : ε → Bool) : Erases view (recover caught q) (recover caught p) := by
  intro t
  have hBody := h t
  rw [recover_run, recover_run, ← hBody]
  cases q.run t with
  | ok a t' => rfl
  | error e t' =>
      show mapState _ (if caught e then _ else _) = if caught e then _ else _
      split
      · rfl
      · rfl

end Erases

/-! ## The kept states grow -/

/-- Nothing kept is lost, and where something was done the current state is kept. -/
def Goes (t t' : Traced σ) : Prop :=
  t.passed <+: t'.passed ∧ (t' = t ∨ t'.current ∈ t'.passed)

instance isPreorder_goes : IsPreorder (Traced σ) Goes where
  refl t := ⟨List.prefix_rfl, .inl rfl⟩
  trans t t' t'' h h' := by
    refine ⟨h.1.trans h'.1, ?_⟩
    rcases h'.2 with rfl | hMem
    · exact h.2
    · exact .inr hMem

theorem goes_statement (p : EStateM ε σ α) : Within Goes (Traced.statement p) := by
  intro t
  rw [Traced.statement, finalState_zoom]
  exact ⟨List.prefix_append _ _, .inr (List.mem_append_right _ List.mem_cons_self)⟩

theorem goes_look_bind {k : σ → EStateM ε (Traced σ) β} (hk : ∀ s, Within Goes (k s)) :
    Within Goes (Traced.look >>= k) :=
  within_bind (within_bind within_get fun _ => within_pure _) hk

/-- What the first routine passes through is passed through. -/
theorem mem_visited_bind {q : EStateM ε (Traced σ) α} {k : α → EStateM ε (Traced σ) β}
    (hk : ∀ a, Within Goes (k a)) {s s' : σ} (hMem : s' ∈ visited q s) : s' ∈ visited (q >>= k) s := by
  unfold visited at hMem ⊢
  rw [finalState_bind]
  cases hRun : q.run ⟨s, []⟩ with
  | ok a t =>
      rw [hRun] at hMem
      exact (hk a t).1.subset hMem
  | error e t =>
      rw [hRun] at hMem
      exact hMem

/-- Where a routine ends has been passed through, unless nothing was done. -/
theorem last_mem_visited {q : EStateM ε (Traced σ) α} (h : Within Goes q) (s : σ) :
    (finalState (q.run ⟨s, []⟩)).current = s ∨ (finalState (q.run ⟨s, []⟩)).current ∈ visited q s := by
  rcases (h ⟨s, []⟩).2 with hSame | hMem
  · exact .inl (by rw [hSame])
  · exact .inr hMem

/-! ## Conditions on the states passed through -/

/-- From `s`, every state passed through meets `P`; a return meets `Q`, an exception `E`. -/
def Passes (P : σ → Prop) (q : EStateM ε (Traced σ) α) (s : σ) (Q : α → σ → Prop) (E : ε → σ → Prop) : Prop :=
  ∀ passed, (∀ s' ∈ passed, P s') →
    match q.run ⟨s, passed⟩ with
    | .ok a t => (∀ s' ∈ t.passed, P s') ∧ Q a t.current
    | .error e t => (∀ s' ∈ t.passed, P s') ∧ E e t.current

section Passes

variable {P : σ → Prop} {s : σ} {Q : α → σ → Prop} {E : ε → σ → Prop}

theorem passes_pure {a : α} (h : Q a s) : Passes P (pure a : EStateM ε (Traced σ) α) s Q E :=
  fun _ hPassed => ⟨hPassed, h⟩

theorem passes_bind {q : EStateM ε (Traced σ) α} {k : α → EStateM ε (Traced σ) β} {Q : β → σ → Prop}
    (h : Passes P q s (fun a s' => Passes P (k a) s' Q E) E) : Passes P (q >>= k) s Q E := by
  intro passed hPassed
  have hFirst := h passed hPassed
  rw [EStateM.run_bind]
  cases hRun : q.run ⟨s, passed⟩ with
  | ok a t =>
      rw [hRun] at hFirst
      exact hFirst.2 t.passed hFirst.1
  | error e t =>
      rw [hRun] at hFirst
      exact hFirst

theorem passes_look {k : σ → EStateM ε (Traced σ) β} {Q : β → σ → Prop} (h : Passes P (k s) s Q E) :
    Passes P (Traced.look >>= k) s Q E :=
  h

theorem passes_statement {p : EStateM ε σ α}
    (h : match p.run s with
      | .ok a s' => P s' ∧ Q a s'
      | .error e s' => P s' ∧ E e s') : Passes P (Traced.statement p) s Q E := by
  intro passed hPassed
  have hKept {s' : σ} (hLast : P s') : ∀ other ∈ passed ++ [s'], P other := by
    intro other hMem
    rcases List.mem_append.mp hMem with hOld | hNew
    · exact hPassed other hOld
    · rw [List.mem_singleton.mp hNew]
      exact hLast
  rw [statement_run]
  cases hRun : p.run s with
  | ok a s' =>
      rw [hRun] at h
      exact ⟨hKept h.1, h.2⟩
  | error e s' =>
      rw [hRun] at h
      exact ⟨hKept h.1, h.2⟩

theorem passes_recover {q : EStateM ε (Traced σ) PUnit} {Q : PUnit → σ → Prop} {caught : ε → Bool}
    (h : Passes P q s Q fun e s' => if caught e then Q () s' else E e s') :
    Passes P (recover caught q) s Q E := by
  intro passed hPassed
  have hBody := h passed hPassed
  rw [recover_run]
  cases hRun : q.run ⟨s, passed⟩ with
  | ok a t =>
      rw [hRun] at hBody
      exact hBody
  | error e t =>
      rw [hRun] at hBody
      cases hCaught : caught e with
      | false => simpa [hCaught] using hBody
      | true => simpa [hCaught] using hBody

theorem Passes.imp {q : EStateM ε (Traced σ) α} {Q' : α → σ → Prop} {E' : ε → σ → Prop}
    (h : Passes P q s Q E) (hQ : ∀ a s', Q a s' → Q' a s') (hE : ∀ e s', E e s' → E' e s') :
    Passes P q s Q' E' := by
  intro passed hPassed
  have hRun := h passed hPassed
  split at hRun
  · exact ⟨hRun.1, hQ _ _ hRun.2⟩
  · exact ⟨hRun.1, hE _ _ hRun.2⟩

theorem Passes.visited {q : EStateM ε (Traced σ) α} (h : Passes P q s Q E) :
    ∀ s' ∈ visited q s, P s' := by
  have hRun := h [] (by simp)
  unfold EffectProgram.visited
  split at hRun
  · rename_i a t hOk
    rw [hOk]
    exact hRun.1
  · rename_i e t hError
    rw [hError]
    exact hRun.1

/-- A condition on returns and exceptions alike holds at the end. -/
theorem Passes.last {q : EStateM ε (Traced σ) α} {I : σ → Prop} (h : Passes P q s (fun _ => I) fun _ => I) :
    I (finalState (q.run ⟨s, []⟩)).current := by
  have hRun := h [] (by simp)
  split at hRun
  · rename_i a t hOk
    rw [hOk]
    exact hRun.2
  · rename_i e t hError
    rw [hError]
    exact hRun.2

end Passes

end EffectProgram
