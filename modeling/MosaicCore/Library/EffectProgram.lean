import Mathlib.Order.Defs.Unbundled

/-!
# Programs that keep their state when they throw

`EStateM ε σ α` is the shape of an imperative routine: it changes a state `σ`, and either returns a
value or leaves through an exception `ε` with the state as it stands at that point.  This file collects
the rules for reasoning about such routines without running them:

* `finalState` — the state a run leaves behind, whichever way it leaves.
* `Within R p` — `p` only ever moves the state along `R`.  For a preorder `R` this is closed under every
  construct below; a frame condition, an invariant and "this log only grows" are all instances.
* `EndsAlike p q` — `p` and `q` leave the same state behind.
* `NeverFaults p` and `Ends p s Q` — total correctness: `p` returns, and its result satisfies `Q`.
* `FaultsOnly E p` — `p` leaves through no other faults.
* `recover` — a `catch` block that swallows some of the exceptions.
* `zoom` — running a routine of a component inside the state that contains it.
-/

namespace EffectProgram

variable {ε σ τ α β : Type}

/-- The state a run leaves behind, whether it returned or threw. -/
def finalState : EStateM.Result ε σ α → σ
  | .ok _ s => s
  | .error _ s => s

@[simp] theorem finalState_ok (a : α) (s : σ) :
    finalState (.ok a s : EStateM.Result ε σ α) = s := rfl

@[simp] theorem finalState_error (e : ε) (s : σ) :
    finalState (.error e s : EStateM.Result ε σ α) = s := rfl

@[simp] theorem run_throw (e : ε) (s : σ) :
    (throw e : EStateM ε σ α).run s = .error e s := rfl

/-- Sequencing, seen from the intermediate state. -/
theorem finalState_bind (p : EStateM ε σ α) (k : α → EStateM ε σ β) (s : σ) :
    finalState ((p >>= k).run s) =
      match p.run s with
      | .ok a s' => finalState ((k a).run s')
      | .error _ s' => s' := by
  rw [EStateM.run_bind]
  cases p.run s with
  | ok a s' => rfl
  | error e s' => rfl

/-- A value returned at the end does not change the state. -/
theorem finalState_bind_pure (p : EStateM ε σ α) (b : β) (s : σ) :
    finalState ((p >>= fun _ => pure b).run s) = finalState (p.run s) := by
  rw [finalState_bind]
  cases p.run s with
  | ok a s' => rfl
  | error e s' => rfl

/-- A sequence returns only if both parts do. -/
theorem run_bind_eq_ok {p : EStateM ε σ α} {k : α → EStateM ε σ β} {s s'' : σ} {b : β} :
    (p >>= k).run s = .ok b s'' ↔ ∃ a s', p.run s = .ok a s' ∧ (k a).run s' = .ok b s'' := by
  rw [EStateM.run_bind]
  cases p.run s with
  | ok a s' =>
      constructor
      · intro h
        exact ⟨a, s', rfl, h⟩
      · rintro ⟨_, _, hSame, h⟩
        cases hSame
        exact h
  | error e s' => simp

/-! ## Moving only along a relation -/

/-- Every run of `p`, returning or throwing, ends in a state related to its start by `R`. -/
def Within (R : σ → σ → Prop) (p : EStateM ε σ α) : Prop :=
  ∀ s, R s (finalState (p.run s))

theorem Within.mono {R S : σ → σ → Prop} {p : EStateM ε σ α} (h : Within R p)
    (hRS : ∀ s s', R s s' → S s s') : Within S p :=
  fun s => hRS _ _ (h s)

section Preorder

variable {R : σ → σ → Prop} [IsPreorder σ R]

theorem within_pure (a : α) : Within R (pure a : EStateM ε σ α) :=
  fun s => Std.Refl.refl s

theorem within_get : Within R (get : EStateM ε σ σ) :=
  fun s => Std.Refl.refl s

theorem within_throw (e : ε) : Within R (throw e : EStateM ε σ α) :=
  fun s => Std.Refl.refl s

theorem within_bind {p : EStateM ε σ α} {k : α → EStateM ε σ β} (hp : Within R p)
    (hk : ∀ a, Within R (k a)) : Within R (p >>= k) := by
  intro s
  have hFirst := hp s
  rw [finalState_bind]
  cases hRun : p.run s with
  | ok a s' =>
      rw [hRun] at hFirst
      exact IsTrans.trans _ _ _ hFirst (hk a s')
  | error e s' =>
      rw [hRun] at hFirst
      exact hFirst

/-- Reading the state moves nothing. -/
theorem within_get_bind {k : σ → EStateM ε σ β} (hk : ∀ s, Within R (k s)) :
    Within R ((get : EStateM ε σ σ) >>= k) :=
  within_bind within_get hk

theorem within_forM {f : β → EStateM ε σ PUnit} {l : List β} (hf : ∀ b ∈ l, Within R (f b)) :
    Within R (l.forM f) := by
  induction l with
  | nil => exact within_pure _
  | cons b rest ih =>
      show Within R (f b >>= fun _ => rest.forM f)
      refine within_bind (hf b List.mem_cons_self) fun _ => ih fun b' hb' => ?_
      exact hf b' (List.mem_cons_of_mem _ hb')

end Preorder

theorem within_ite {R : σ → σ → Prop} {c : Prop} [Decidable c] {p q : EStateM ε σ α}
    (hp : Within R p) (hq : Within R q) : Within R (if c then p else q) := by
  split
  · exact hp
  · exact hq

/-- A branch that is taken under a condition only. -/
theorem within_ite_of {R : σ → σ → Prop} {c : Prop} [Decidable c] {p q : EStateM ε σ α}
    (hp : c → Within R p) (hq : Within R q) : Within R (if c then p else q) := by
  split
  · rename_i hCondition
    exact hp hCondition
  · exact hq

theorem within_modify {R : σ → σ → Prop} {f : σ → σ} (hf : ∀ s, R s (f s)) :
    Within R (modify f : EStateM ε σ PUnit) :=
  hf

/-- Agreement on one projection of the state is a preorder; `Within` of it is a frame condition. -/
instance isPreorder_unchanged (f : σ → τ) : IsPreorder σ (fun s s' => f s' = f s) where
  refl _ := rfl
  trans _ _ _ hFirst hSecond := hSecond.trans hFirst

/-- What the rest of a sequence leaves alone, the first part decides. -/
theorem unchanged_bind {f : σ → τ} {p : EStateM ε σ α} {k : α → EStateM ε σ β}
    (hk : ∀ a, Within (fun s s' => f s' = f s) (k a)) (s : σ) :
    f (finalState ((p >>= k).run s)) = f (finalState (p.run s)) := by
  rw [finalState_bind]
  cases p.run s with
  | ok a s' => exact hk a s'
  | error e s' => rfl

/-- A sequence whose parts move along two relations. -/
theorem within_bind_of {R S T : σ → σ → Prop} {p : EStateM ε σ α} {k : α → EStateM ε σ β} (hp : Within R p)
    (hk : ∀ a, Within S (k a)) (hThrow : ∀ s s', R s s' → T s s')
    (hBoth : ∀ s s' s'', R s s' → S s' s'' → T s s'') : Within T (p >>= k) := by
  intro s
  have hFirst := hp s
  rw [finalState_bind]
  cases hRun : p.run s with
  | ok a s' =>
      rw [hRun] at hFirst
      exact hBoth _ _ _ hFirst (hk a s')
  | error e s' =>
      rw [hRun] at hFirst
      exact hThrow _ _ hFirst

/-- Keeping one property of the state is a preorder; `Within` of it is an invariant. -/
instance isPreorder_invariant (I : σ → Prop) : IsPreorder σ (fun s s' => I s → I s') where
  refl _ := id
  trans _ _ _ hFirst hSecond := hSecond ∘ hFirst

/-! ## Swallowing exceptions -/

/-- A `catch` block that swallows the exceptions `caught` selects and lets the others through. -/
def recover (caught : ε → Bool) (p : EStateM ε σ PUnit) : EStateM ε σ PUnit := fun s =>
  match p.run s with
  | .ok a s' => .ok a s'
  | .error e s' => if caught e then .ok () s' else .error e s'

theorem recover_run (caught : ε → Bool) (p : EStateM ε σ PUnit) (s : σ) :
    (recover caught p).run s =
      match p.run s with
      | .ok a s' => .ok a s'
      | .error e s' => if caught e then .ok () s' else .error e s' := rfl

theorem finalState_recover (caught : ε → Bool) (p : EStateM ε σ PUnit) (s : σ) :
    finalState ((recover caught p).run s) = finalState (p.run s) := by
  rw [recover_run]
  cases p.run s with
  | ok a s' => rfl
  | error e s' => by_cases hCaught : caught e <;> simp [hCaught]

theorem within_recover {R : σ → σ → Prop} {p : EStateM ε σ PUnit} (hp : Within R p)
    (caught : ε → Bool) : Within R (recover caught p) := by
  intro s
  rw [finalState_recover]
  exact hp s

theorem recover_run_of_ok {caught : ε → Bool} {p : EStateM ε σ PUnit} {a : PUnit} {s s' : σ}
    (h : p.run s = .ok a s') : (recover caught p).run s = .ok a s' := by
  rw [recover_run, h]

/-! ## Running a component's routine inside the whole state -/

/-- Run a routine of the component that `view` reads and `put` writes back. -/
def zoom (view : τ → σ) (put : σ → τ → τ) (p : EStateM ε σ α) : EStateM ε τ α := fun t =>
  match p.run (view t) with
  | .ok a s => .ok a (put s t)
  | .error e s => .error e (put s t)

theorem zoom_run (view : τ → σ) (put : σ → τ → τ) (p : EStateM ε σ α) (t : τ) :
    (zoom view put p).run t =
      match p.run (view t) with
      | .ok a s => .ok a (put s t)
      | .error e s => .error e (put s t) := rfl

theorem finalState_zoom (view : τ → σ) (put : σ → τ → τ) (p : EStateM ε σ α) (t : τ) :
    finalState ((zoom view put p).run t) = put (finalState (p.run (view t))) t := by
  rw [zoom_run]
  cases p.run (view t) with
  | ok a s => rfl
  | error e s => rfl

/-- A loop whose body runs like a routine of the component, wherever the component can be read and written. -/
theorem forM_zoom_run {view : τ → σ} {put : σ → τ → τ} {I : τ → Prop} {f : β → EStateM ε σ PUnit}
    {g : β → EStateM ε τ PUnit} (hSame : ∀ t, I t → put (view t) t = t)
    (hPut : ∀ t, I t → ∀ s, I (put s t) ∧ view (put s t) = s ∧ ∀ s', put s' (put s t) = put s' t)
    (hBody : ∀ b t, I t → (g b).run t = (zoom view put (f b)).run t) (l : List β) {t : τ} (hI : I t) :
    (l.forM g).run t = (zoom view put (l.forM f)).run t := by
  induction l generalizing t with
  | nil =>
      show EStateM.Result.ok () t = .ok () (put (view t) t)
      rw [hSame t hI]
  | cons b rest ih =>
      show (g b >>= fun _ => rest.forM g).run t = (zoom view put (f b >>= fun _ => rest.forM f)).run t
      rw [EStateM.run_bind, hBody b t hI, zoom_run, zoom_run, EStateM.run_bind]
      cases (f b).run (view t) with
      | error e s => rfl
      | ok a s =>
          obtain ⟨hKept, hView, hOver⟩ := hPut t hI s
          show (rest.forM g).run (put s t) = _
          rw [ih hKept, zoom_run, hView]
          cases hRest : (rest.forM f).run s <;> simp only [hRest, hOver]

/-- What the component guarantees about itself, the whole state inherits. -/
theorem within_zoom {view : τ → σ} {put : σ → τ → τ} {p : EStateM ε σ α} {R : τ → τ → Prop}
    {S : σ → σ → Prop} (hp : Within S p)
    (hput : ∀ t s', S (view t) s' → R t (put s' t)) : Within R (zoom view put p) := by
  intro t
  rw [finalState_zoom]
  exact hput _ _ (hp _)

/-! ## Leaving the same state -/

/-- Two programs leave the same state behind from every state, one of them perhaps by throwing. -/
def EndsAlike (p : EStateM ε σ α) (q : EStateM ε σ β) : Prop :=
  ∀ s, finalState (p.run s) = finalState (q.run s)

theorem EndsAlike.refl (p : EStateM ε σ α) : EndsAlike p p :=
  fun _ => rfl

/-- Only what comes after the common beginning may differ. -/
theorem endsAlike_bind (p : EStateM ε σ α) {k k' : α → EStateM ε σ β} (hk : ∀ a, EndsAlike (k a) (k' a)) :
    EndsAlike (p >>= k) (p >>= k') := by
  intro s
  rw [finalState_bind, finalState_bind]
  cases p.run s with
  | ok a s' => exact hk a s'
  | error e s' => rfl

theorem endsAlike_ite {c : Prop} [Decidable c] {p p' q q' : EStateM ε σ α} (hp : EndsAlike p p')
    (hq : EndsAlike q q') : EndsAlike (if c then p else q) (if c then p' else q') := by
  split
  · exact hp
  · exact hq

theorem endsAlike_zoom {view : τ → σ} {put : σ → τ → τ} {p p' : EStateM ε σ α} (hp : EndsAlike p p') :
    EndsAlike (zoom view put p) (zoom view put p') := by
  intro t
  rw [finalState_zoom, finalState_zoom, hp]

/-! ## Total correctness -/

/-- From `s`, `p` returns, and the value and state it returns satisfy `Q`. -/
def Ends (p : EStateM ε σ α) (s : σ) (Q : α → σ → Prop) : Prop :=
  ∃ a s', p.run s = .ok a s' ∧ Q a s'

/-- `p` returns from every state. -/
def NeverFaults (p : EStateM ε σ α) : Prop :=
  ∀ s, ∃ a s', p.run s = .ok a s'

/-- Programs that run alike from `s` end alike. -/
theorem Ends.congr_run {p q : EStateM ε σ α} {s : σ} {Q : α → σ → Prop} (h : p.run s = q.run s)
    (hq : Ends q s Q) : Ends p s Q := by
  obtain ⟨a, s', hRun, hQ⟩ := hq
  exact ⟨a, s', h.trans hRun, hQ⟩

theorem ends_pure {a : α} {s : σ} {Q : α → σ → Prop} (h : Q a s) :
    Ends (pure a : EStateM ε σ α) s Q :=
  ⟨a, s, rfl, h⟩

theorem ends_modify {f : σ → σ} {s : σ} {Q : PUnit → σ → Prop} (h : Q () (f s)) :
    Ends (modify f : EStateM ε σ PUnit) s Q :=
  ⟨(), f s, rfl, h⟩

theorem ends_bind {p : EStateM ε σ α} {k : α → EStateM ε σ β} {s : σ} {Q : β → σ → Prop}
    (h : Ends p s fun a s' => Ends (k a) s' Q) : Ends (p >>= k) s Q := by
  obtain ⟨a, s', hRun, b, s'', hRest, hQ⟩ := h
  refine ⟨b, s'', ?_, hQ⟩
  rw [EStateM.run_bind, hRun]
  exact hRest

theorem Ends.imp {p : EStateM ε σ α} {s : σ} {Q Q' : α → σ → Prop} (h : Ends p s Q)
    (hQ : ∀ a s', Q a s' → Q' a s') : Ends p s Q' := by
  obtain ⟨a, s', hRun, hEnd⟩ := h
  exact ⟨a, s', hRun, hQ a s' hEnd⟩

/-- Two facts about the same run. -/
theorem Ends.and {p : EStateM ε σ α} {s : σ} {Q Q' : α → σ → Prop} (h : Ends p s Q)
    (h' : Ends p s Q') : Ends p s fun a s' => Q a s' ∧ Q' a s' := by
  obtain ⟨a, s', hRun, hQ⟩ := h
  obtain ⟨a', s'', hRun', hQ'⟩ := h'
  rw [hRun] at hRun'
  cases hRun'
  exact ⟨a, s', hRun, hQ, hQ'⟩

/-- A returning run also moves the way every run does. -/
theorem Ends.and_within {R : σ → σ → Prop} {p : EStateM ε σ α} {s : σ} {Q : α → σ → Prop}
    (h : Ends p s Q) (hR : Within R p) : Ends p s fun a s' => Q a s' ∧ R s s' := by
  obtain ⟨a, s', hRun, hQ⟩ := h
  have hMoved := hR s
  rw [hRun] at hMoved
  exact ⟨a, s', hRun, hQ, hMoved⟩

theorem ends_recover {caught : ε → Bool} {p : EStateM ε σ PUnit} {s : σ} {Q : PUnit → σ → Prop}
    (h : Ends p s Q) : Ends (recover caught p) s Q := by
  obtain ⟨a, s', hRun, hQ⟩ := h
  exact ⟨a, s', recover_run_of_ok hRun, hQ⟩

theorem ends_zoom {view : τ → σ} {put : σ → τ → τ} {p : EStateM ε σ α} {t : τ}
    {Q : α → τ → Prop} (h : Ends p (view t) fun a s' => Q a (put s' t)) :
    Ends (zoom view put p) t Q := by
  obtain ⟨a, s', hRun, hQ⟩ := h
  refine ⟨a, put s' t, ?_, hQ⟩
  rw [zoom_run, hRun]

/-- A returning run ends in its final state. -/
theorem Ends.finalState {p : EStateM ε σ α} {s : σ} {Q : α → σ → Prop} (h : Ends p s Q) :
    ∃ a, Q a (finalState (p.run s)) := by
  obtain ⟨a, s', hRun, hQ⟩ := h
  rw [hRun]
  exact ⟨a, hQ⟩

/-- What a returning routine is known to preserve, its end satisfies. -/
theorem NeverFaults.ends {R : σ → σ → Prop} {p : EStateM ε σ α} (h : NeverFaults p)
    (hR : Within R p) (s : σ) : Ends p s fun _ s' => R s s' := by
  obtain ⟨a, s', hRun⟩ := h s
  have hMoved := hR s
  rw [hRun] at hMoved
  exact ⟨a, s', hRun, hMoved⟩

theorem neverFaults_pure (a : α) : NeverFaults (pure a : EStateM ε σ α) :=
  fun s => ⟨a, s, rfl⟩

theorem neverFaults_get : NeverFaults (get : EStateM ε σ σ) :=
  fun s => ⟨s, s, rfl⟩

theorem neverFaults_modify (f : σ → σ) : NeverFaults (modify f : EStateM ε σ PUnit) :=
  fun s => ⟨(), f s, rfl⟩

theorem neverFaults_bind {p : EStateM ε σ α} {k : α → EStateM ε σ β} (hp : NeverFaults p)
    (hk : ∀ a, NeverFaults (k a)) : NeverFaults (p >>= k) := by
  intro s
  obtain ⟨a, s', hRun⟩ := hp s
  obtain ⟨b, s'', hRest⟩ := hk a s'
  refine ⟨b, s'', ?_⟩
  rw [EStateM.run_bind, hRun]
  exact hRest

theorem neverFaults_ite {c : Prop} [Decidable c] {p q : EStateM ε σ α} (hp : NeverFaults p)
    (hq : NeverFaults q) : NeverFaults (if c then p else q) := by
  split
  · exact hp
  · exact hq

theorem neverFaults_forM {f : β → EStateM ε σ PUnit} (hf : ∀ b, NeverFaults (f b)) (l : List β) :
    NeverFaults (l.forM f) := by
  induction l with
  | nil => exact neverFaults_pure _
  | cons b rest ih =>
      show NeverFaults (f b >>= fun _ => rest.forM f)
      exact neverFaults_bind (hf b) fun _ => ih

theorem neverFaults_zoom {view : τ → σ} {put : σ → τ → τ} {p : EStateM ε σ α}
    (hp : NeverFaults p) : NeverFaults (zoom view put p) := by
  intro t
  obtain ⟨a, s, hRun⟩ := hp (view t)
  refine ⟨a, put s t, ?_⟩
  rw [zoom_run, hRun]

/-! ## Which faults -/

/-- Every fault `p` leaves through satisfies `E`. -/
def FaultsOnly (E : ε → Prop) (p : EStateM ε σ α) : Prop :=
  ∀ s e s', p.run s = .error e s' → E e

theorem NeverFaults.faultsOnly {E : ε → Prop} {p : EStateM ε σ α} (h : NeverFaults p) :
    FaultsOnly E p := by
  intro s e s' hRun
  obtain ⟨a, s'', hOk⟩ := h s
  rw [hOk] at hRun
  cases hRun

/-- A program whose faults are all swallowed returns. -/
theorem neverFaults_recover {caught : ε → Bool} {p : EStateM ε σ PUnit}
    (h : FaultsOnly (fun e => caught e = true) p) : NeverFaults (recover caught p) := by
  intro s
  rw [recover_run]
  cases hRun : p.run s with
  | ok a s' => exact ⟨a, s', rfl⟩
  | error e s' => exact ⟨(), s', by simp [h s e s' hRun]⟩

theorem faultsOnly_bind {E : ε → Prop} {p : EStateM ε σ α} {k : α → EStateM ε σ β}
    (hp : FaultsOnly E p) (hk : ∀ a, FaultsOnly E (k a)) : FaultsOnly E (p >>= k) := by
  intro s e s' hRun
  rw [EStateM.run_bind] at hRun
  cases hFirst : p.run s with
  | ok a s₁ =>
      rw [hFirst] at hRun
      exact hk a s₁ e s' hRun
  | error e₁ s₁ =>
      rw [hFirst] at hRun
      cases hRun
      exact hp s e s' hFirst

theorem faultsOnly_ite {E : ε → Prop} {c : Prop} [Decidable c] {p q : EStateM ε σ α}
    (hp : FaultsOnly E p) (hq : FaultsOnly E q) : FaultsOnly E (if c then p else q) := by
  split
  · exact hp
  · exact hq

theorem faultsOnly_zoom {E : ε → Prop} {view : τ → σ} {put : σ → τ → τ} {p : EStateM ε σ α}
    (hp : FaultsOnly E p) : FaultsOnly E (zoom view put p) := by
  intro t e t' hRun
  rw [zoom_run] at hRun
  cases hInner : p.run (view t) with
  | ok a s =>
      rw [hInner] at hRun
      cases hRun
  | error e' s =>
      rw [hInner] at hRun
      cases hRun
      exact hp _ _ _ hInner

/-- A loop whose body always re-establishes the loop invariant for the rest of the list returns with
the invariant of the empty list. -/
theorem ends_forM {f : β → EStateM ε σ PUnit} {I : List β → σ → Prop}
    (hBody : ∀ b rest s, I (b :: rest) s → Ends (f b) s fun _ s' => I rest s') :
    ∀ (l : List β) (s : σ), I l s → Ends (l.forM f) s fun _ s' => I [] s' := by
  intro l
  induction l with
  | nil =>
      intro s hI
      exact ends_pure hI
  | cons b rest ih =>
      intro s hI
      show Ends (f b >>= fun _ => rest.forM f) s fun _ s' => I [] s'
      exact ends_bind ((hBody b rest s hI).imp fun _ s' hRest => ih s' hRest)

end EffectProgram
