import Mathlib.Data.List.Forall2

/-!
# Steps that throw

Routines without a state that return or throw, as `Except ε α`: when a sequence of them returns, and when a loop
does.  What a loop returns is related element by element to what it went over, so rules for `List.Forall₂` come
with it.
-/

namespace ThrowingSteps

variable {ε α β γ : Type}

theorem throw_ne_ok (e : ε) (a : α) : (throw e : Except ε α) ≠ .ok a := by
  simp [throw, throwThe, MonadExceptOf.throw]

theorem bind_eq_ok_iff {x : Except ε α} {f : α → Except ε β} {b : β} :
    (x >>= f) = .ok b ↔ ∃ a, x = .ok a ∧ f a = .ok b := by
  cases x with
  | error e => simp [bind, Except.bind]
  | ok a => simp [bind, Except.bind]

/-- Forgetting what a routine throws. -/
theorem toOption_eq_some_iff {x : Except ε α} {a : α} : x.toOption = some a ↔ x = .ok a := by
  cases x <;> simp [Except.toOption]

theorem toOption_eq_none_iff {x : Except ε α} : x.toOption = none ↔ ∃ e, x = .error e := by
  cases x <;> simp [Except.toOption]

theorem toOption_bind (x : Except ε α) (f : α → Except ε β) :
    (x >>= f).toOption = x.toOption.bind fun a => (f a).toOption := by
  cases x <;> rfl

/-- Whichever of two steps comes first, what is returned comes from what follows. -/
theorem exists_of_ite_bind {c : Prop} [Decidable c] {x y : Except ε α} {f : α → Except ε β} {b : β}
    (hReturns : (if c then x >>= f else y >>= f) = .ok b) : ∃ a, f a = .ok b := by
  rw [← apply_ite (· >>= f), bind_eq_ok_iff] at hReturns
  obtain ⟨a, -, hRest⟩ := hReturns
  exact ⟨a, hRest⟩

/-- A loop returns the results of its steps. -/
theorem mapM_eq_ok_iff {f : α → Except ε β} {xs : List α} {ys : List β} :
    xs.mapM f = .ok ys ↔ List.Forall₂ (fun x y => f x = .ok y) xs ys := by
  induction xs generalizing ys with
  | nil => simp [pure, Except.pure, eq_comm]
  | cons x rest ih =>
      rw [List.mapM_cons, bind_eq_ok_iff, List.forall₂_cons_left_iff]
      constructor
      · rintro ⟨y, hHead, hRest⟩
        obtain ⟨ys', hTail, hSame⟩ := bind_eq_ok_iff.mp hRest
        cases hSame
        exact ⟨y, ys', hHead, ih.mp hTail, rfl⟩
      · rintro ⟨y, ys', hHead, hTail, rfl⟩
        exact ⟨y, hHead, bind_eq_ok_iff.mpr ⟨ys', ih.mpr hTail, rfl⟩⟩

/-- There are results for a whole list if there is one for each element. -/
theorem exists_forall₂_iff {R : α → β → Prop} {xs : List α} :
    (∃ ys, List.Forall₂ R xs ys) ↔ ∀ x ∈ xs, ∃ y, R x y := by
  induction xs with
  | nil => simp
  | cons x rest ih =>
      rw [List.forall_mem_cons, ← ih]
      constructor
      · rintro ⟨_, _ | ⟨hHead, hTail⟩⟩
        exact ⟨⟨_, hHead⟩, _, hTail⟩
      · rintro ⟨⟨y, hHead⟩, ys, hTail⟩
        exact ⟨y :: ys, .cons hHead hTail⟩

/-- An element of the second list is related to something. -/
theorem exists_of_forall₂_right {R : α → β → Prop} {xs : List α} {ys : List β} (hAll : List.Forall₂ R xs ys) {y : β}
    (hMem : y ∈ ys) : ∃ x, R x y :=
  exists_forall₂_iff.mp ⟨xs, hAll.flip⟩ y hMem

theorem forall₂_imp_of_mem {R S : α → β → Prop} {xs : List α} {ys : List β}
    (hAll : List.Forall₂ R xs ys) (hImp : ∀ x ∈ xs, ∀ y ∈ ys, R x y → S x y) : List.Forall₂ S xs ys := by
  obtain ⟨hLength, hZip⟩ := List.forall₂_iff_zip.mp hAll
  refine List.forall₂_iff_zip.mpr ⟨hLength, fun hMem => ?_⟩
  obtain ⟨hLeft, hRight⟩ := List.of_mem_zip hMem
  exact hImp _ hLeft _ hRight (hZip hMem)

/-- A loop that folds in the results of its steps. -/
theorem foldlM_eq_ok_iff {f : α → Except ε β} {g : γ → β → γ} {xs : List α} {c c' : γ} :
    (xs.foldlM (fun c x => do pure (g c (← f x))) c : Except ε γ) = .ok c' ↔
      ∃ ys, List.Forall₂ (fun x y => f x = .ok y) xs ys ∧ ys.foldl g c = c' := by
  induction xs generalizing c with
  | nil => simp [pure, Except.pure]
  | cons x rest ih =>
      rw [List.foldlM_cons, bind_eq_ok_iff]
      constructor
      · rintro ⟨c₁, hStep, hRest⟩
        obtain ⟨y, hHead, hSame⟩ := bind_eq_ok_iff.mp hStep
        obtain rfl := Except.ok.inj hSame
        obtain ⟨ys, hTail, hFold⟩ := ih.mp hRest
        exact ⟨y :: ys, .cons hHead hTail, hFold⟩
      · rintro ⟨_, _ | ⟨hHead, hTail⟩, hFold⟩
        exact ⟨_, bind_eq_ok_iff.mpr ⟨_, hHead, rfl⟩, ih.mpr ⟨_, hTail, hFold⟩⟩

end ThrowingSteps
