import MosaicCore.Library.EffectProgram

/-!
# The first fault

Of some routines it can be said beforehand whether they return, and through which fault they leave if they do not.
`Leaves p s Q verdict` says it of `p`, run from `s`: with the verdict `none` it returns, and meets `Q`; with the
verdict `some e` it leaves through `e`.

The verdict of a sequence is the first one that its parts have, and the verdict of a loop that of the first element
with one.
-/

namespace EffectProgram

variable {ε σ τ α β : Type}

/-- `p` returns with `Q`, or leaves through the fault of the verdict. -/
def Leaves (p : EStateM ε σ α) (s : σ) (Q : α → σ → Prop) : Option ε → Prop
  | none => Ends p s Q
  | some e => ∃ s', p.run s = .error e s'

variable {s : σ} {Q : α → σ → Prop} {verdict : Option ε}

theorem leaves_pure {a : α} (h : Q a s) : Leaves (pure a : EStateM ε σ α) s Q none :=
  ends_pure h

theorem Leaves.imp {p : EStateM ε σ α} {Q' : α → σ → Prop} (h : Leaves p s Q verdict)
    (hQ : ∀ a s', Q a s' → Q' a s') : Leaves p s Q' verdict := by
  cases verdict with
  | none => exact Ends.imp h hQ
  | some e => exact h

/-- Programs that run alike from `s` leave alike. -/
theorem Leaves.congr_run {p q : EStateM ε σ α} (hRun : p.run s = q.run s) (h : Leaves q s Q verdict) :
    Leaves p s Q verdict := by
  cases verdict with
  | none => exact Ends.congr_run hRun h
  | some e =>
      obtain ⟨s', hError⟩ := h
      exact ⟨s', hRun.trans hError⟩

theorem leaves_get_bind {k : σ → EStateM ε σ α} (h : Leaves (k s) s Q verdict) :
    Leaves ((get : EStateM ε σ σ) >>= k) s Q verdict :=
  h.congr_run rfl

/-- The first fault of two parts. -/
theorem leaves_bind {p : EStateM ε σ β} {k : β → EStateM ε σ α} {R : β → σ → Prop} {first rest : Option ε}
    (h : Leaves p s R first) (hk : ∀ b s', R b s' → Leaves (k b) s' Q rest) :
    Leaves (p >>= k) s Q (first.or rest) := by
  cases first with
  | none =>
      obtain ⟨b, s', hRun, hR⟩ := h
      have hRest := hk b s' hR
      cases rest with
      | none => exact ends_bind ⟨b, s', hRun, hRest⟩
      | some e =>
          obtain ⟨s'', hError⟩ := hRest
          refine ⟨s'', ?_⟩
          rw [EStateM.run_bind, hRun]
          exact hError
  | some e =>
      obtain ⟨s', hError⟩ := h
      refine ⟨s', ?_⟩
      rw [EStateM.run_bind, hError]

/-- A part that returns decides nothing. -/
theorem leaves_bind_of_ends {p : EStateM ε σ β} {k : β → EStateM ε σ α} {R : β → σ → Prop} (h : Ends p s R)
    (hk : ∀ b s', R b s' → Leaves (k b) s' Q verdict) : Leaves (p >>= k) s Q verdict := by
  have hFirst : Leaves p s R none := h
  exact leaves_bind hFirst hk

theorem leaves_zoom {view : τ → σ} {put : σ → τ → τ} {p : EStateM ε σ α} {t : τ} {Q : α → τ → Prop}
    (h : Leaves p (view t) (fun a s' => Q a (put s' t)) verdict) : Leaves (zoom view put p) t Q verdict := by
  cases verdict with
  | none => exact ends_zoom h
  | some e =>
      obtain ⟨s', hError⟩ := h
      refine ⟨put s' t, ?_⟩
      rw [zoom_run, hError]

/-- A loop leaves through the fault of the first element that has one; its invariant is of what remains. -/
theorem leaves_forM {f : β → EStateM ε σ PUnit} {I : List β → σ → Prop} {verdictOf : β → Option ε}
    (hBody : ∀ b rest s, I (b :: rest) s → Leaves (f b) s (fun _ => I rest) (verdictOf b)) (l : List β)
    (hs : I l s) : Leaves (l.forM f) s (fun _ => I []) (l.findSome? verdictOf) := by
  induction l generalizing s with
  | nil => exact leaves_pure hs
  | cons b rest ih =>
      have hVerdict : (b :: rest).findSome? verdictOf = (verdictOf b).or (rest.findSome? verdictOf) := by
        rw [List.findSome?_cons]
        cases verdictOf b <;> rfl
      show Leaves (f b >>= fun _ => rest.forM f) s _ _
      rw [hVerdict]
      exact leaves_bind (hBody b rest s hs) fun _ s' hNext => ih hNext

/-- The first fault of a loop is among `E` exactly if the loop has one among `E` that only such come before. -/
theorem findSome?_among_iff {verdictOf : β → Option ε} {E : ε → Prop} {l : List β} :
    (∃ e, l.findSome? verdictOf = some e ∧ E e) ↔
      ∃ before b after, l = before ++ b :: after ∧ (∃ e, verdictOf b = some e ∧ E e) ∧
        ∀ b' ∈ before, ∀ e, verdictOf b' = some e → E e := by
  constructor
  · rintro ⟨e, hFirst, hE⟩
    obtain ⟨before, b, after, hSplit, hVerdict, hNone⟩ := List.findSome?_eq_some_iff.mp hFirst
    refine ⟨before, b, after, hSplit, ⟨e, hVerdict, hE⟩, fun b' hMem e' hVerdict' => ?_⟩
    rw [hNone b' hMem] at hVerdict'
    cases hVerdict'
  · rintro ⟨before, b, after, rfl, ⟨e, hVerdict, hE⟩, hBefore⟩
    rw [List.findSome?_append, List.findSome?_cons, hVerdict]
    cases hEarlier : before.findSome? verdictOf with
    | none => exact ⟨e, rfl, hE⟩
    | some e' =>
        obtain ⟨b', hMem, hVerdict'⟩ := List.exists_of_findSome?_eq_some hEarlier
        exact ⟨e', rfl, hBefore b' hMem e' hVerdict'⟩

end EffectProgram
