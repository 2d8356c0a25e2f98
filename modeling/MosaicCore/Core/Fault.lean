import MosaicCore.Library.EffectProgram

/-!
# Faults of the C++ routines

A routine of the library leaves through a `std::exception`, which a `catch (const std::exception&)`
block stops, or dereferences a null smart pointer, which nothing stops: it ends the process.
-/

namespace MosaicCore

open EffectProgram

/-- The ways a routine leaves other than by returning. -/
inductive Fault
  | exception (what : String)
  | nullDereference (pointer : String)
  deriving DecidableEq, Repr

/-- What `catch (const std::exception& e)` catches. -/
def Fault.isException : Fault → Bool
  | .exception _ => true
  | .nullDereference _ => false

/-- A C++ routine over the state `σ`: state changes made before a throw stay made. -/
abbrev Program (σ α : Type) := EStateM Fault σ α

/-- The routine leaves through a `std::exception`. -/
def throwsException {σ α : Type} (result : EStateM.Result Fault σ α) : Bool :=
  match result with
  | .error e _ => e.isException
  | .ok _ _ => false

@[simp] theorem throwsException_ok {σ α : Type} (a : α) (s : σ) :
    throwsException (.ok a s : EStateM.Result Fault σ α) = false := rfl

@[simp] theorem throwsException_error {σ α : Type} (e : Fault) (s : σ) :
    throwsException (.error e s : EStateM.Result Fault σ α) = e.isException := rfl

theorem throwsException_zoom {σ τ α : Type} (view : τ → σ) (put : σ → τ → τ) (p : Program σ α) (t : τ) :
    throwsException ((zoom view put p).run t) = throwsException (p.run (view t)) := by
  rw [zoom_run]
  cases p.run (view t) <;> rfl

/-- Only the first of two routines can throw. -/
theorem throwsException_bind {σ α β : Type} {p : Program σ α} {k : α → Program σ β} {s : σ}
    (hReturns : ∀ a s', throwsException ((k a).run s') = false) :
    throwsException ((p >>= k).run s) = throwsException (p.run s) := by
  rw [EStateM.run_bind]
  cases p.run s with
  | ok a s' => exact hReturns a s'
  | error e s' => rfl

theorem throwsException_ite {σ α : Type} (c : Prop) [Decidable c] (p q : Program σ α) (s : σ) :
    throwsException ((if c then p else q).run s) =
      if c then throwsException (p.run s) else throwsException (q.run s) := by
  split <;> rfl

/-- `try { ... } catch (const std::exception& e) { log }`. -/
def catchException {σ : Type} (body : Program σ PUnit) : Program σ PUnit :=
  recover Fault.isException body

/-- Use a smart pointer: null ends the process. -/
def dereference {σ α : Type} (pointer : String) : Option α → Program σ α
  | some a => pure a
  | none => throw (.nullDereference pointer)

@[simp] theorem dereference_some {σ α : Type} (pointer : String) (a : α) :
    (dereference pointer (some a) : Program σ α) = pure a := rfl

@[simp] theorem dereference_none {σ α : Type} (pointer : String) :
    (dereference pointer none : Program σ α) = throw (.nullDereference pointer) := rfl

theorem within_dereference {σ α : Type} {R : σ → σ → Prop} [IsPreorder σ R] (pointer : String)
    (p : Option α) : Within R (dereference pointer p : Program σ α) := by
  cases p with
  | none => exact within_throw _
  | some a => exact within_pure a

theorem within_dereference_bind {σ α β : Type} {R : σ → σ → Prop} [IsPreorder σ R] {pointer : String}
    {p : Option α} {k : α → Program σ β} (hk : ∀ a, Within R (k a)) :
    Within R ((dereference pointer p : Program σ α) >>= k) :=
  within_bind (within_dereference pointer p) hk

end MosaicCore
