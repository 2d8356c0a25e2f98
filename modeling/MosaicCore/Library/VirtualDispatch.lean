import MosaicCore.Library.EffectProgram

/-!
# Virtual functions and destructors

The classes of an object are a chain, the most derived one first.  Each says of a virtual function that it overrides
it, that it is pure, or nothing; a call runs the first override from the dynamic type of the object on.  Destroying an
object runs the destructors along the chain, and each of them makes its own class the dynamic type: the overrides of
the classes before it are not found any more.

* `finalOverrider` — the body that a call runs.
* `callVirtual` — the call.  Bodies may make virtual calls themselves, without end if they are so written, so a call
  is told how many levels of the stack are left.
* `destroy` — the destructors, one after the other.

A class is `Concrete` if it leaves nothing pure, and a complete object of it never calls a pure function.  An object
that is being destroyed may: `callVirtual_base` says what a call in the destructor of a base class finds.
-/

namespace VirtualDispatch

open EffectProgram

/-- An object: how many classes of the chain come before its dynamic type, and its data. -/
structure Object (σ : Type) where
  vptr : Nat := 0
  data : σ

/-- A routine of an object. -/
abbrev MemberRoutine (ε σ β : Type) := EStateM ε (Object σ) β

/-- Change the data of an object. -/
def modifyData {ε σ : Type} (f : σ → σ) : MemberRoutine ε σ PUnit := modify fun o => { o with data := f o.data }

/-- Run a routine of a part of the data; its faults are renamed. -/
def zoomData {ε ε' σ τ : Type} (raise : ε' → ε) (view : σ → τ) (put : τ → σ → σ) (p : EStateM ε' τ PUnit) :
    MemberRoutine ε σ PUnit := fun o =>
  match p.run (view o.data) with
  | .ok _ t => .ok () { o with data := put t o.data }
  | .error e t => .error (raise e) { o with data := put t o.data }

theorem zoomData_run {ε ε' σ τ : Type} (raise : ε' → ε) (view : σ → τ) (put : τ → σ → σ) (p : EStateM ε' τ PUnit)
    (place : Nat) (s : σ) :
    (zoomData raise view put p).run ⟨place, s⟩ =
      match p.run (view s) with
      | .ok _ t => .ok () ⟨place, put t s⟩
      | .error e t => .error (raise e) ⟨place, put t s⟩ := rfl

/-- The body of a function: it is given the virtual calls on its object, and its argument. -/
abbrev Body (ι α ε σ : Type) := (ι → α → MemberRoutine ε σ PUnit) → α → MemberRoutine ε σ PUnit

/-- What a class says about a virtual function. -/
inductive Declaration (β : Type)
  | inherited
  | pure
  | overrides (body : β)

/-- A class with virtual functions `ι` that take an argument `α`. -/
structure ClassDecl (ι α ε σ : Type) where
  declares : ι → Declaration (Body ι α ε σ) := fun _ => .inherited
  destructor : Body ι α ε σ := fun _ _ => pure ()

/-- The faults of the calls themselves. -/
structure CallFaults (ι ε : Type) where
  pureVirtual : ι → ε
  stackOverflow : ε
  /-- What a fault becomes when it leaves a destructor. -/
  escaped : ε → ε

variable {ι α ε σ : Type}

/-- The body that a call runs, seen from a class on. -/
def finalOverrider : List (ClassDecl ι α ε σ) → ι → Option (Body ι α ε σ)
  | [], _ => none
  | c :: bases, f =>
      match c.declares f with
      | .inherited => finalOverrider bases f
      | .pure => none
      | .overrides body => some body

/-- No virtual function is left pure. -/
def Concrete (classes : List (ClassDecl ι α ε σ)) : Prop :=
  ∀ f, (finalOverrider classes f).isSome = true

variable (faults : CallFaults ι ε) (classes : List (ClassDecl ι α ε σ))

/-- Call a virtual function, with `depth` levels of the stack left. -/
def callVirtual : Nat → ι → α → MemberRoutine ε σ PUnit
  | 0, _, _ => throw faults.stackOverflow
  | depth + 1, f, a => do
      match finalOverrider (classes.drop (← get).vptr) f with
      | some body => body (callVirtual depth) a
      | none => throw (faults.pureVirtual f)

/-- Nothing that is thrown leaves a destructor. -/
def noexcept (p : MemberRoutine ε σ PUnit) : MemberRoutine ε σ PUnit := fun o =>
  match p.run o with
  | .ok u o' => .ok u o'
  | .error e o' => .error (faults.escaped e) o'

/-- The destructors of some of the classes, of which the first is at `place` in the chain. -/
def destroyFrom (depth : Nat) (a : α) : Nat → List (ClassDecl ι α ε σ) → MemberRoutine ε σ PUnit
  | _, [] => pure ()
  | place, c :: bases => do
      modify fun o => { o with vptr := place }
      noexcept faults (c.destructor (callVirtual faults classes depth) a)
      destroyFrom depth a (place + 1) bases

/-- Destroy an object. -/
def destroy (depth : Nat) (a : α) : MemberRoutine ε σ PUnit := destroyFrom faults classes depth a 0 classes

/-! ## Which body is found -/

variable {faults classes} {f : ι} {a : α} {depth place : Nat}

theorem callVirtual_run (o : Object σ) :
    (callVirtual faults classes (depth + 1) f a).run o =
      match finalOverrider (classes.drop o.vptr) f with
      | some body => (body (callVirtual faults classes depth) a).run o
      | none => .error (faults.pureVirtual f) o := by
  rw [callVirtual, EStateM.run_bind, EStateM.run_get]
  cases hFound : finalOverrider (classes.drop o.vptr) f <;> simp [hFound]

variable (faults depth) in
/-- A complete object of a concrete class finds a body for every call. -/
theorem callVirtual_complete (hConcrete : Concrete classes) (f : ι) (a : α) (data : σ) :
    ∃ body, finalOverrider classes f = some body ∧
      (callVirtual faults classes (depth + 1) f a).run ⟨0, data⟩ =
        (body (callVirtual faults classes depth) a).run ⟨0, data⟩ := by
  obtain ⟨body, hFound⟩ := Option.isSome_iff_exists.mp (hConcrete f)
  refine ⟨body, hFound, ?_⟩
  rw [callVirtual_run, List.drop_zero, hFound]

/-- In the destructor of a base class a call finds what the base classes have. -/
theorem callVirtual_base (derived bases : List (ClassDecl ι α ε σ)) (data : σ) :
    (callVirtual faults (derived ++ bases) (depth + 1) f a).run ⟨derived.length, data⟩ =
      match finalOverrider bases f with
      | some body => (body (callVirtual faults (derived ++ bases) depth) a).run ⟨derived.length, data⟩
      | none => .error (faults.pureVirtual f) ⟨derived.length, data⟩ := by
  rw [callVirtual_run, List.drop_left]

/-- What is pure there does not return, however much of the stack is left. -/
theorem callVirtual_base_ne_ok {derived bases : List (ClassDecl ι α ε σ)} (hPure : finalOverrider bases f = none)
    (depth : Nat) (data : σ) (o' : Object σ) :
    (callVirtual faults (derived ++ bases) depth f a).run ⟨derived.length, data⟩ ≠ .ok () o' := by
  cases depth with
  | zero => simp [callVirtual]
  | succ depth => simp [callVirtual_base, hPure]

/-! ## Destroying -/

theorem noexcept_run_eq_ok {p : MemberRoutine ε σ PUnit} {o o' : Object σ} :
    (noexcept faults p).run o = .ok () o' ↔ p.run o = .ok () o' := by
  show noexcept faults p o = _ ↔ _
  rw [noexcept]
  cases p.run o <;> simp

theorem noexcept_run_error {p : MemberRoutine ε σ PUnit} {o o' : Object σ} {e : ε} (hThrows : p.run o = .error e o') :
    (noexcept faults p).run o = .error (faults.escaped e) o' := by
  show noexcept faults p o = _
  rw [noexcept, hThrows]

theorem destroyFrom_cons_run (c : ClassDecl ι α ε σ) (bases : List (ClassDecl ι α ε σ)) (o : Object σ) :
    (destroyFrom faults classes depth a place (c :: bases)).run o =
      (noexcept faults (c.destructor (callVirtual faults classes depth) a) >>= fun _ =>
        destroyFrom faults classes depth a (place + 1) bases).run ⟨place, o.data⟩ := rfl

/-- The derived classes are destroyed first. -/
theorem destroyFrom_append (derived bases : List (ClassDecl ι α ε σ)) (o : Object σ) :
    (destroyFrom faults classes depth a place (derived ++ bases)).run o =
      (destroyFrom faults classes depth a place derived >>= fun _ =>
        destroyFrom faults classes depth a (place + derived.length) bases).run o := by
  induction derived generalizing place o with
  | nil => rfl
  | cons c derived ih =>
      rw [List.cons_append, destroyFrom_cons_run, EStateM.run_bind, EStateM.run_bind, destroyFrom_cons_run,
        EStateM.run_bind]
      cases (noexcept faults (c.destructor (callVirtual faults classes depth) a)).run ⟨place, o.data⟩ with
      | error e o' => rfl
      | ok u o' =>
          simp only [ih, EStateM.run_bind, List.length_cons]
          rw [Nat.add_assoc, Nat.add_comm 1]

/-- The destructor of a base class comes after those of the derived classes. -/
theorem destroy_run_split {derived bases : List (ClassDecl ι α ε σ)} (hClasses : classes = derived ++ bases)
    (o : Object σ) :
    (destroy faults classes depth a).run o =
      (destroyFrom faults classes depth a 0 derived >>= fun _ =>
        destroyFrom faults classes depth a derived.length bases).run o := by
  have hSplit : (destroy faults classes depth a).run o =
      (destroyFrom faults classes depth a 0 (derived ++ bases)).run o := by
    rw [destroy, ← hClasses]
  rw [hSplit, destroyFrom_append, Nat.zero_add]

/-- Once the derived classes are destroyed, the destructor of the base class runs on an object of the base class. -/
theorem destroy_of_derived {derived bases : List (ClassDecl ι α ε σ)} {base : ClassDecl ι α ε σ}
    (hClasses : classes = derived ++ base :: bases) {o o' : Object σ}
    (hDerived : (destroyFrom faults classes depth a 0 derived).run o = .ok () o') :
    (destroy faults classes depth a).run o =
      (noexcept faults (base.destructor (callVirtual faults classes depth) a) >>= fun _ =>
        destroyFrom faults classes depth a (derived.length + 1) bases).run ⟨derived.length, o'.data⟩ := by
  rw [destroy_run_split hClasses, EStateM.run_bind, hDerived]
  rfl

/-- A base class whose destructor does not return lets no object be destroyed. -/
theorem destroy_ne_ok {derived bases : List (ClassDecl ι α ε σ)} {base : ClassDecl ι α ε σ}
    (hClasses : classes = derived ++ base :: bases)
    (hBase : ∀ data o', (base.destructor (callVirtual faults classes depth) a).run ⟨derived.length, data⟩ ≠ .ok () o')
    (o o' : Object σ) : (destroy faults classes depth a).run o ≠ .ok () o' := by
  intro hEnds
  obtain ⟨_, o₁, hDerived, -⟩ := run_bind_eq_ok.mp ((destroy_run_split hClasses o).symm.trans hEnds)
  rw [destroy_of_derived hClasses hDerived] at hEnds
  obtain ⟨_, o₂, hDestructor, -⟩ := run_bind_eq_ok.mp hEnds
  exact hBase o₁.data o₂ (noexcept_run_eq_ok.mp hDestructor)

end VirtualDispatch
