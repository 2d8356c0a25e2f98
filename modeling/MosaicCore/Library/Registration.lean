import Mathlib.Logic.Function.Basic
import MosaicCore.Library.OrderedMap

/-!
# Registering objects under their keys

A registry files each object under a key that the object has itself.  When a key comes up again, a registry
may keep the object it has, or replace it by the new one:

* `registerNew` — an ordered map that keeps it; a key finds the first object registered with it.
* `registerOver` — a map that replaces it; a key finds the last.

`first` and `last` are these two objects of a list, and `agree_iff` says that the two registries, starting
empty, are the same map exactly if they are the same object for every key.
-/

namespace Registration

variable {κ α : Type} (key : α → κ)

section Lists

variable [DecidableEq κ]

/-- The first object with a key. -/
def first (k : κ) (as : List α) : Option α := as.find? fun a => key a = k

/-- The last object with a key. -/
def last (k : κ) (as : List α) : Option α := as.reverse.find? fun a => key a = k

variable {key}

@[simp] theorem first_nil (k : κ) : first key k [] = none := rfl

@[simp] theorem last_nil (k : κ) : last key k [] = none := rfl

theorem first_cons (k : κ) (a : α) (as : List α) :
    first key k (a :: as) = if key a = k then some a else first key k as := by
  by_cases hKey : key a = k <;> simp [first, hKey]

theorem last_cons (k : κ) (a : α) (as : List α) :
    last key k (a :: as) = (last key k as).or (if key a = k then some a else none) := by
  by_cases hKey : key a = k <;> simp [last, List.find?_append, hKey]

/-- A key that no object has finds none. -/
theorem last_eq_none {k : κ} {as : List α} (hAbsent : k ∉ as.map key) : last key k as = none := by
  rw [last, List.find?_eq_none]
  intro a hMem
  have hKey : key a ≠ k := fun hSame => hAbsent (hSame ▸ List.mem_map_of_mem (List.mem_reverse.mp hMem))
  simpa using hKey

/-- With distinct keys the first and the last object are the only one. -/
theorem first_eq_last_of_nodup {as : List α} (hDistinct : (as.map key).Nodup) (k : κ) :
    first key k as = last key k as := by
  induction as with
  | nil => rfl
  | cons a as ih =>
      simp only [List.map_cons, List.nodup_cons] at hDistinct
      rw [first_cons, last_cons]
      by_cases hKey : key a = k
      · have hAbsent : last key k as = none := last_eq_none (hKey ▸ hDistinct.1)
        simp [hKey, hAbsent]
      · simp [hKey, ih hDistinct.2]

end Lists

/-! ## The two registries -/

section Registries

variable [LinearOrder κ]

/-- Register the objects in turn, keeping what is there. -/
def registerNew (m : OrderedMap κ α) (as : List α) : OrderedMap κ α :=
  as.foldl (fun m a => m.insert (key a) a) m

/-- Register the objects in turn, replacing what is there. -/
def registerOver (m : κ → Option α) (as : List α) : κ → Option α :=
  as.foldl (fun m a => Function.update m (key a) (some a)) m

variable {key}

@[simp] theorem registerNew_nil (m : OrderedMap κ α) : registerNew key m [] = m := rfl

@[simp] theorem registerNew_cons (m : OrderedMap κ α) (a : α) (as : List α) :
    registerNew key m (a :: as) = registerNew key (m.insert (key a) a) as := rfl

theorem registerNew_append (m : OrderedMap κ α) (as as' : List α) :
    registerNew key m (as ++ as') = registerNew key (registerNew key m as) as' :=
  List.foldl_append

@[simp] theorem registerOver_nil (m : κ → Option α) : registerOver key m [] = m := rfl

@[simp] theorem registerOver_cons (m : κ → Option α) (a : α) (as : List α) :
    registerOver key m (a :: as) = registerOver key (Function.update m (key a) (some a)) as := rfl

theorem registerOver_append (m : κ → Option α) (as as' : List α) :
    registerOver key m (as ++ as') = registerOver key (registerOver key m as) as' :=
  List.foldl_append

/-- What is there stays; a new key finds the first object registered with it. -/
theorem find?_registerNew (m : OrderedMap κ α) (as : List α) (k : κ) :
    (registerNew key m as).find? k = (m.find? k).or (first key k as) := by
  induction as generalizing m with
  | nil => simp
  | cons a as ih =>
      rw [registerNew_cons, ih, OrderedMap.find?_insert, first_cons]
      by_cases hKey : key a = k
      · subst hKey
        cases m.find? (key a) <;> simp
      · have hKey' : ¬ k = key a := fun hSame => hKey hSame.symm
        simp [hKey, hKey']

/-- A key finds the last object registered with it, or what was there before. -/
theorem registerOver_apply (m : κ → Option α) (as : List α) (k : κ) :
    registerOver key m as k = (last key k as).or (m k) := by
  induction as generalizing m with
  | nil => simp
  | cons a as ih =>
      rw [registerOver_cons, ih, last_cons]
      by_cases hKey : key a = k
      · subst hKey
        cases last key (key a) as <;> simp
      · have hKey' : ¬ k = key a := fun hSame => hKey hSame.symm
        simp [hKey, Function.update_of_ne hKey']

/-- **The two registries agree exactly if every key has the same first and last object.** -/
theorem agree_iff (as : List α) :
    (∀ k, registerOver key (fun _ => none) as k = (registerNew key .empty as).find? k) ↔
      ∀ k, first key k as = last key k as := by
  simp only [find?_registerNew, registerOver_apply, OrderedMap.find?_empty, Option.none_or, Option.or_none]
  exact forall_congr' fun k => eq_comm

end Registries

end Registration
