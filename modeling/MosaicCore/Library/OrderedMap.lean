import Mathlib.Order.Lattice
import Mathlib.Data.List.Basic
import Mathlib.Data.List.Sort

/-!
# Maps kept in key order

The associative container of an imperative program whose loops visit the entries in increasing key
order.  The entries are a list together with the proof that the keys strictly increase, so a map with a
repeated or misplaced key cannot be built, and two maps that answer every lookup alike are equal.

`insert` never overwrites: on a key that is present it returns the map as it was.  `assign` does.
-/

/-- Finitely many keys in strictly increasing order, each with a value. -/
structure OrderedMap (κ α : Type) [LinearOrder κ] where
  entries : List (κ × α)
  sorted : (entries.map Prod.fst).Pairwise (· < ·)

namespace OrderedMap

variable {κ α : Type} [LinearOrder κ]

/-- The map without entries. -/
def empty : OrderedMap κ α := ⟨[], List.Pairwise.nil⟩

/-- The keys in the order a loop visits them. -/
def keys (m : OrderedMap κ α) : List κ := m.entries.map Prod.fst

/-- The value in an association list under a key. -/
def lookup (k : κ) : List (κ × α) → Option α
  | [] => none
  | (k', a) :: rest => if k' = k then some a else lookup k rest

/-- The value stored under a key. -/
def find? (m : OrderedMap κ α) (k : κ) : Option α := lookup k m.entries

/-- Put a new key at its place; leave a key that is present alone. -/
def insertEntries (k : κ) (a : α) : List (κ × α) → List (κ × α)
  | [] => [(k, a)]
  | (k', a') :: rest =>
      if k < k' then (k, a) :: (k', a') :: rest
      else if k' = k then (k', a') :: rest
      else (k', a') :: insertEntries k a rest

theorem mem_insertEntries_keys {k k' : κ} {a : α} {es : List (κ × α)} :
    k' ∈ (insertEntries k a es).map Prod.fst ↔ k' = k ∨ k' ∈ es.map Prod.fst := by
  induction es with
  | nil => simp [insertEntries]
  | cons e rest ih =>
      obtain ⟨k₀, a₀⟩ := e
      simp only [insertEntries]
      split_ifs with hLess hEq
      · simp
      · subst hEq
        simp
      · simp only [List.map_cons, List.mem_cons, ih]
        tauto

theorem insertEntries_sorted {k : κ} {a : α} {es : List (κ × α)}
    (h : (es.map Prod.fst).Pairwise (· < ·)) :
    ((insertEntries k a es).map Prod.fst).Pairwise (· < ·) := by
  induction es with
  | nil => simp [insertEntries]
  | cons e rest ih =>
      obtain ⟨k₀, a₀⟩ := e
      simp only [List.map_cons, List.pairwise_cons] at h
      simp only [insertEntries]
      split_ifs with hLess hEq
      · simp only [List.map_cons, List.pairwise_cons, List.mem_cons]
        refine ⟨?_, h.1, h.2⟩
        rintro k' (rfl | hMem)
        · exact hLess
        · exact lt_trans hLess (h.1 k' hMem)
      · simp only [List.map_cons, List.pairwise_cons]
        exact h
      · simp only [List.map_cons, List.pairwise_cons]
        refine ⟨fun k' hMem => ?_, ih h.2⟩
        rcases mem_insertEntries_keys.mp hMem with rfl | hOld
        · exact lt_of_le_of_ne (not_lt.mp hLess) hEq
        · exact h.1 k' hOld

/-- Inserting commutes with mapping the values. -/
theorem map_insertEntries {β : Type} (f : α → β) (k : κ) (a : α) (es : List (κ × α)) :
    (insertEntries k a es).map (fun e => (e.1, f e.2)) =
      insertEntries k (f a) (es.map fun e => (e.1, f e.2)) := by
  induction es with
  | nil => rfl
  | cons e rest ih =>
      obtain ⟨k₀, a₀⟩ := e
      simp only [insertEntries, List.map_cons]
      split_ifs
      · rfl
      · rfl
      · rw [List.map_cons, ih]

/-- Insert under a new key; a key that is present keeps its value. -/
def insert (m : OrderedMap κ α) (k : κ) (a : α) : OrderedMap κ α :=
  ⟨insertEntries k a m.entries, insertEntries_sorted m.sorted⟩

/-- Change the value under a key in place. -/
def modify (m : OrderedMap κ α) (k : κ) (f : α → α) : OrderedMap κ α where
  entries := m.entries.map fun e => if e.1 = k then (e.1, f e.2) else e
  sorted := by
    have hKeys : (m.entries.map fun e => if e.1 = k then (e.1, f e.2) else e).map Prod.fst =
        m.entries.map Prod.fst := by
      rw [List.map_map]
      refine List.map_congr_left fun e _ => ?_
      by_cases hKey : e.1 = k <;> simp [hKey]
    rw [hKeys]
    exact m.sorted

/-! ## Lookups -/

@[simp] theorem find?_empty (k : κ) : (empty : OrderedMap κ α).find? k = none := rfl

theorem mem_keys_iff {m : OrderedMap κ α} {k : κ} : k ∈ m.keys ↔ (m.find? k).isSome := by
  obtain ⟨es, hSorted⟩ := m
  simp only [keys, find?]
  clear hSorted
  induction es with
  | nil => simp [lookup]
  | cons e rest ih =>
      obtain ⟨k₀, a₀⟩ := e
      by_cases hKey : k₀ = k
      · simp [lookup, hKey]
      · have hKey' : ¬ k = k₀ := fun h => hKey h.symm
        simp only [List.map_cons, List.mem_cons, hKey', false_or, lookup, hKey, if_false]
        exact ih

/-- A lookup finds what the entries have under the key. -/
theorem find?_eq_some_iff {m : OrderedMap κ α} {k : κ} {a : α} :
    m.find? k = some a ↔ (k, a) ∈ m.entries := by
  obtain ⟨es, hSorted⟩ := m
  show lookup k es = some a ↔ (k, a) ∈ es
  induction es with
  | nil => simp [lookup]
  | cons e rest ih =>
      obtain ⟨k₀, a₀⟩ := e
      simp only [List.map_cons, List.pairwise_cons] at hSorted
      by_cases hKey : k₀ = k
      · subst hKey
        have hAbsent : (k₀, a) ∉ rest := fun hMem =>
          lt_irrefl k₀ (hSorted.1 k₀ (List.mem_map_of_mem hMem))
        simp [lookup, hAbsent, eq_comm]
      · have hKey' : ¬ k = k₀ := fun h => hKey h.symm
        simp [lookup, hKey, hKey', ih hSorted.2]

theorem lookup_insertEntries {k k' : κ} {a : α} {es : List (κ × α)}
    (h : (es.map Prod.fst).Pairwise (· < ·)) :
    lookup k' (insertEntries k a es) =
      if k' = k then some ((lookup k es).getD a) else lookup k' es := by
  induction es with
  | nil =>
      by_cases hKey : k' = k
      · simp [insertEntries, lookup, hKey]
      · have hKey' : ¬ k = k' := fun h => hKey h.symm
        simp [insertEntries, lookup, hKey, hKey']
  | cons e rest ih =>
      obtain ⟨k₀, a₀⟩ := e
      simp only [List.map_cons, List.pairwise_cons] at h
      simp only [insertEntries]
      by_cases hLess : k < k₀
      · -- The new key goes in front, so it was absent: every present key is larger.
        have hAbsent : lookup k ((k₀, a₀) :: rest) = none := by
          by_contra hSome
          have hMem : k ∈ (OrderedMap.mk ((k₀, a₀) :: rest) (by simpa using h)).keys :=
            mem_keys_iff.mpr (Option.isSome_iff_ne_none.mpr hSome)
          rcases List.mem_cons.mp hMem with hHead | hTail
          · exact absurd (hHead ▸ hLess) (lt_irrefl _)
          · exact absurd (lt_trans hLess (h.1 k hTail)) (lt_irrefl k)
        rw [if_pos hLess, hAbsent]
        by_cases hKey : k' = k
        · simp [lookup, hKey]
        · have hKey' : ¬ k = k' := fun h => hKey h.symm
          simp [lookup, hKey, hKey']
      · rw [if_neg hLess]
        by_cases hEq : k₀ = k
        · subst hEq
          by_cases hKey : k' = k₀
          · simp [lookup, hKey]
          · simp [hKey]
        · by_cases hKey : k' = k
          · subst hKey
            simp [lookup, hEq, ih h.2]
          · simp [lookup, hEq, hKey, ih h.2]

theorem find?_insert (m : OrderedMap κ α) (k k' : κ) (a : α) :
    (m.insert k a).find? k' = if k' = k then some ((m.find? k).getD a) else m.find? k' :=
  lookup_insertEntries m.sorted

theorem find?_modify (m : OrderedMap κ α) (k k' : κ) (f : α → α) :
    (m.modify k f).find? k' = if k' = k then (m.find? k).map f else m.find? k' := by
  obtain ⟨es, hSorted⟩ := m
  simp only [find?, modify]
  clear hSorted
  induction es with
  | nil => simp [lookup]
  | cons e rest ih =>
      obtain ⟨k₀, a₀⟩ := e
      simp only [List.map_cons, lookup]
      by_cases hHere : k₀ = k
      · subst hHere
        by_cases hKey : k' = k₀
        · simp [hKey]
        · have hKey' : ¬ k₀ = k' := fun h => hKey h.symm
          simp only [if_true, hKey', if_false, ih, hKey]
      · simp only [hHere, if_false, ih]
        by_cases hKey : k' = k
        · subst hKey
          simp [hHere]
        · simp [hKey]

/-- Set the value under a key, whether or not it is present. -/
def assign (m : OrderedMap κ α) (k : κ) (a : α) : OrderedMap κ α := (m.insert k a).modify k fun _ => a

theorem find?_assign (m : OrderedMap κ α) (k k' : κ) (a : α) :
    (m.assign k a).find? k' = if k' = k then some a else m.find? k' := by
  rw [assign, find?_modify, find?_insert, find?_insert, if_pos rfl]
  by_cases hKey : k' = k <;> simp [hKey]

/-- Maps that answer every lookup alike are equal. -/
theorem ext_find? {m m' : OrderedMap κ α} (h : ∀ k, m.find? k = m'.find? k) : m = m' := by
  have hEntries : m.entries = m'.entries := by
    have hStrict : ∀ m : OrderedMap κ α, m.entries.Pairwise fun e e' => e.1 < e'.1 := fun m =>
      List.pairwise_map.mp m.sorted
    have hAntisymm : Std.Antisymm fun e e' : κ × α => e.1 < e'.1 :=
      ⟨fun _ _ hLess hGreater => absurd hLess (lt_asymm hGreater)⟩
    have hIrrefl : Std.Irrefl fun e e' : κ × α => e.1 < e'.1 := ⟨fun _ => lt_irrefl _⟩
    refine List.Pairwise.eq_of_mem_iff (hStrict m) (hStrict m') fun e => ?_
    obtain ⟨k, a⟩ := e
    rw [← find?_eq_some_iff, ← find?_eq_some_iff, h k]
  obtain ⟨es, hSorted⟩ := m
  obtain ⟨es', hSorted'⟩ := m'
  cases hEntries
  rfl

/-- What a key has after pairs of distinct keys were assigned. -/
theorem find?_foldl_assign {pairs : List (κ × α)} (hKeys : (pairs.map Prod.fst).Nodup) (m : OrderedMap κ α) (k : κ)
    (a : α) :
    (pairs.foldl (fun m p => m.assign p.1 p.2) m).find? k = some a ↔
      (k, a) ∈ pairs ∨ k ∉ pairs.map Prod.fst ∧ m.find? k = some a := by
  induction pairs generalizing m with
  | nil => simp
  | cons p rest ih =>
      obtain ⟨k₀, a₀⟩ := p
      simp only [List.map_cons, List.nodup_cons] at hKeys
      rw [List.foldl_cons, ih hKeys.2, find?_assign]
      by_cases hKey : k = k₀
      · subst hKey
        have hAbsent : (k, a) ∉ rest := fun hMem => hKeys.1 (List.mem_map_of_mem hMem)
        simp [hKeys.1, hAbsent, eq_comm]
      · simp [hKey]

/-- Assigning the entries of a map to the empty map, in whatever order, gives the map. -/
theorem foldl_assign_perm {m : OrderedMap κ α} {pairs : List (κ × α)} (hPerm : pairs.Perm m.entries) :
    pairs.foldl (fun m p => m.assign p.1 p.2) empty = m := by
  have hKeys : (pairs.map Prod.fst).Nodup :=
    (hPerm.map Prod.fst).nodup_iff.mpr (m.sorted.imp fun hLess => hLess.ne)
  refine ext_find? fun k => Option.ext fun a => ?_
  rw [find?_foldl_assign hKeys, find?_empty, hPerm.mem_iff, find?_eq_some_iff]
  simp

/-! ## Inserting under a key that is present -/

theorem insertEntries_of_mem {k : κ} {a : α} {es : List (κ × α)}
    (hSorted : (es.map Prod.fst).Pairwise (· < ·)) (hMem : k ∈ es.map Prod.fst) :
    insertEntries k a es = es := by
  induction es with
  | nil => simp at hMem
  | cons e rest ih =>
      obtain ⟨k₀, a₀⟩ := e
      simp only [List.map_cons, List.pairwise_cons] at hSorted
      simp only [List.map_cons, List.mem_cons] at hMem
      rcases hMem with rfl | hMem
      · simp [insertEntries]
      · have hLess : k₀ < k := hSorted.1 k hMem
        rw [insertEntries, if_neg (not_lt_of_gt hLess), if_neg hLess.ne, ih hSorted.2 hMem]

theorem insert_of_isSome {m : OrderedMap κ α} {k : κ} (hSome : (m.find? k).isSome) (a : α) :
    m.insert k a = m := by
  obtain ⟨es, hSorted⟩ := m
  have hMem : k ∈ es.map Prod.fst := mem_keys_iff.mpr hSome
  simp only [insert, insertEntries_of_mem hSorted hMem]

/-! ## What stays when a key is inserted -/

theorem sublist_insertEntries (k : κ) (a : α) (es : List (κ × α)) : es.Sublist (insertEntries k a es) := by
  induction es with
  | nil => exact List.nil_sublist _
  | cons e rest ih =>
      simp only [insertEntries]
      split_ifs
      · exact List.sublist_cons_self _ _
      · exact List.Sublist.refl _
      · exact ih.cons_cons _

theorem sublist_insert (m : OrderedMap κ α) (k : κ) (a : α) : m.entries.Sublist (m.insert k a).entries :=
  sublist_insertEntries k a m.entries

theorem keys_nodup (m : OrderedMap κ α) : m.keys.Nodup :=
  m.sorted.imp fun hLess => hLess.ne

end OrderedMap
