import MosaicCore.Python.JsonCaster

/-!
# What survives the way to Python and back

Between nested values nothing is lost on the way to Python, and everything comes back whose integers fit in 64 bits
with a sign.  At the root this is so for most objects, but for nothing else.
-/

namespace MosaicCore

open ThrowingSteps

namespace JsonCaster

variable {ρ : Type}

/-! ## Distinct values stay distinct -/

/-- Of two texts as keys, the first comes before the second. -/
def StrLess (key key' : PyKey) : Prop := ∃ text text', key = .str text ∧ key' = .str text' ∧ text < text'

/-- Two dicts with the same entries have them in the same order if their keys are texts in order. -/
theorem eq_of_perm {d e : List (PyKey × PyValue ρ)} (hOrder : d.Perm e) (hLeft : (d.map Prod.fst).Pairwise StrLess)
    (hRight : (e.map Prod.fst).Pairwise StrLess) : d = e := by
  have hIrrefl : Std.Irrefl fun p q : PyKey × PyValue ρ => StrLess p.1 q.1 := by
    refine ⟨?_⟩
    rintro p ⟨text, text', hText, hText', hLess⟩
    cases hText.symm.trans hText'
    exact lt_irrefl _ hLess
  have hAntisymm : Std.Antisymm fun p q : PyKey × PyValue ρ => StrLess p.1 q.1 := by
    refine ⟨?_⟩
    rintro p q ⟨text, text', hText, hText', hLess⟩ ⟨text₂, text₂', hText₂, hText₂', hGreater⟩
    cases hText.symm.trans hText₂'
    cases hText'.symm.trans hText₂
    exact absurd hLess (lt_asymm hGreater)
  exact List.Pairwise.eq_of_mem_iff (List.pairwise_map.mp hLeft) (List.pairwise_map.mp hRight) fun _ => hOrder.mem_iff

theorem pairwise_strLess {members : List (String × JsonValue ρ)}
    (hSorted : (members.map Prod.fst).Pairwise (· < ·)) :
    ((members.map fun m => (PyKey.str m.1, jsonToPyobj m.2)).map Prod.fst).Pairwise StrLess := by
  rw [List.map_map, List.pairwise_map]
  exact (List.pairwise_map.mp hSorted).imp fun hLess => ⟨_, _, rfl, rfl, hLess⟩

/-- The dicts of two objects have their entries in one order, so each entry is compared with its counterpart. -/
theorem same_object {xs ys : List (String × JsonValue ρ)} (hLeft : (xs.map Prod.fst).Pairwise (· < ·))
    (hRight : (ys.map Prod.fst).Pairwise (· < ·))
    (hSame : PyValue.Same (jsonToPyobj (.object xs)) (jsonToPyobj (.object ys))) :
    xs.map Prod.fst = ys.map Prod.fst ∧
      List.Forall₂ (fun x y => PyValue.Same (jsonToPyobj x) (jsonToPyobj y)) (xs.map Prod.snd) (ys.map Prod.snd) := by
  rw [jsonToPyobj_object hLeft, jsonToPyobj_object hRight] at hSame
  cases hSame with
  | dict hOrder hKeys hValues =>
      have hSorted := pairwise_strLess hLeft
      rw [hKeys] at hSorted
      obtain rfl := eq_of_perm hOrder (pairwise_strLess hRight) hSorted
      constructor
      · refine List.map_injective_iff.mpr (fun _ _ hText => PyKey.str.inj hText) ?_
        simpa [Function.comp_def] using hKeys
      · simpa [List.forall₂_map_left_iff, List.forall₂_map_right_iff] using hValues

/-- What becomes a Python `int` is an integer with that number. -/
theorem integer_of_pyobj {v : JsonValue ρ} {n : Int} (hInt : jsonToPyobj v = .int n) : v.integer = some n := by
  cases v with
  | int value => exact congrArg some (PyValue.int.inj hInt)
  | uint value => exact congrArg some (PyValue.int.inj hInt)
  | _ => cases hInt

theorem agree_of_same {v w : JsonValue ρ} (hV : v.WellFormed) (hW : w.WellFormed)
    (hSame : PyValue.Same (jsonToPyobj v) (jsonToPyobj w)) : v.Agree w := by
  have hNumber : ∀ {n : Int} {p : PyValue ρ}, PyValue.Same (.int n) p → p = .int n := by
    rintro n p ⟨⟩
    rfl
  -- The type of the Python object tells the type of `w`, but for the two types of integers.
  induction hV generalizing w with
  | null =>
      cases hW <;> cases hSame
      exact .null
  | bool value =>
      cases hW <;> cases hSame
      exact .bool value
  | int value => exact .integer rfl (integer_of_pyobj (hNumber hSame))
  | uint value => exact .integer rfl (integer_of_pyobj (hNumber hSame))
  | real value =>
      cases hW <;> cases hSame
      exact .real value
  | string value =>
      cases hW <;> cases hSame
      exact .string value
  | array hItems ih =>
      cases hW with
      | array hItems' =>
          cases hSame with
          | list hAll =>
              rw [itemsToPyobj_eq_map, itemsToPyobj_eq_map, List.forall₂_map_left_iff,
                List.forall₂_map_right_iff] at hAll
              exact .array (forall₂_imp_of_mem hAll fun x hX y hY hXY => ih x hX (hItems' y hY) hXY)
      | _ => cases hSame
  | object hSorted hMembers ih =>
      cases hW with
      | object hSorted' hMembers' =>
          obtain ⟨hKeys, hValues⟩ := same_object hSorted hSorted' hSame
          refine .object hKeys (forall₂_imp_of_mem hValues ?_)
          intro x hX y hY hXY
          obtain ⟨m, hM, rfl⟩ := List.mem_map.mp hX
          obtain ⟨m', hM', rfl⟩ := List.mem_map.mp hY
          exact ih m hM (hMembers' m' hM') hXY
      | _ => cases hSame

/-! ## Back from Python -/

/-- Every unsigned integer in a value has a signed form of 64 bits. -/
inductive FitsInt64 : JsonValue ρ → Prop
  | null : FitsInt64 .null
  | bool (value : Bool) : FitsInt64 (.bool value)
  | int (value : Int64) : FitsInt64 (.int value)
  | uint {value : UInt64} (hFits : value.toNat < 2 ^ 63) : FitsInt64 (.uint value)
  | real (value : ρ) : FitsInt64 (.real value)
  | string (value : String) : FitsInt64 (.string value)
  | array {items : List (JsonValue ρ)} (hItems : ∀ v ∈ items, FitsInt64 v) : FitsInt64 (.array items)
  | object {members : List (String × JsonValue ρ)} (hMembers : ∀ m ∈ members, FitsInt64 m.2) :
      FitsInt64 (.object members)

theorem castInt64_ok_iff {n : Int} {value : Int64} : castInt64 n = .ok value ↔ value.toInt = n := by
  have hMin : Int64.minValue.toInt = -2 ^ 63 := Int64.toInt_minValue
  have hMax : Int64.maxValue.toInt = 2 ^ 63 - 1 := Int64.toInt_maxValue
  rw [castInt64, hMin, hMax]
  constructor
  · intro h
    split at h
    · rename_i hRange
      cases h
      exact Int64.toInt_ofInt_of_le hRange.1 (by omega)
    · cases h
  · rintro rfl
    have hLow := Int64.le_toInt value
    have hHigh := Int64.toInt_lt value
    rw [if_pos ⟨hLow, by omega⟩, Int64.ofInt_toInt]

/-- One assignment of a loop over a dict. -/
def entryToJson (e : PyKey × PyValue ρ) : Except PyError (String × JsonValue ρ) := do
  let value ← pyobjToJson e.2
  let key ← keyToString e.1
  pure (key, value)

theorem entriesToJson_eq_mapM (entries : List (PyKey × PyValue ρ)) :
    entriesToJson entries = entries.mapM entryToJson := by
  induction entries with
  | nil => rfl
  | cons e rest ih =>
      rw [entriesToJson, ih, List.mapM_cons, entryToJson]
      cases pyobjToJson e.2 with
      | error _ => rfl
      | ok value => cases keyToString e.1 <;> rfl

/-- The entries of a dict that an object became come back under their keys. -/
theorem entryToJson_ok_iff {m : String × JsonValue ρ} {p : String × JsonValue ρ} :
    entryToJson (.str m.1, jsonToPyobj m.2) = .ok p ↔
      p.1 = m.1 ∧ pyobjToJson (jsonToPyobj m.2) = .ok p.2 := by
  simp only [entryToJson, bind_eq_ok_iff]
  constructor
  · rintro ⟨value, hValue, key, hKey, hSame⟩
    cases hKey
    cases hSame
    exact ⟨rfl, hValue⟩
  · rintro ⟨hKey, hValue⟩
    exact ⟨p.2, hValue, m.1, rfl, by rw [← hKey]; rfl⟩

theorem keys_eq_of_forall₂ {xs ys : List (String × JsonValue ρ)} (hAll : List.Forall₂ (fun x y => y.1 = x.1) xs ys) :
    xs.map Prod.fst = ys.map Prod.fst := by
  induction hAll with
  | nil => rfl
  | cons hHead _ ih => rw [List.map_cons, List.map_cons, ih, hHead]

/-- Pairs that are in order become the members of an object. -/
theorem objectOf_of_sorted {pairs : List (String × JsonValue ρ)} (hSorted : (pairs.map Prod.fst).Pairwise (· < ·)) :
    JsonValue.objectOf pairs = .object pairs := by
  have hSame := OrderedMap.foldl_assign_perm (m := ⟨pairs, hSorted⟩) (.refl pairs)
  rw [JsonValue.objectOf, hSame]

/-- What an array became is loaded item by item. -/
theorem array_loads_iff {items : List (JsonValue ρ)} {v' : JsonValue ρ} :
    pyobjToJson (jsonToPyobj (.array items)) = .ok v' ↔
      ∃ items', List.Forall₂ (fun v w => pyobjToJson (jsonToPyobj v) = .ok w) items items' ∧ .array items' = v' := by
  rw [jsonToPyobj, pyobjToJson, bind_eq_ok_iff]
  simp only [itemsToPyobj_eq_map, itemsToJson_eq_mapM, mapM_eq_ok_iff, List.forall₂_map_left_iff]
  simp [pure, Except.pure]

/-- What an object became is loaded member by member, each under its key. -/
theorem object_loads_iff {members : List (String × JsonValue ρ)} {v' : JsonValue ρ}
    (hSorted : (members.map Prod.fst).Pairwise (· < ·)) :
    pyobjToJson (jsonToPyobj (.object members)) = .ok v' ↔
      ∃ members', List.Forall₂ (fun m p => p.1 = m.1 ∧ pyobjToJson (jsonToPyobj m.2) = .ok p.2) members members' ∧
        .object members' = v' := by
  rw [jsonToPyobj_object hSorted, pyobjToJson, bind_eq_ok_iff]
  simp only [entriesToJson_eq_mapM, mapM_eq_ok_iff, List.forall₂_map_left_iff, entryToJson_ok_iff]
  refine exists_congr fun members' => and_congr_right fun hAll => ?_
  have hKeys := keys_eq_of_forall₂ (hAll.imp fun _ _ h => h.1)
  rw [objectOf_of_sorted (hKeys ▸ hSorted)]
  simp [pure, Except.pure]

/-- A value that comes back is the value that went to Python. -/
theorem agree_of_loaded {v v' : JsonValue ρ} (hV : v.WellFormed)
    (hLoaded : pyobjToJson (jsonToPyobj v) = .ok v') : v'.Agree v := by
  induction hV generalizing v' with
  | null =>
      cases hLoaded
      exact .null
  | bool value =>
      cases hLoaded
      exact .bool value
  | int value =>
      obtain ⟨value', hCast, hSame⟩ := bind_eq_ok_iff.mp hLoaded
      cases hSame
      exact .integer (congrArg some (castInt64_ok_iff.mp hCast)) rfl
  | uint value =>
      obtain ⟨value', hCast, hSame⟩ := bind_eq_ok_iff.mp hLoaded
      cases hSame
      exact .integer (congrArg some (castInt64_ok_iff.mp hCast)) rfl
  | real value =>
      cases hLoaded
      exact .real value
  | string value =>
      cases hLoaded
      exact .string value
  | array hItems ih =>
      obtain ⟨items', hAll, rfl⟩ := array_loads_iff.mp hLoaded
      exact .array (forall₂_imp_of_mem hAll fun v hMem _ _ => ih v hMem).flip
  | object hSorted hMembers ih =>
      obtain ⟨members', hAll, rfl⟩ := (object_loads_iff hSorted).mp hLoaded
      refine .object (keys_eq_of_forall₂ (hAll.imp fun _ _ h => h.1)).symm (List.Forall₂.flip ?_)
      rw [List.forall₂_map_left_iff, List.forall₂_map_right_iff]
      exact forall₂_imp_of_mem hAll fun m hMem _ _ h => ih m hMem h.2

/-- A value comes back exactly if its integers fit. -/
theorem loads_iff_fits {v : JsonValue ρ} (hV : v.WellFormed) :
    (∃ v', pyobjToJson (jsonToPyobj v) = .ok v') ↔ FitsInt64 v := by
  induction hV with
  | null => exact ⟨fun _ => .null, fun _ => ⟨_, rfl⟩⟩
  | bool value => exact ⟨fun _ => .bool value, fun _ => ⟨_, rfl⟩⟩
  | int value =>
      refine ⟨fun _ => .int value, fun _ => ⟨.int value, bind_eq_ok_iff.mpr ⟨value, ?_, rfl⟩⟩⟩
      exact castInt64_ok_iff.mpr rfl
  | uint value =>
      constructor
      · rintro ⟨v', hLoaded⟩
        obtain ⟨value', hCast, -⟩ := bind_eq_ok_iff.mp hLoaded
        have hNumber := castInt64_ok_iff.mp hCast
        have hHigh := Int64.toInt_lt value'
        exact .uint (by omega)
      · intro h
        cases h with
        | uint hFits =>
            refine ⟨.int (Int64.ofInt value.toNat), bind_eq_ok_iff.mpr ⟨_, castInt64_ok_iff.mpr ?_, rfl⟩⟩
            exact Int64.toInt_ofInt_of_le (by omega) (by omega)
  | real value => exact ⟨fun _ => .real value, fun _ => ⟨_, rfl⟩⟩
  | string value => exact ⟨fun _ => .string value, fun _ => ⟨_, rfl⟩⟩
  | array hItems ih =>
      simp only [array_loads_iff]
      constructor
      · rintro ⟨v', items', hAll, -⟩
        exact .array fun v hMem => (ih v hMem).mp (exists_forall₂_iff.mp ⟨items', hAll⟩ v hMem)
      · intro h
        cases h with
        | array hFits =>
            obtain ⟨items', hAll⟩ := exists_forall₂_iff.mpr fun v hMem => (ih v hMem).mpr (hFits v hMem)
            exact ⟨_, items', hAll, rfl⟩
  | @object members hSorted hMembers ih =>
      simp only [object_loads_iff hSorted]
      constructor
      · rintro ⟨v', members', hAll, -⟩
        refine .object fun m hMem => (ih m hMem).mp ?_
        obtain ⟨p, -, hValue⟩ := exists_forall₂_iff.mp ⟨members', hAll⟩ m hMem
        exact ⟨p.2, hValue⟩
      · intro h
        cases h with
        | object hFits =>
            have hEach : ∀ m ∈ members,
                ∃ p : String × JsonValue ρ, p.1 = m.1 ∧ pyobjToJson (jsonToPyobj m.2) = .ok p.2 := by
              intro m hMem
              obtain ⟨value, hValue⟩ := (ih m hMem).mpr (hFits m hMem)
              exact ⟨(m.1, value), rfl, hValue⟩
            obtain ⟨members', hAll⟩ := exists_forall₂_iff.mpr hEach
            exact ⟨_, members', hAll, rfl⟩

/-! ## At the root -/

theorem same_refl {v : JsonValue ρ} (hV : v.WellFormed) : PyValue.Same (jsonToPyobj v) (jsonToPyobj v) := by
  induction hV with
  | null => exact .none
  | bool value => exact .bool value
  | int value => exact .int _
  | uint value => exact .int _
  | real value => exact .float value
  | string value => exact .str value
  | array hItems ih =>
      rw [jsonToPyobj, itemsToPyobj_eq_map]
      refine .list ?_
      rw [List.forall₂_map_left_iff, List.forall₂_map_right_iff]
      exact List.forall₂_same.mpr ih
  | object hSorted hMembers ih =>
      rw [jsonToPyobj_object hSorted]
      refine .dict (.refl _) rfl ?_
      simp only [List.map_map, List.forall₂_map_left_iff, List.forall₂_map_right_iff]
      exact List.forall₂_same.mpr ih

/-- What the loop at the root makes of a value. -/
theorem cast_cases (v : JsonValue ρ) :
    cast v = .dict [] ∨
      (∃ items last, v = .array (items ++ [last]) ∧ cast v = .dict [(.str "", jsonToPyobj last)]) ∨
      ∃ m members, v = .object (m :: members) ∧ cast v = jsonToPyobj v := by
  cases v with
  | array items =>
      rcases List.eq_nil_or_concat items with rfl | ⟨items', last, rfl⟩
      · exact .inl rfl
      · rw [List.concat_eq_append]
        exact .inr (.inl ⟨items', last, rfl, cast_array items' last⟩)
  | object members =>
      cases members with
      | nil => exact .inl rfl
      | cons m members => exact .inr (.inr ⟨m, members, rfl, cast_object _⟩)
  | _ => exact .inl rfl

/-- The dict that the last item of an array leaves is the same as itself. -/
theorem same_single {item : JsonValue ρ} (hItem : item.WellFormed) :
    PyValue.Same (.dict [(.str "", jsonToPyobj item)]) (.dict [(.str "", jsonToPyobj item)]) :=
  .dict (.refl _) rfl (.cons (same_refl hItem) .nil)

/-- The object with one member, under the empty key. -/
def single (item : JsonValue ρ) : JsonValue ρ := .object [("", item)]

theorem single_wellFormed {item : JsonValue ρ} (hItem : item.WellFormed) : (single item).WellFormed :=
  .object (by simp) (by simpa using hItem)

theorem cast_single (item : JsonValue ρ) : cast (single item) = .dict [(.str "", jsonToPyobj item)] := rfl

/-- A value goes to Python without being taken for another one, and an object comes back as it was. -/
def Survives (v : JsonDocument ρ) : Prop :=
  (∀ w : JsonDocument ρ, ¬ v.value.Agree w.value → ¬ (cast v.value).Same (cast w.value)) ∧
    ∀ members, v.value = .object members → ∃ v', load (cast v.value) = .ok (some v') ∧ v'.Agree v.value

/-- An object at the root comes back exactly if its integers fit. -/
theorem load_cast_object {members : List (String × JsonValue ρ)}
    (hV : (JsonValue.object members).WellFormed) :
    (∃ v', load (cast (.object members)) = .ok (some v') ∧ v'.Agree (.object members)) ↔
      FitsInt64 (.object members) := by
  have hLoad : ∀ v', load (cast (.object members)) = .ok (some v') ↔
      pyobjToJson (jsonToPyobj (.object members)) = .ok v' := by
    intro v'
    cases hV with
    | object hSorted hMembers =>
        rw [cast_object, jsonToPyobj_object hSorted, load, pyobjToJson, bind_eq_ok_iff, bind_eq_ok_iff]
        simp [pure, Except.pure]
  rw [← loads_iff_fits hV]
  constructor
  · rintro ⟨v', hLoaded, -⟩
    exact ⟨v', (hLoad v').mp hLoaded⟩
  · rintro ⟨v', hLoaded⟩
    exact ⟨v', (hLoad v').mpr hLoaded, agree_of_loaded hV hLoaded⟩

/-- An object with members, and not just one under the empty key, is not taken for another value. -/
theorem agree_of_cast_same {m : String × JsonValue ρ} {members : List (String × JsonValue ρ)} {w : JsonValue ρ}
    (hV : (JsonValue.object (m :: members)).WellFormed) (hW : w.WellFormed)
    (hSingle : ∀ item, .object (m :: members) ≠ single item)
    (hSame : (cast (.object (m :: members))).Same (cast w)) : (JsonValue.object (m :: members)).Agree w := by
  rw [cast_object] at hSame
  rcases cast_cases w with hEmpty | ⟨items, last, rfl, hLast⟩ | ⟨m', members', rfl, hObject⟩
  · -- An empty dict has no entry to be compared with `m`.
    cases hV with
    | object hSorted hMembers =>
        rw [hEmpty, jsonToPyobj_object hSorted] at hSame
        cases hSame with
        | dict hOrder hKeys hValues =>
            obtain rfl := List.nil_perm.mp hOrder
            cases hKeys
  · -- The dict of an array has one entry, under the empty key.
    cases hV with
    | object hSorted hMembers =>
        rw [hLast, jsonToPyobj_object hSorted] at hSame
        cases hSame with
        | dict hOrder hKeys hValues =>
            obtain rfl := List.singleton_perm.mp hOrder
            simp only [List.map_cons, List.map_nil, List.cons.injEq, List.map_eq_nil_iff, PyKey.str.injEq] at hKeys
            obtain ⟨hName, rfl⟩ := hKeys
            exact absurd (by rw [single, ← hName]) (hSingle m.2)
  · rw [hObject] at hSame
    exact agree_of_same hV hW hSame

/-- What becomes an empty dict is taken for null or for `true`. -/
theorem not_distinct_of_empty {v : JsonValue ρ} (hEmpty : cast v = .dict []) :
    ¬ ∀ w : JsonDocument ρ, ¬ v.Agree w.value → ¬ (cast v).Same (cast w.value) := by
  intro hDistinct
  have hTaken : ∀ w : JsonDocument ρ, cast w.value = .dict [] → v.Agree w.value := by
    intro w hAlso
    by_contra hDiffers
    refine hDistinct w hDiffers ?_
    rw [hEmpty, hAlso]
    exact .dict (.refl _) rfl .nil
  have hTrue := hTaken ⟨.bool true, .bool true⟩ rfl
  cases hTaken ⟨.null, .null⟩ rfl with
  | null =>
      cases hTrue with
      | integer hLeft _ => cases hLeft
  | integer _ hRight => cases hRight

/-- An array is taken for the object that has its last item under the empty key. -/
theorem not_distinct_of_array {items : List (JsonValue ρ)} {last : JsonValue ρ}
    (hV : (JsonValue.array (items ++ [last])).WellFormed)
    (hLast : cast (.array (items ++ [last])) = .dict [(.str "", jsonToPyobj last)]) :
    ¬ ∀ w : JsonDocument ρ, ¬ (JsonValue.array (items ++ [last])).Agree w.value →
      ¬ (cast (.array (items ++ [last]))).Same (cast w.value) := by
  intro hDistinct
  cases hV with
  | array hItems =>
      have hItem : last.WellFormed := hItems last (by simp)
      refine hDistinct ⟨single last, single_wellFormed hItem⟩ ?_ ?_
      · intro hAgree
        cases hAgree with
        | integer hLeft _ => cases hLeft
      · rw [hLast, cast_single]
        exact same_single hItem

/-- That object in turn is taken for an array. -/
theorem not_distinct_of_single {item : JsonValue ρ} (hV : (single item).WellFormed) :
    ¬ ∀ w : JsonDocument ρ, ¬ (single item).Agree w.value → ¬ (cast (single item)).Same (cast w.value) := by
  intro hDistinct
  cases hV with
  | object hSorted hMembers =>
      have hItem : item.WellFormed := hMembers ("", item) (by simp)
      refine hDistinct ⟨.array [item], .array (by simpa using hItem)⟩ ?_ ?_
      · intro hAgree
        cases hAgree with
        | integer hLeft _ => cases hLeft
      · rw [cast_single]
        exact same_single hItem

/-- The values that survive are the objects with members, not just one under the empty key, whose integers fit. -/
theorem survives_iff (v : JsonDocument ρ) :
    Survives v ↔ (∃ m members, v.value = .object (m :: members)) ∧ (∀ item, v.value ≠ single item) ∧
      FitsInt64 v.value := by
  obtain ⟨v, hV⟩ := v
  constructor
  · rintro ⟨hDistinct, hBack⟩
    have hObject : ∃ m members, v = .object (m :: members) := by
      rcases cast_cases v with hEmpty | ⟨items, last, rfl, hLast⟩ | ⟨m, members, rfl, -⟩
      · exact absurd hDistinct (not_distinct_of_empty hEmpty)
      · exact absurd hDistinct (not_distinct_of_array hV hLast)
      · exact ⟨m, members, rfl⟩
    refine ⟨hObject, ?_, ?_⟩
    · rintro item rfl
      exact not_distinct_of_single hV hDistinct
    · obtain ⟨m, members, rfl⟩ := hObject
      exact (load_cast_object hV).mp (hBack _ rfl)
  · rintro ⟨⟨m, members, rfl⟩, hSingle, hFits⟩
    refine ⟨fun w hDiffers hSame => hDiffers (agree_of_cast_same hV w.wellFormed hSingle hSame), ?_⟩
    rintro _ ⟨⟩
    exact (load_cast_object hV).mpr hFits

/-- `[1, 2]`. -/
def readings : JsonDocument Rat where
  value := .array [.int 1, .int 2]
  wellFormed := by
    refine .array fun v hMem => ?_
    rcases List.mem_pair.mp hMem with rfl | rfl
    · exact .int 1
    · exact .int 2

/-- An object with the largest unsigned integer. -/
def counter : JsonDocument Rat where
  value := .object [("count", .uint 18446744073709551615)]
  wellFormed := .object (by simp) fun _ hMem => List.mem_singleton.mp hMem ▸ .uint _

/-- `[1, 2]` is taken for an object, and what became of the other one does not load. -/
theorem root_array_and_large_integer_lost : ¬ Survives readings ∧ ¬ Survives counter := by
  constructor
  · rintro ⟨hDistinct, -⟩
    have hV : (JsonValue.array ([.int 1] ++ [.int 2]) : JsonValue Rat).WellFormed := readings.wellFormed
    exact not_distinct_of_array hV rfl hDistinct
  · rintro ⟨-, hBack⟩
    have hFits : FitsInt64 counter.value := (load_cast_object counter.wellFormed).mp (hBack _ rfl)
    cases hFits with
    | object hMembers =>
        cases hMembers ("count", .uint 18446744073709551615) List.mem_cons_self with
        | uint hSmall => exact absurd hSmall (by decide)

end JsonCaster

end MosaicCore
