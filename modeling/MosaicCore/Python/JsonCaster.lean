import Mathlib.Data.String.Basic
import MosaicCore.Library.OrderedMap
import MosaicCore.Library.ThrowingSteps

/-!
# JSON at the Python boundary

The `Json::Value` type caster of `bind_data_channel.cpp`.  Nested values go through a pair of converters that are
inverse to each other, but for unsigned integers that have no signed form.  The root goes through a loop over its
members, whatever it is, and a value that has none becomes an empty dict.

The doubles are a type `ρ`; both converters hand them on as they are.
-/

namespace MosaicCore

open ThrowingSteps

/-! ## JSON values -/

/-- `Json::Value` with its eight types. -/
inductive JsonValue (ρ : Type)
  | null
  | bool (value : Bool)
  | int (value : Int64)
  | uint (value : UInt64)
  | real (value : ρ)
  | string (value : String)
  | array (items : List (JsonValue ρ))
  /-- The members in the order of their keys. -/
  | object (members : List (String × JsonValue ρ))

namespace JsonValue

variable {ρ : Type}

/-- The members of an object are a `std::map`: each key is there once, and they are in order. -/
inductive WellFormed : JsonValue ρ → Prop
  | null : WellFormed .null
  | bool (value : Bool) : WellFormed (.bool value)
  | int (value : Int64) : WellFormed (.int value)
  | uint (value : UInt64) : WellFormed (.uint value)
  | real (value : ρ) : WellFormed (.real value)
  | string (value : String) : WellFormed (.string value)
  | array {items : List (JsonValue ρ)} (hItems : ∀ v ∈ items, WellFormed v) : WellFormed (.array items)
  | object {members : List (String × JsonValue ρ)} (hSorted : (members.map Prod.fst).Pairwise (· < ·))
      (hMembers : ∀ m ∈ members, WellFormed m.2) : WellFormed (.object members)

/-- The number that an integer of either type stands for. -/
def integer : JsonValue ρ → Option Int
  | .int value => some value.toInt
  | .uint value => some value.toNat
  | _ => none

/-- Two values are the same, an integer being compared by its number. -/
inductive Agree : JsonValue ρ → JsonValue ρ → Prop
  | null : Agree .null .null
  | bool (value : Bool) : Agree (.bool value) (.bool value)
  | integer {v w : JsonValue ρ} {n : Int} (hLeft : v.integer = some n) (hRight : w.integer = some n) : Agree v w
  | real (value : ρ) : Agree (.real value) (.real value)
  | string (value : String) : Agree (.string value) (.string value)
  | array {xs ys : List (JsonValue ρ)} (hItems : List.Forall₂ Agree xs ys) : Agree (.array xs) (.array ys)
  | object {xs ys : List (String × JsonValue ρ)} (hKeys : xs.map Prod.fst = ys.map Prod.fst)
      (hMembers : List.Forall₂ Agree (xs.map Prod.snd) (ys.map Prod.snd)) : Agree (.object xs) (.object ys)

/-- What a loop from `begin()` to `end()` visits, under `it.name()`: an item of an array has no name, and what is
neither an array nor an object has nothing to visit. -/
def visited : JsonValue ρ → List (String × JsonValue ρ)
  | .array items => items.map fun v => ("", v)
  | .object members => members
  | _ => []

/-- `obj[key] = value` for one pair after the other, from an empty object. -/
def objectOf (pairs : List (String × JsonValue ρ)) : JsonValue ρ :=
  .object (pairs.foldl (fun m p => m.assign p.1 p.2) OrderedMap.empty).entries

end JsonValue

/-- A value as `Json::parseFromStream` delivers it. -/
structure JsonDocument (ρ : Type) where
  value : JsonValue ρ
  wellFormed : value.WellFormed

/-! ## Python values -/

/-- The key of a dict: a text, or an object of another type with what `cast<std::string>` makes of it. -/
inductive PyKey
  | str (value : String)
  | other (text : Option String)
  deriving DecidableEq

/-- A Python object, as far as the casters look at it. -/
inductive PyValue (ρ : Type)
  | none
  | bool (value : Bool)
  | int (value : Int)
  | float (value : ρ)
  | str (value : String)
  | list (items : List (PyValue ρ))
  /-- The entries in the order they were put in. -/
  | dict (entries : List (PyKey × PyValue ρ))
  /-- An object of a type that none of the `isinstance` checks is about. -/
  | other (type : String)

/-- Two objects have the same type and the same contents; the order of a dict's entries does not count. -/
inductive PyValue.Same {ρ : Type} : PyValue ρ → PyValue ρ → Prop
  | none : Same .none .none
  | bool (value : Bool) : Same (.bool value) (.bool value)
  | int (value : Int) : Same (.int value) (.int value)
  | float (value : ρ) : Same (.float value) (.float value)
  | str (value : String) : Same (.str value) (.str value)
  | list {xs ys : List (PyValue ρ)} (hItems : List.Forall₂ Same xs ys) : Same (.list xs) (.list ys)
  | dict {d e e' : List (PyKey × PyValue ρ)} (hOrder : e.Perm e') (hKeys : d.map Prod.fst = e'.map Prod.fst)
      (hValues : List.Forall₂ Same (d.map Prod.snd) (e'.map Prod.snd)) : Same (.dict d) (.dict e)
  | other (type : String) : Same (.other type) (.other type)

/-- `pybind11::cast_error`. -/
inductive PyError
  | castError
  deriving DecidableEq

/-! ## The caster -/

namespace JsonCaster

variable {ρ : Type}

/-- `d[key] = value`. -/
def setItem (key : PyKey) (value : PyValue ρ) : List (PyKey × PyValue ρ) → List (PyKey × PyValue ρ)
  | [] => [(key, value)]
  | e :: rest => if e.1 = key then (key, value) :: rest else e :: setItem key value rest

/-- A dict that is filled by one assignment after the other. -/
def dictOf (entries : List (PyKey × PyValue ρ)) : PyValue ρ :=
  .dict (entries.foldl (fun d e => setItem e.1 e.2 d) [])

mutual

/-- `json_to_pyobj`. -/
def jsonToPyobj : JsonValue ρ → PyValue ρ
  | .null => .none
  | .bool value => .bool value
  | .int value => .int value.toInt
  | .uint value => .int value.toNat
  | .real value => .float value
  | .string value => .str value
  | .array items => .list (itemsToPyobj items)
  | .object members => dictOf (membersToPyobj members)

def itemsToPyobj : List (JsonValue ρ) → List (PyValue ρ)
  | [] => []
  | v :: rest => jsonToPyobj v :: itemsToPyobj rest

def membersToPyobj : List (String × JsonValue ρ) → List (PyKey × PyValue ρ)
  | [] => []
  | m :: rest => (.str m.1, jsonToPyobj m.2) :: membersToPyobj rest

end

/-- `key.cast<std::string>()`. -/
def keyToString : PyKey → Except PyError String
  | .str value => .ok value
  | .other (some text) => .ok text
  | .other none => .error .castError

/-- `src.cast<Json::Int64>()` of an `int`. -/
def castInt64 (value : Int) : Except PyError Int64 :=
  if Int64.minValue.toInt ≤ value ∧ value ≤ Int64.maxValue.toInt then .ok (Int64.ofInt value) else .error .castError

mutual

/-- `pyobj_to_json`. -/
def pyobjToJson : PyValue ρ → Except PyError (JsonValue ρ)
  | .none => .ok .null
  | .bool value => .ok (.bool value)
  | .int value => do pure (.int (← castInt64 value))
  | .float value => .ok (.real value)
  | .str value => .ok (.string value)
  | .list items => do pure (.array (← itemsToJson items))
  | .dict entries => do pure (.objectOf (← entriesToJson entries))
  | .other _ => .ok .null

def itemsToJson : List (PyValue ρ) → Except PyError (List (JsonValue ρ))
  | [] => .ok []
  | v :: rest => do
      let item ← pyobjToJson v
      pure (item :: (← itemsToJson rest))

/-- The assignments of a loop over a dict; the value is converted before the key. -/
def entriesToJson : List (PyKey × PyValue ρ) → Except PyError (List (String × JsonValue ρ))
  | [] => .ok []
  | e :: rest => do
      let value ← pyobjToJson e.2
      let key ← keyToString e.1
      pure ((key, value) :: (← entriesToJson rest))

end

/-- `type_caster<Json::Value>::load`; `none` for `false`. -/
def load : PyValue ρ → Except PyError (Option (JsonValue ρ))
  | .dict entries => do pure (some (.objectOf (← entriesToJson entries)))
  | _ => .ok none

/-- `type_caster<Json::Value>::cast`. -/
def cast (src : JsonValue ρ) : PyValue ρ :=
  dictOf (src.visited.map fun m => (.str m.1, jsonToPyobj m.2))

/-! ## What the converters give -/

theorem itemsToPyobj_eq_map (items : List (JsonValue ρ)) : itemsToPyobj items = items.map jsonToPyobj := by
  induction items with
  | nil => rfl
  | cons v rest ih => rw [itemsToPyobj, ih, List.map_cons]

theorem membersToPyobj_eq_map (members : List (String × JsonValue ρ)) :
    membersToPyobj members = members.map fun m => (.str m.1, jsonToPyobj m.2) := by
  induction members with
  | nil => rfl
  | cons m rest ih => rw [membersToPyobj, ih, List.map_cons]

theorem itemsToJson_eq_mapM (items : List (PyValue ρ)) : itemsToJson items = items.mapM pyobjToJson := by
  induction items with
  | nil => rfl
  | cons v rest ih => rw [itemsToJson, ih, List.mapM_cons]

/-- Setting a key that is not there puts it at the end. -/
theorem setItem_of_absent {key : PyKey} {value : PyValue ρ} {d : List (PyKey × PyValue ρ)}
    (hAbsent : key ∉ d.map Prod.fst) : setItem key value d = d ++ [(key, value)] := by
  induction d with
  | nil => rfl
  | cons e rest ih =>
      simp only [List.map_cons, List.mem_cons, not_or] at hAbsent
      rw [setItem, if_neg (Ne.symm hAbsent.1), ih hAbsent.2, List.cons_append]

/-- A dict filled under different keys has the entries in the order of the assignments. -/
theorem dictOf_of_nodup {entries : List (PyKey × PyValue ρ)} (hKeys : (entries.map Prod.fst).Nodup) :
    dictOf entries = .dict entries := by
  have hFold : ∀ d : List (PyKey × PyValue ρ), ((d ++ entries).map Prod.fst).Nodup →
      entries.foldl (fun d e => setItem e.1 e.2 d) d = d ++ entries := by
    induction entries with
    | nil => simp
    | cons e rest ih =>
        intro d hAll
        have hAbsent : e.1 ∉ d.map Prod.fst := by
          simp only [List.map_append, List.map_cons, List.nodup_append] at hAll
          exact fun hMem => hAll.2.2 _ hMem _ List.mem_cons_self rfl
        rw [List.foldl_cons, setItem_of_absent hAbsent, ih (List.nodup_cons.mp hKeys).2]
        · simp
        · simpa using hAll
  rw [dictOf, hFold [] hKeys, List.nil_append]

/-- A dict filled under one key again and again has that entry only, with the last value. -/
theorem dictOf_same_key {key : PyKey} (values : List (PyValue ρ)) (last : PyValue ρ) :
    dictOf ((values ++ [last]).map fun v => (key, v)) = .dict [(key, last)] := by
  have hFold : ∀ d, d = [] ∨ (∃ v, d = [(key, v)]) →
      ((values ++ [last]).map fun v => (key, v)).foldl (fun d e => setItem e.1 e.2 d) d = [(key, last)] := by
    induction values with
    | nil => rintro d (rfl | ⟨v, rfl⟩) <;> simp [setItem]
    | cons v rest ih =>
        intro d hShape
        refine ih _ (.inr ⟨v, ?_⟩)
        rcases hShape with rfl | ⟨v', rfl⟩ <;> simp [setItem]
  rw [dictOf, hFold [] (.inl rfl)]

theorem nodup_str_keys {members : List (String × JsonValue ρ)} (hSorted : (members.map Prod.fst).Pairwise (· < ·)) :
    ((members.map fun m => (PyKey.str m.1, jsonToPyobj m.2)).map Prod.fst).Nodup := by
  have hKeys : (members.map fun m => (PyKey.str m.1, jsonToPyobj m.2)).map Prod.fst =
      (members.map Prod.fst).map PyKey.str := by
    simp [List.map_map, Function.comp_def]
  rw [hKeys]
  refine List.Nodup.map (fun _ _ hSame => PyKey.str.inj hSame) ?_
  exact hSorted.imp fun hLess => hLess.ne

/-- An object becomes a dict with its members in order. -/
theorem jsonToPyobj_object {members : List (String × JsonValue ρ)}
    (hSorted : (members.map Prod.fst).Pairwise (· < ·)) :
    jsonToPyobj (.object members) = .dict (members.map fun m => (.str m.1, jsonToPyobj m.2)) := by
  rw [jsonToPyobj, membersToPyobj_eq_map, dictOf_of_nodup (nodup_str_keys hSorted)]

/-- At the root an object is converted as it is anywhere else. -/
theorem cast_object (members : List (String × JsonValue ρ)) :
    cast (.object members) = jsonToPyobj (.object members) := by
  rw [cast, jsonToPyobj, membersToPyobj_eq_map]
  rfl

/-- At the root the items of an array are written over each other. -/
theorem cast_array (items : List (JsonValue ρ)) (last : JsonValue ρ) :
    cast (.array (items ++ [last])) = .dict [(.str "", jsonToPyobj last)] := by
  have hEntries : (JsonValue.array (items ++ [last])).visited.map (fun m => (PyKey.str m.1, jsonToPyobj m.2)) =
      (items.map jsonToPyobj ++ [jsonToPyobj last]).map fun v => (PyKey.str "", v) := by
    simp [JsonValue.visited, Function.comp_def]
  rw [cast, hEntries, dictOf_same_key]

end JsonCaster

end MosaicCore
