import Mathlib.Data.List.Forall2
import MosaicCore.Library.ThrowingSteps

/-!
# YAML documents as yaml-cpp shows them

A parsed document is a tree.  A `YAML::Node` is a handle to a place in it, or to no place at all: a lookup that
finds nothing gives an undefined node, and so does the wrong half of a loop variable.  Reading on from an undefined
node throws.

What `as<std::string>` makes of a null differs between versions of yaml-cpp, so it is a parameter: `none` where it
throws, and a text where it gives that text.
-/

namespace MosaicCore

open ThrowingSteps

/-- A parsed YAML document. -/
inductive Yaml
  | null
  | scalar (text : String)
  | sequence (items : List Yaml)
  | map (entries : List (Yaml × Yaml))

/-- What reading a configuration throws. -/
inductive ReadError
  | invalidArgument (what : String)
  /-- `YAML::InvalidNode`. -/
  | invalidNode
  /-- `YAML::BadSubscript`. -/
  | badSubscript (key : String)
  /-- `YAML::TypedBadConversion<std::string>`. -/
  | badConversion
  /-- `YAML::BadFile` and `YAML::ParserException`. -/
  | loadFile (what : String)
  deriving DecidableEq, Repr

namespace Yaml

/-- A key equals a text if it is a scalar with that text. -/
def isKey (key : String) : Yaml → Bool
  | .scalar text => text = key
  | _ => false

/-- The value of the first entry under a key. -/
def lookup (key : String) : List (Yaml × Yaml) → Option Yaml
  | [] => none
  | e :: rest => if e.1.isKey key then some e.2 else lookup key rest

/-- The value under a key of a map. -/
def field (t : Yaml) (key : String) : Option Yaml :=
  match t with
  | .map entries => lookup key entries
  | _ => none

/-- The text that `as<std::string>` gives. -/
def text (nullText : Option String) : Yaml → Option String
  | .scalar text => some text
  | .null => nullText
  | _ => none

/-- What a loop gets to see as nodes: the items of a sequence; of a null or a scalar, nothing; and of the entries of
a map, none is a node. -/
def looped : Yaml → Option (List Yaml)
  | .sequence items => some items
  | .map (_ :: _) => none
  | _ => some []

theorem isKey_iff {key : String} {k : Yaml} : k.isKey key = true ↔ k = .scalar key := by
  cases k <;> simp [isKey]

/-- An entry whose key no other entry has is the one that is found. -/
theorem lookup_of_unique {entries : List (Yaml × Yaml)} {key : String} {y : Yaml} (hMem : (.scalar key, y) ∈ entries)
    (hUnique : ∀ y', (.scalar key, y') ∈ entries → y' = y) : lookup key entries = some y := by
  induction entries with
  | nil => cases hMem
  | cons e rest ih =>
      obtain ⟨k, v⟩ := e
      by_cases hKey : k.isKey key = true
      · rw [lookup, if_pos hKey]
        rw [isKey_iff.mp hKey] at hUnique
        rw [hUnique v List.mem_cons_self]
      · rw [lookup, if_neg hKey]
        refine ih ?_ fun y' hMem' => hUnique y' (List.mem_cons_of_mem _ hMem')
        rcases List.mem_cons.mp hMem with hHead | hRest
        · exact absurd (isKey_iff.mpr (Prod.mk.inj hHead).1.symm) hKey
        · exact hRest

theorem lookup_of_absent {entries : List (Yaml × Yaml)} {key : String} (hAbsent : ∀ y, (.scalar key, y) ∉ entries) :
    lookup key entries = none := by
  induction entries with
  | nil => rfl
  | cons e rest ih =>
      obtain ⟨k, v⟩ := e
      have hKey : ¬ k.isKey key = true := by
        intro hKey
        rw [isKey_iff.mp hKey] at hAbsent
        exact hAbsent v List.mem_cons_self
      rw [lookup, if_neg hKey]
      exact ih fun y hMem => hAbsent y (List.mem_cons_of_mem _ hMem)

end Yaml

/-! ## Nodes -/

/-- A `YAML::Node`: a place in the tree, or undefined. -/
abbrev YamlNode := Option Yaml

namespace YamlNode

/-- `node[key]` of a constant node. -/
def get (node : YamlNode) (key : String) : Except ReadError YamlNode :=
  match node with
  | none => .error .invalidNode
  | some (.scalar _) => .error (.badSubscript key)
  | some t => .ok (t.field key)

/-- `node.as<std::string>()`. -/
def asString (nullText : Option String) : YamlNode → Except ReadError String
  | none => .error .invalidNode
  | some t =>
      match t.text nullText with
      | some text => .ok text
      | none => .error .badConversion

/-- What a loop over a node gives: over a sequence it is a node, over a map a pair, and the other half is undefined. -/
structure Item where
  node : YamlNode := none
  first : YamlNode := none
  second : YamlNode := none

/-- The items of a loop over a node. -/
def items : YamlNode → List Item
  | some (.sequence items) => items.map fun t => { node := some t }
  | some (.map entries) => entries.map fun e => { first := some e.1, second := some e.2 }
  | _ => []

theorem get_some_iff {t : Yaml} {key : String} {value : YamlNode} :
    get (some t) key = .ok value ↔ (∀ text, t ≠ .scalar text) ∧ value = t.field key := by
  cases t <;> simp [get, eq_comm]

theorem asString_some_iff {nullText : Option String} {t : Yaml} {text : String} :
    asString nullText (some t) = .ok text ↔ t.text nullText = some text := by
  simp only [asString]
  cases t.text nullText with
  | none => simp
  | some text' => simp

end YamlNode

/-! ## Loops over nodes -/

/-- A loop over nodes returns the results for the items of the tree, where no entry of a map gets in its way. -/
theorem loop_eq_ok_iff {β : Type} {f : YamlNode → Except ReadError β} (hUndefined : ∀ b, f none ≠ .ok b) {t : Yaml}
    {ys : List β} :
    ((YamlNode.items (some t)).mapM fun item => f item.node) = .ok ys ↔
      ∃ ts, t.looped = some ts ∧ List.Forall₂ (fun t y => f (some t) = .ok y) ts ys := by
  rw [mapM_eq_ok_iff]
  cases t with
  | null => simp [YamlNode.items, Yaml.looped]
  | scalar text => simp [YamlNode.items, Yaml.looped]
  | sequence items => simp [YamlNode.items, Yaml.looped, List.forall₂_map_left_iff]
  | map entries =>
      cases entries with
      | nil => simp [YamlNode.items, Yaml.looped]
      | cons e rest =>
          simp only [YamlNode.items, Yaml.looped, List.map_cons, List.forall₂_cons_left_iff]
          constructor
          · rintro ⟨y, ys', hHead, -⟩
            exact absurd hHead (hUndefined y)
          · rintro ⟨ts, hNone, -⟩
            cases hNone

end MosaicCore
