import Mathlib.Data.Rat.Floor
import MosaicCore.Core.Fault

/-!
# JSON values and their accessors

`Json::Value` as `SignalingClient` uses it.  The accessors throw a `std::exception` on a value of the wrong
kind; a missing member and a member that is `null` are the same thing.

`isTable`, `isText` and `isInt32` say which values the accessors accept.
-/

namespace MosaicCore

open EffectProgram

/-- `Json::Value`. -/
inductive Json
  | null
  | bool (value : Bool)
  | int (value : Int)
  | real (value : Rat)
  | string (value : String)
  | array (items : List Json)
  | object (members : List (String × Json))

/-- A computation that returns or throws a `std::exception`. -/
def orThrow {σ α : Type} : Except String α → Program σ α
  | .ok a => pure a
  | .error what => throw (.exception what)

@[simp] theorem orThrow_ok {σ α : Type} (a : α) : (orThrow (.ok a) : Program σ α) = pure a := rfl

@[simp] theorem orThrow_error {σ α : Type} (what : String) :
    (orThrow (.error what) : Program σ α) = throw (.exception what) := rfl

theorem within_orThrow {σ α : Type} {R : σ → σ → Prop} [IsPreorder σ R] (result : Except String α) :
    Within R (orThrow result : Program σ α) := by
  cases result with
  | ok a => exact within_pure a
  | error what => exact within_throw _

theorem within_orThrow_bind {σ α β : Type} {R : σ → σ → Prop} [IsPreorder σ R] {result : Except String α}
    {k : α → Program σ β} (hk : ∀ a, Within R (k a)) : Within R ((orThrow result : Program σ α) >>= k) :=
  within_bind (within_orThrow result) hk

namespace Json

/-- `operator!`. -/
def isNull : Json → Bool
  | .null => true
  | _ => false

/-- The member of an object, or null. -/
def find (members : List (String × Json)) (key : String) : Json :=
  ((members.find? fun member => member.1 = key).map Prod.snd).getD .null

/-- `operator[](const char*) const`. -/
def get (json : Json) (key : String) : Except String Json :=
  match json with
  | .null => .ok .null
  | .object members => .ok (find members key)
  | _ => .error "in Json::Value::find(begin, end): requires objectValue or nullValue"

/-- `asString`; `realText` is how a double is printed. -/
def asString (realText : Rat → String) : Json → Except String String
  | .null => .ok ""
  | .bool value => .ok (if value then "true" else "false")
  | .int value => .ok (toString value)
  | .real value => .ok (realText value)
  | .string value => .ok value
  | .array _ => .error "Type is not convertible to string"
  | .object _ => .error "Type is not convertible to string"

/-- `InRange(value, minInt, maxInt)`. -/
def inIntRange (value : Rat) : Bool :=
  decide (-2147483648 ≤ value ∧ value ≤ 2147483647)

/-- The conversion of a double to `int`: towards zero. -/
def truncate (value : Rat) : Int :=
  if 0 ≤ value then ⌊value⌋ else ⌈value⌉

/-- `asInt`. -/
def asInt : Json → Except String Int
  | .null => .ok 0
  | .bool value => .ok (if value then 1 else 0)
  | .int value => if inIntRange value then .ok value else .error "LargestInt out of Int range"
  | .real value => if inIntRange value then .ok (truncate value) else .error "double out of Int range"
  | _ => .error "Value is not convertible to Int."

/-- `value["key"] = member`. -/
def set (json : Json) (key : String) (member : Json) : Json :=
  match json with
  | .object members => .object ((key, member) :: members.filter fun old => old.1 ≠ key)
  | _ => .object [(key, member)]

/-- `operator[]` does not throw. -/
def isTable : Json → Bool
  | .null => true
  | .object _ => true
  | _ => false

/-- `asString` does not throw. -/
def isText : Json → Bool
  | .array _ => false
  | .object _ => false
  | _ => true

/-- `asInt` does not throw. -/
def isInt32 : Json → Bool
  | .null => true
  | .bool _ => true
  | .int value => inIntRange value
  | .real value => inIntRange value
  | _ => false

theorem eq_null_of_isNull {json : Json} (hNull : json.isNull = true) : json = .null := by
  cases json with
  | null => rfl
  | _ => cases hNull

/-- The member that `operator[]` gives when it does not throw. -/
def field (json : Json) (key : String) : Json :=
  match json with
  | .object members => find members key
  | _ => .null

/-- The text that `asString` gives when it does not throw. -/
def text (realText : Rat → String) (json : Json) : String :=
  match json.asString realText with
  | .ok text => text
  | .error _ => ""

theorem get_of_isTable {json : Json} (hTable : json.isTable = true) (key : String) :
    json.get key = .ok (json.field key) := by
  cases json <;> simp [isTable, get, field] at *

theorem get_of_not_isTable {json : Json} (hTable : json.isTable = false) (key : String) :
    ∃ what, json.get key = .error what := by
  cases json <;> simp [isTable, get] at *

theorem asString_of_isText {json : Json} (hText : json.isText = true) (realText : Rat → String) :
    json.asString realText = .ok (json.text realText) := by
  cases json <;> simp [isText, asString, text] at *

theorem asString_of_not_isText {json : Json} (hText : json.isText = false) (realText : Rat → String) :
    ∃ what, json.asString realText = .error what := by
  cases json <;> simp [isText, asString] at *

/-- A member that was set is read back. -/
@[simp] theorem field_set (json : Json) (key : String) (member : Json) :
    (json.set key member).field key = member := by
  cases json <;> simp [set, field, find]

/-! ## When an accessor throws -/

variable {σ α : Type}

theorem throwsException_get (json : Json) (key : String) (k : Json → Program σ α) (s : σ) :
    throwsException ((orThrow (json.get key) >>= k).run s) =
      (!json.isTable || throwsException ((k (json.field key)).run s)) := by
  cases json <;> simp [get, isTable, field, Fault.isException]

theorem throwsException_asString (realText : Rat → String) (json : Json) (k : String → Program σ α)
    (s : σ) : throwsException ((orThrow (json.asString realText) >>= k).run s) =
      (!json.isText || throwsException ((k (json.text realText)).run s)) := by
  cases json <;> simp [asString, isText, text, Fault.isException]

theorem throwsException_asInt (json : Json) (s : σ) :
    throwsException ((orThrow json.asInt : Program σ Int).run s) = !json.isInt32 := by
  cases json with
  | int value =>
      by_cases hRange : inIntRange value = true <;> simp [asInt, isInt32, hRange, Fault.isException]
  | real value =>
      by_cases hRange : inIntRange value = true <;> simp [asInt, isInt32, hRange, Fault.isException]
  | _ => simp [asInt, isInt32, Fault.isException]

end Json
end MosaicCore
