import MigrationPreview.Collections.SortedMap
import MigrationPreview.Json.Reader

/-!
# Types with a JSON form

Every kind of data that is written to a report or read from a file says here how it is encoded and
which values decode to it. A *record* is written as an object; it is read from an object, in which
members it does not know are ignored, or from the array of its fields in their order.

## Main definitions

* `JsonForm`: the class of types with a JSON form
* `Enumerated`: finite types whose values are written as names
* `Json.fields?`: what a record says about each of its fields, as a `Slot`
-/

namespace MigrationPreview

/-- Types whose values are encoded as JSON and decoded from it. -/
class JsonForm (α : Type) where
  /-- The JSON value that stands for a value of the type. -/
  encode : α → Json
  /-- The value that a JSON value stands for, if it stands for one. -/
  decode? : Json → Option α

export JsonForm (encode decode?)

/-! ### Plain values -/

instance : JsonForm String where
  encode := .string
  decode?
    | .string s => some s
    | _ => none

instance : JsonForm Bool where
  encode := .bool
  decode?
    | .bool b => some b
    | _ => none

instance : JsonForm Nat where
  encode n := .integer n
  decode?
    | .integer n => if 0 ≤ n then some n.toNat else none
    | _ => none

instance : JsonForm Int32 where
  encode n := .integer n.toInt
  decode?
    | .integer n => if Int32.minValue.toInt ≤ n ∧ n ≤ Int32.maxValue.toInt then some (.ofInt n) else none
    | _ => none

/-- An absent value is `null`. -/
instance {α : Type} [JsonForm α] : JsonForm (Option α) where
  encode
    | none => .null
    | some a => encode a
  decode?
    | .null => some none
    | value => (decode? value).map some

instance {α : Type} [JsonForm α] : JsonForm (List α) where
  encode xs := .array (xs.map encode)
  decode?
    | .array items => items.mapM decode?
    | _ => none

/-- A set is written as an array in ascending order and may be read from any array. -/
instance {α : Type} [Ord α] [Std.TransOrd α] [JsonForm α] : JsonForm (SortedSet α) where
  encode s := encode s.toList
  decode? value := (decode? value).map SortedSet.ofList

/-! ### Names -/

/-- Finite types whose values have a name each, and different values different names. -/
class Enumerated (α : Type) where
  /-- All values, in ascending order. -/
  all : List α
  /-- The name of a value. -/
  name : α → String
  /-- Every value is the first one of its name. -/
  find?_name : ∀ a, (all.find? fun b => name b == name a) = some a := by
    intro a
    cases a <;> rfl

namespace Enumerated

variable {α : Type} [Enumerated α]

/-- The value with a given name. -/
def ofName? (s : String) : Option α := (all : List α).find? fun a => name a == s

theorem ofName?_name (a : α) : ofName? (name a) = some a := find?_name a

theorem mem_all (a : α) : a ∈ (all : List α) := List.mem_of_find?_eq_some (find?_name a)

end Enumerated

/-- A value is written as its name. An object that maps the name to `null` is read as well. -/
instance {α : Type} [Enumerated α] : JsonForm α where
  encode a := .string (Enumerated.name a)
  decode?
    | .string s => Enumerated.ofName? s
    | .object [(s, .null)] => Enumerated.ofName? s
    | _ => none

/-! ### Maps -/

/-- Types whose values can be the keys of an object. -/
class JsonKey (κ : Type) where
  /-- The key that stands for a value. -/
  toKey : κ → String
  /-- The value that a key stands for, if it stands for one. -/
  ofKey? : String → Option κ

instance : JsonKey String := ⟨id, some⟩

instance {α : Type} [Enumerated α] : JsonKey α := ⟨Enumerated.name, Enumerated.ofName?⟩

/-- A number of 64 bits is a key in the one form in which it is printed. -/
instance : JsonKey Nat where
  toKey n := toString n
  ofKey? s :=
    let n := Json.natOfDigits s.toList
    if toString n = s ∧ n < UInt64.size then some n else none

/-- Of several members with one key the last counts. -/
instance {κ ν : Type} [Ord κ] [Std.TransOrd κ] [JsonKey κ] [JsonForm ν] :
    JsonForm (SortedMap κ ν) where
  encode m := .object (m.entries.map fun e => (JsonKey.toKey e.1, encode e.2))
  decode?
    | .object members =>
      (members.mapM fun (key, value) => do
        return (← JsonKey.ofKey? key, ← decode? value)).map SortedMap.ofList
    | _ => none

/-! ### Records -/

/-- What a record says about one of its fields. -/
inductive Slot where
  /-- The field has a value. -/
  | given (value : Json)
  /-- The record is an object without a member for the field. -/
  | omitted
  /-- The record is an array that ends before the field. -/
  | cutOff

namespace Slot

variable {α : Type} [JsonForm α]

/-- The value of a field that has to be there. -/
def required : Slot → Option α
  | given value => decode? value
  | _ => none

/-- The value of an optional field, which an object may leave out. -/
def optional : Slot → Option (Option α)
  | given value => decode? value
  | omitted => some none
  | cutOff => none

/-- The value of a field that is `default` where the record does not mention it. -/
def orElse (default : α) : Slot → Option α
  | given value => decode? value
  | _ => some default

end Slot

namespace Json

/-- The fields of a record. -/
abbrev Fields := String → Slot

/-- The slot of a field in a list of members. -/
def slotIn (members : List (String × Json)) : Fields := fun name =>
  -- no field occurs twice, so the first member is the only one
  match members.find? fun m => m.1 == name with
  | some (_, value) => .given value
  | none => .omitted

/-- The slot of a field in an array of the fields called `names`. -/
def slotAt (names : List String) (items : List Json) : Fields := fun name =>
  match names, items with
  | n :: names, item :: items => if n = name then .given item else slotAt names items name
  | _, _ => .cutOff

/-- The fields of an object, of which none may occur twice. -/
def objectFields? (names : List String) : Json → Option Fields
  | object members =>
    if names.all fun name => members.countP (fun m => m.1 == name) ≤ 1 then some (slotIn members)
    else none
  | _ => none

/-- The fields of a record whose fields are called `names`, in this order. -/
def fields? (names : List String) : Json → Option Fields
  | array items => if items.length ≤ names.length then some (slotAt names items) else none
  | value => objectFields? names value

end Json

end MigrationPreview
