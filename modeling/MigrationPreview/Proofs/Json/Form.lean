import Mathlib.Data.List.Nodup
import MigrationPreview.Json.Form
import MigrationPreview.Proofs.Json.Layout

/-!
# Faithful JSON forms

A type has a faithful form if each of its values is decoded from its own encoding, and if the encoding
holds no number that its text could not give back. Natural numbers have no bound of their own but 64 bits
in a text, so of them only those that fit are kept.

For records the form is faithful as soon as each field is: the encoding is an object in which no key
occurs twice, so each field is found where it was put, and a field that is left out is read as the value
for which it is left out.

## Main definitions

* `Json.HasKeys`: what is known about the keys of a list of members
* `Json.EachValue`: a property of the values of a list of members
* `FaithfulForm`, `FaithfulKey`: types with a faithful form

## Main results

* `Json.bind_fields?`: a record is read from the slots of its members
* `decode?_compactText`, `decode?_indentedText`: a value is read back from its text
-/

namespace MigrationPreview

/-! ### Slots -/

/-- What an object says about a field that it leaves out if there is no value. -/
def Slot.ofOption : Option Json → Slot
  | some value => .given value
  | none => .omitted

/-- What the members of two objects together say about a field. -/
def Slot.or : Slot → Slot → Slot
  | .given value, _ => .given value
  | _, slot => slot

@[simp] theorem Slot.given_or (value : Json) (slot : Slot) : (given value).or slot = given value := rfl

@[simp] theorem Slot.omitted_or (slot : Slot) : omitted.or slot = slot := rfl

@[simp] theorem Slot.ofOption_or_omitted (value? : Option Json) :
    (ofOption value?).or omitted = ofOption value? := by
  cases value? <;> rfl

namespace Json

section

variable {α : Type} (key name : String) (enc : α → Json)

@[simp] theorem slotIn_nil : slotIn [] name = .omitted := rfl

@[simp] theorem slotIn_cons (value : Json) (members : List (String × Json)) :
    slotIn ((key, value) :: members) name = if key = name then .given value else slotIn members name := by
  by_cases h : key = name <;> simp [slotIn, h]

@[simp] theorem slotIn_append (members members' : List (String × Json)) :
    slotIn (members ++ members') name = (slotIn members name).or (slotIn members' name) := by
  rw [slotIn, List.find?_append, slotIn]
  cases members.find? fun m => m.1 == name with
  | none => rfl
  | some m => rfl

@[simp] theorem slotIn_optionalMember (o : Option α) :
    slotIn (optionalMember key enc o) name = if key = name then .ofOption (o.map enc) else .omitted := by
  cases o with
  | none => simp [optionalMember, Slot.ofOption]
  | some a => simp [optionalMember, Slot.ofOption]

@[simp] theorem slotIn_nonemptyMember [JsonForm α] (xs : List α) :
    slotIn (nonemptyMember key encode xs) name =
      if key = name then .ofOption (if xs = [] then none else some (encode xs)) else .omitted := by
  cases xs with
  | nil => simp [nonemptyMember, Slot.ofOption]
  | cons x xs => simp [nonemptyMember, Slot.ofOption, encode]

end

/-! ### Members -/

/-- The keys of the members are among `keys` and stand in their order. -/
class HasKeys (members : List (String × Json)) (keys : outParam (List String)) : Prop where
  sublist : (members.map Prod.fst).Sublist keys

instance : HasKeys [] [] := ⟨.slnil⟩

instance (key : String) (value : Json) (members : List (String × Json)) (keys : List String)
    [h : HasKeys members keys] : HasKeys ((key, value) :: members) (key :: keys) :=
  ⟨h.sublist.cons_cons key⟩

instance (members members' : List (String × Json)) (keys keys' : List String)
    [h : HasKeys members keys] [h' : HasKeys members' keys'] :
    HasKeys (members ++ members') (keys ++ keys') := by
  constructor
  rw [List.map_append]
  exact h.sublist.append h'.sublist

instance {α : Type} (key : String) (enc : α → Json) (o : Option α) :
    HasKeys (optionalMember key enc o) [key] := by
  cases o with
  | none => exact ⟨List.nil_sublist _⟩
  | some a => exact ⟨.refl _⟩

instance {α : Type} (key : String) (enc : α → Json) (xs : List α) :
    HasKeys (nonemptyMember key enc xs) [key] := by
  cases xs with
  | nil => exact ⟨List.nil_sublist _⟩
  | cons x xs => exact ⟨.refl _⟩

section

variable {α : Type} {members : List (String × Json)} {keys : List String} [h : HasKeys members keys]

theorem objectFields?_object (hkeys : keys.Nodup) (names : List String) :
    (object members).objectFields? names = some (slotIn members) := by
  -- the members have different keys, so no name can occur twice
  have honce (name : String) : members.countP (fun m => m.1 == name) ≤ 1 := by
    have hcount := List.nodup_iff_count_le_one.mp (h.sublist.nodup hkeys) name
    rwa [List.count, List.countP_map] at hcount
  rw [objectFields?, if_pos]
  simp [honce]

/-- A record that may be read from an array as well is read from the slots of its members. -/
theorem bind_fields? (hkeys : keys.Nodup) {names : List String} {build : Fields → Option α} :
    ((object members).fields? names).bind build = build (slotIn members) := by
  have hfields : (object members).fields? names = some (slotIn members) :=
    objectFields?_object hkeys names
  rw [hfields, Option.bind_some]

/-- A record that is read from objects only is read from the slots of its members. -/
theorem bind_objectFields? (hkeys : keys.Nodup) {names : List String} {build : Fields → Option α} :
    ((object members).objectFields? names).bind build = build (slotIn members) := by
  rw [objectFields?_object hkeys, Option.bind_some]

end

/-- A property holds for the values of all members. -/
def EachValue (p : Json → Prop) (members : List (String × Json)) : Prop := ∀ m ∈ members, p m.2

section

variable {p : Json → Prop} {α : Type}

@[simp] theorem eachValue_nil : EachValue p [] := by
  intro m hm
  cases hm

@[simp] theorem eachValue_cons (key : String) (value : Json) (members : List (String × Json)) :
    EachValue p ((key, value) :: members) ↔ p value ∧ EachValue p members := List.forall_mem_cons

@[simp] theorem eachValue_append (members members' : List (String × Json)) :
    EachValue p (members ++ members') ↔ EachValue p members ∧ EachValue p members' :=
  List.forall_mem_append

@[simp] theorem eachValue_optionalMember (key : String) (enc : α → Json) (o : Option α) :
    EachValue p (optionalMember key enc o) ↔ ∀ a ∈ o, p (enc a) := by
  cases o <;> simp [optionalMember]

@[simp] theorem eachValue_nonemptyMember [JsonForm α] (key : String) (xs : List α) :
    EachValue p (nonemptyMember key encode xs) ↔ xs ≠ [] → p (encode xs) := by
  cases xs <;> simp [nonemptyMember, encode]

theorem isWritable_object {members : List (String × Json)} (h : EachValue IsWritable members) :
    (object members).IsWritable := by
  refine .intro trivial fun w hw => ?_
  obtain ⟨m, hm, rfl⟩ := List.mem_map.mp hw
  exact h m hm

theorem isWritable_array {items : List Json} (h : ∀ item ∈ items, item.IsWritable) :
    (array items).IsWritable := .intro trivial h

theorem isWritable_string (s : String) : (string s).IsWritable := by
  refine .intro trivial fun w hw => ?_
  cases hw

theorem isWritable_integer {n : Int} (h : IsInteger64 n) : (integer n).IsWritable := by
  refine .intro h fun w hw => ?_
  cases hw

end

end Json

/-! ### Faithful forms -/

/-- Types whose values survive their JSON form, as far as their numbers fit into 64 bits. -/
class FaithfulForm (α : Type) [JsonForm α] where
  /-- Whether the natural numbers in a value fit into 64 bits. -/
  Fits : α → Prop
  decode?_encode {a : α} (h : Fits a) : decode? (encode a) = some a
  isWritable_encode {a : α} (h : Fits a) : (encode a).IsWritable
  encode_ne_null (a : α) : encode a ≠ .null

export FaithfulForm (Fits)

section

variable {α : Type} [JsonForm α] [FaithfulForm α]

@[simp] theorem isWritable_encode {a : α} (h : Fits a) : (encode a).IsWritable :=
  FaithfulForm.isWritable_encode h

/-- A value is read back from its compact text. -/
theorem decode?_compactText {a : α} (h : Fits a) :
    (Json.parse (encode a).render).bind decode? = some a := by
  rw [Json.parse_compactText (isWritable_encode h), Option.bind_some, FaithfulForm.decode?_encode h]

/-- A value is read back from its indented text. -/
theorem decode?_indentedText {a : α} (h : Fits a) :
    (Json.parse (encode a).renderIndented).bind decode? = some a := by
  rw [Json.parse_indentedText (isWritable_encode h), Option.bind_some,
    FaithfulForm.decode?_encode h]

/-! ### Fields of records -/

@[simp] theorem Slot.required_given {a : α} (h : Fits a) : (given (encode a)).required = some a :=
  FaithfulForm.decode?_encode h

@[simp] theorem Slot.orElse_given {a : α} (h : Fits a) (default : α) :
    (given (encode a)).orElse default = some a := FaithfulForm.decode?_encode h

theorem decode?_some {a : α} (h : Fits a) : decode? (encode a) = some (some a) := by
  -- nothing but `null` is decoded as an absent value
  have hvalue : decode? (encode a) = (decode? (encode a)).map (some : α → Option α) := by
    cases hencode : encode a with
    | null => exact absurd hencode (FaithfulForm.encode_ne_null a)
    | bool | integer | decimal | string | array | object | unreadable => rfl
  rw [hvalue, FaithfulForm.decode?_encode h, Option.map_some]

@[simp] theorem Slot.optional_ofOption {o : Option α} (h : ∀ a ∈ o, Fits a) :
    (ofOption (o.map encode)).optional = some o := by
  cases o with
  | none => rfl
  | some a => exact decode?_some (h a rfl)

@[simp] theorem Slot.orElse_ofOption {o : Option α} (h : ∀ a ∈ o, Fits a) :
    (ofOption (o.map encode)).orElse none = some o := by
  cases o with
  | none => rfl
  | some a => exact decode?_some (h a rfl)

@[simp] theorem Slot.orElse_nonempty {a default : α} [Decidable (a = default)] (h : Fits a) :
    (ofOption (if a = default then none else some (encode a))).orElse default = some a := by
  by_cases hdefault : a = default
  · -- the value is left out and read as the default
    rw [if_pos hdefault, hdefault]
    rfl
  · rw [if_neg hdefault]
    exact FaithfulForm.decode?_encode h

end

/-! ### Plain values -/

instance : FaithfulForm String where
  Fits _ := True
  decode?_encode _ := rfl
  isWritable_encode _ := Json.isWritable_string _
  encode_ne_null _ := nofun

@[simp] theorem fits_string (s : String) : Fits s := trivial

instance : FaithfulForm Bool where
  Fits _ := True
  decode?_encode _ := rfl
  isWritable_encode _ := by
    refine .intro trivial fun w hw => ?_
    cases hw
  encode_ne_null _ := nofun

@[simp] theorem fits_bool (b : Bool) : Fits b := trivial

instance : FaithfulForm Nat where
  Fits n := n < UInt64.size
  decode?_encode {n} _ := by simp [encode, decode?]
  isWritable_encode {n} h := Json.isWritable_integer ⟨by omega, Int.ofNat_lt.mpr h⟩
  encode_ne_null _ := nofun

theorem fits_nat {n : Nat} (h : n < UInt64.size) : Fits n := h

instance : FaithfulForm Int32 where
  Fits _ := True
  decode?_encode {n} _ := by
    change (if _ then _ else _) = _
    rw [if_pos ⟨n.minValue_le_toInt, n.toInt_le⟩, Int32.ofInt_toInt]
  isWritable_encode {n} _ := by
    have hlow : Int32.minValue.toInt ≤ n.toInt := n.minValue_le_toInt
    have hhigh : n.toInt ≤ Int32.maxValue.toInt := n.toInt_le
    rw [Int32.toInt_minValue] at hlow
    rw [Int32.toInt_maxValue] at hhigh
    refine Json.isWritable_integer ⟨?_, ?_⟩
    · exact Int.le_trans (by decide) hlow
    · exact Int.lt_of_le_of_lt hhigh (by decide)
  encode_ne_null _ := nofun

@[simp] theorem fits_int32 (n : Int32) : Fits n := trivial

instance {α : Type} [Enumerated α] : FaithfulForm α where
  Fits _ := True
  decode?_encode _ := Enumerated.ofName?_name _
  isWritable_encode _ := Json.isWritable_string _
  encode_ne_null _ := nofun

@[simp] theorem fits_enumerated {α : Type} [Enumerated α] (a : α) : Fits a := trivial

/-! ### Lists, sets and maps -/

theorem mapM_map_eq_some {α β : Type} {enc : α → β} {dec : β → Option α} {xs : List α}
    (h : ∀ x ∈ xs, dec (enc x) = some x) : (xs.map enc).mapM dec = some xs := by
  induction xs with
  | nil => rfl
  | cons x xs ih =>
    rw [List.map_cons, List.mapM_cons, h x List.mem_cons_self,
      ih fun x' hx' => h x' (List.mem_cons_of_mem x hx')]
    rfl

instance {α : Type} [JsonForm α] [FaithfulForm α] : FaithfulForm (List α) where
  Fits xs := ∀ x ∈ xs, Fits x
  decode?_encode {xs} h := mapM_map_eq_some fun x hx => FaithfulForm.decode?_encode (h x hx)
  isWritable_encode {xs} h := by
    refine Json.isWritable_array fun item hitem => ?_
    obtain ⟨x, hx, rfl⟩ := List.mem_map.mp hitem
    exact isWritable_encode (h x hx)
  encode_ne_null _ := nofun

@[simp] theorem fits_list {α : Type} [JsonForm α] [FaithfulForm α] (xs : List α) :
    Fits xs ↔ ∀ x ∈ xs, Fits x := Iff.rfl

theorem SortedSet.ofList_toList {α : Type} [Ord α] [Std.TransOrd α] (s : SortedSet α) :
    SortedSet.ofList s.toList = s := by
  have hofList : SortedSet.ofList s.toList = SortedMap.ofList s.entries := by
    rw [SortedSet.ofList, SortedSet.toList, SortedMap.keys, List.foldl_map]
    rfl
  rw [hofList, SortedMap.ofList_entries]

instance {α : Type} [Ord α] [Std.TransOrd α] [JsonForm α] [FaithfulForm α] :
    FaithfulForm (SortedSet α) where
  Fits s := ∀ x ∈ s.toList, Fits x
  decode?_encode {s} h := by
    have hlist : decode? (encode s.toList) = some s.toList := FaithfulForm.decode?_encode h
    change (decode? (encode s.toList)).map SortedSet.ofList = some s
    rw [hlist, Option.map_some, SortedSet.ofList_toList]
  isWritable_encode {s} h := isWritable_encode (a := s.toList) h
  encode_ne_null _ := nofun

@[simp] theorem fits_sortedSet {α : Type} [Ord α] [Std.TransOrd α] [JsonForm α] [FaithfulForm α]
    (s : SortedSet α) : Fits s ↔ ∀ x ∈ s.toList, Fits x := Iff.rfl

/-- Types whose values are read back from the keys they are written as. -/
class FaithfulKey (κ : Type) [JsonKey κ] where
  /-- Whether a key fits into 64 bits if it is a number. -/
  FitsKey : κ → Prop
  ofKey?_toKey {key : κ} (h : FitsKey key) : JsonKey.ofKey? (JsonKey.toKey key) = some key

export FaithfulKey (FitsKey)

instance : FaithfulKey String where
  FitsKey _ := True
  ofKey?_toKey _ := rfl

@[simp] theorem fitsKey_string (s : String) : FitsKey s := trivial

instance {α : Type} [Enumerated α] : FaithfulKey α where
  FitsKey _ := True
  ofKey?_toKey _ := Enumerated.ofName?_name _

@[simp] theorem fitsKey_enumerated {α : Type} [Enumerated α] (a : α) : FitsKey a := trivial

instance : FaithfulKey Nat where
  FitsKey n := n < UInt64.size
  ofKey?_toKey {n} h := by
    have hdigits : Json.natOfDigits (toString n).toList = n := by
      rw [Nat.toString_eq_ofList_toDigits, String.toList_ofList, Json.natOfDigits_toDigits]
    simp only [JsonKey.ofKey?, JsonKey.toKey, hdigits, h, and_self, if_true]

section

variable {κ ν : Type} [Ord κ] [Std.TransOrd κ] [JsonKey κ] [FaithfulKey κ] [JsonForm ν] [FaithfulForm ν]

instance : FaithfulForm (SortedMap κ ν) where
  Fits m := ∀ e ∈ m.entries, FitsKey e.1 ∧ Fits e.2
  decode?_encode {m} h := by
    have hentries : (m.entries.map fun e => (JsonKey.toKey e.1, encode e.2)).mapM
        (fun member : String × Json => do
          return (← (JsonKey.ofKey? member.1 : Option κ), ← (decode? member.2 : Option ν))) =
        some m.entries := by
      refine mapM_map_eq_some fun e he => ?_
      simp [FaithfulKey.ofKey?_toKey (h e he).1, FaithfulForm.decode?_encode (h e he).2]
    simp only [encode, decode?, hentries, Option.map_some, SortedMap.ofList_entries]
  isWritable_encode {m} h := by
    refine Json.isWritable_object fun member hmember => ?_
    obtain ⟨e, he, rfl⟩ := List.mem_map.mp hmember
    exact isWritable_encode (h e he).2
  encode_ne_null _ := nofun

@[simp] theorem fits_sortedMap (m : SortedMap κ ν) :
    Fits m ↔ ∀ e ∈ m.entries, FitsKey e.1 ∧ Fits e.2 := Iff.rfl

end

end MigrationPreview
