import Mathlib.Data.List.DropRight
import MigrationPreview.Proofs.Json.Token

/-!
# Layouts of JSON values

The same value can be written with different spaces between its tokens. A layout is any text that has the
tokens of a value in their order, with spaces around items, keys and values; the compact text and the
indented text are two of them. Every layout of a value reads back as this value, so it does not matter
in which one a file or a report is written.

Values that hold a number beyond 64 bits, or something that denotes no value, have no layout.

## Main definitions

* `Json.Layout`, `Json.LayoutItems`, `Json.LayoutMembers`: the layouts of a value and of its parts
* `Json.Everywhere`: a property of a value and of all its parts
* `Json.IsWritable`: every number fits into 64 bits

## Main results

* `Json.readValue_layout`: a value is read back from each of its layouts
* `Json.layout_compact`, `Json.layout_indented`: the compact and the indented text are layouts
* `Json.parse_compactText`, `Json.parse_indentedText`: a text reads back as the value it was printed for
-/

namespace MigrationPreview.Json

/-! ### Layouts -/

/-- A text of nothing but spaces. -/
def IsSpaces (cs : List Char) : Prop := ∀ c ∈ cs, isSpace c

mutual

/-- The layouts of a value. -/
inductive Layout : Json → List Char → Prop where
  | null : Layout null "null".toList
  | boolTrue : Layout (bool true) "true".toList
  | boolFalse : Layout (bool false) "false".toList
  | integer {n : Int} (h : IsInteger64 n) : Layout (integer n) (toString n).toList
  | string (s : String) : Layout (string s) (quoted s)
  | noItems : Layout (array []) ['[', ']']
  | array {items : List Json} {cs : List Char} (h : LayoutItems items cs) :
      Layout (array items) ('[' :: cs)
  | noMembers : Layout (object []) ['{', '}']
  | object {members : List (String × Json)} {cs : List Char} (h : LayoutMembers members cs) :
      Layout (object members) ('{' :: cs)

/-- The layouts of a value with spaces around it. -/
inductive Spaced : Json → List Char → Prop where
  | mk {v : Json} {before cs behind : List Char} (hbefore : IsSpaces before) (h : Layout v cs)
      (hbehind : IsSpaces behind) : Spaced v (before ++ cs ++ behind)

/-- The layouts of the items of an array, with the closing bracket. -/
inductive LayoutItems : List Json → List Char → Prop where
  | last {item : Json} {cs : List Char} (h : Spaced item cs) : LayoutItems [item] (cs ++ [']'])
  | more {item : Json} {items : List Json} {cs cs' : List Char} (h : Spaced item cs)
      (h' : LayoutItems items cs') : LayoutItems (item :: items) (cs ++ ',' :: cs')

/-- The layouts of the members of an object, with the closing brace. -/
inductive LayoutMembers : List (String × Json) → List Char → Prop where
  | last {key : String} {value : Json} {ks cs : List Char} (hkey : Spaced (string key) ks)
      (h : Spaced value cs) : LayoutMembers [(key, value)] (ks ++ ':' :: (cs ++ ['}']))
  | more {key : String} {value : Json} {members : List (String × Json)} {ks cs cs' : List Char}
      (hkey : Spaced (string key) ks) (h : Spaced value cs) (h' : LayoutMembers members cs') :
      LayoutMembers ((key, value) :: members) (ks ++ ':' :: (cs ++ ',' :: cs'))

end

/-! ### Spaces -/

theorem isSpaces_nil : IsSpaces [] := fun _ h => by cases h

theorem isSpaces_newline (depth : Nat) : IsSpaces (newline depth) := by
  intro c hc
  rcases List.mem_cons.mp hc with rfl | hc
  · rfl
  · rw [(List.mem_replicate.mp hc).2]
    rfl

theorem skipSpaces_append {before : List Char} (h : IsSpaces before) (cs : List Char) :
    skipSpaces (before ++ cs) = skipSpaces cs := List.dropWhile_append_of_pos h

theorem skipSpaces_cons {c : Char} (h : isSpace c = false) (cs : List Char) :
    skipSpaces (c :: cs) = c :: cs := List.dropWhile_cons_of_neg (by simp [h])

theorem isSpace_eq_false_of_isDigit {c : Char} (h : c.isDigit) : isSpace c = false := by
  rw [Bool.eq_false_iff]
  intro hspace
  simp only [isSpace, Bool.or_eq_true, beq_iff_eq] at hspace
  obtain ((rfl | rfl) | rfl) | rfl := hspace <;> cases h

/-- Behind a value there is nothing that could belong to a number. -/
theorem endsNumber_of_isSpaces {behind rest : List Char} (h : IsSpaces behind)
    (hrest : EndsNumber rest) : EndsNumber (behind ++ rest) := by
  cases behind with
  | nil => exact hrest
  | cons c behind =>
    have hc : isSpace c := h c List.mem_cons_self
    simp only [isSpace, Bool.or_eq_true, beq_iff_eq] at hc
    refine endsNumber_cons _ ?_
    obtain ((rfl | rfl) | rfl) | rfl := hc <;> decide

/-! ### Reading -/

/-- A layout begins with a character that is neither a space nor a closing bracket. -/
theorem Layout.exists_cons {v : Json} {cs : List Char} (h : Layout v cs) :
    ∃ c cs', cs = c :: cs' ∧ isSpace c = false ∧ c ≠ ']' := by
  cases h with
  | null | boolTrue | boolFalse | string | noItems | array | noMembers | object =>
    exact ⟨_, _, rfl, by decide, by decide⟩
  | integer =>
    obtain ⟨c, cs, htext, hc⟩ := exists_cons_toString _
    refine ⟨c, cs, htext, ?_⟩
    rcases hc with rfl | hc
    · decide
    · exact ⟨isSpace_eq_false_of_isDigit hc, fun h => by subst h; cases hc⟩

theorem Spaced.exists_append {v : Json} {cs : List Char} (h : Spaced v cs) :
    ∃ before text behind, cs = before ++ (text ++ behind) ∧ IsSpaces before ∧ Layout v text ∧
      IsSpaces behind := by
  cases h with
  | mk hbefore h hbehind => exact ⟨_, _, _, List.append_assoc .., hbefore, h, hbehind⟩

/-- With items in front of it, a layout of items begins with no closing bracket. -/
theorem LayoutItems.skipSpaces_ne {items : List Json} {cs rest rest' : List Char}
    (h : LayoutItems items cs) : skipSpaces (cs ++ rest) ≠ ']' :: rest' := by
  have hfirst {item : Json} {first : List Char} (hitem : Spaced item first) (behind : List Char) :
      skipSpaces (first ++ behind) ≠ ']' :: rest' := by
    obtain ⟨before, text, after, rfl, hbefore, htext, -⟩ := hitem.exists_append
    obtain ⟨c, text, rfl, hspace, hc⟩ := htext.exists_cons
    rw [List.append_assoc, skipSpaces_append hbefore, List.cons_append, List.cons_append,
      skipSpaces_cons hspace]
    intro heq
    exact hc (List.cons.inj heq).1
  cases h with
  | last hitem =>
    rw [List.append_assoc]
    exact hfirst hitem _
  | more hitem =>
    rw [List.append_assoc]
    exact hfirst hitem _

/-- A layout of members begins with the quote of a key. -/
theorem LayoutMembers.exists_quote {members : List (String × Json)} {cs : List Char}
    (h : LayoutMembers members cs) (rest : List Char) :
    ∃ cs', skipSpaces (cs ++ rest) = '"' :: cs' := by
  have hfirst {key : String} {first : List Char} (hkey : Spaced (string key) first)
      (behind : List Char) : ∃ cs', skipSpaces (first ++ behind) = '"' :: cs' := by
    obtain ⟨before, text, after, rfl, hbefore, htext, -⟩ := hkey.exists_append
    cases htext with
    | string =>
      rw [List.append_assoc, skipSpaces_append hbefore]
      exact ⟨_, skipSpaces_cons (by decide) _⟩
  cases h with
  | last hkey =>
    rw [List.append_assoc]
    exact hfirst hkey _
  | more hkey =>
    rw [List.append_assoc]
    exact hfirst hkey _

/-- A keyword is read behind its first letter. -/
theorem readWord_append (word rest : List Char) (value : Json) :
    readWord word value (word ++ rest) = some (value, rest) := by
  rw [readWord, if_pos (List.isPrefixOf_iff_prefix.mpr (List.prefix_append word rest)),
    List.drop_left]

theorem objectOfMembers_some (members : List (String × Json)) :
    objectOfMembers (members.map fun m => (some m.1, m.2)) = object members := by
  have hkeys : (members.map fun m => (some m.1, m.2)).mapM
      (fun m : Option String × Json => m.1.map fun k => (k, m.2)) = some members := by
    induction members with
    | nil => rfl
    | cons m members ih => simp [ih]
  unfold objectOfMembers
  split
  · next _ hread => exact congrArg object (Option.some.inj (hread.symm.trans hkeys))
  · next hread => cases hread.symm.trans hkeys

/-- What stands behind an item of an array or a value of an object. -/
theorem endsNumber_of_mem {c : Char} (hc : c ∈ [',', ']', '\x7d']) (rest : List Char) :
    EndsNumber (c :: rest) := by
  refine endsNumber_cons rest ?_
  simp only [List.mem_cons, List.not_mem_nil, or_false] at hc
  obtain rfl | rfl | rfl := hc <;> decide

/-- Each of the three readers reads layouts, as long as they are no longer than its bound. Every nested
call has at least one character less to read, so a bound on the length is a bound on the nesting. -/
def ReadsLayouts (fuel : Nat) : Prop :=
  (∀ v cs rest, Layout v cs → EndsNumber rest → cs.length ≤ fuel →
    readValue fuel (cs ++ rest) = some (v, rest)) ∧
  (∀ items cs rest, LayoutItems items cs → cs.length ≤ fuel →
    readItems fuel (cs ++ rest) = some (items, rest)) ∧
  (∀ members cs rest, LayoutMembers members cs → cs.length ≤ fuel →
    readMembers fuel (cs ++ rest) = some (members.map fun m => (some m.1, m.2), rest))

theorem readValue_skipSpaces (fuel : Nat) (cs : List Char) :
    readValue fuel (skipSpaces cs) = readValue fuel cs := by
  cases fuel with
  | zero => rfl
  | succ fuel =>
    have hskip : skipSpaces (skipSpaces cs) = skipSpaces cs := List.dropWhile_idempotent _ _
    rw [readValue, readValue, hskip]

section

variable {fuel : Nat}

/-- With spaces around it, a value is read up to some spaces behind it. -/
theorem ReadsLayouts.spaced (h : ReadsLayouts fuel) {v : Json} {cs rest : List Char}
    (hv : Spaced v cs) (hrest : EndsNumber rest) (hlength : cs.length ≤ fuel) :
    ∃ behind, readValue fuel (cs ++ rest) = some (v, behind) ∧ skipSpaces behind = skipSpaces rest := by
  obtain ⟨before, text, after, rfl, hbefore, htext, hafter⟩ := hv.exists_append
  obtain ⟨c, text', rfl, hc, -⟩ := htext.exists_cons
  refine ⟨after ++ rest, ?_, skipSpaces_append hafter rest⟩
  have hskip : skipSpaces (before ++ (c :: text' ++ after) ++ rest) = c :: text' ++ (after ++ rest) := by
    rw [List.append_assoc, skipSpaces_append hbefore, List.append_assoc, List.cons_append,
      skipSpaces_cons hc]
  rw [← readValue_skipSpaces, hskip]
  refine h.1 v _ _ htext (endsNumber_of_isSpaces hafter hrest) ?_
  simp only [List.length_append] at hlength
  omega

theorem ReadsLayouts.readItems_succ (h : ReadsLayouts fuel) {items : List Json} {cs : List Char}
    (rest : List Char) (hitems : LayoutItems items cs) (hlength : cs.length ≤ fuel + 1) :
    readItems (fuel + 1) (cs ++ rest) = some (items, rest) := by
  cases hitems with
  | @last item cs hitem =>
    simp only [List.length_append, List.length_singleton] at hlength
    obtain ⟨behind, hread, hbehind⟩ :=
      h.spaced hitem (endsNumber_of_mem (c := ']') (by decide) rest) (by omega)
    rw [skipSpaces_cons (by decide)] at hbehind
    simp [readItems, hread, hbehind]
  | @more item items cs cs' hitem hitems =>
    simp only [List.length_append, List.length_cons] at hlength
    obtain ⟨behind, hread, hbehind⟩ :=
      h.spaced hitem (endsNumber_of_mem (c := ',') (by decide) (cs' ++ rest)) (by omega)
    rw [skipSpaces_cons (by decide)] at hbehind
    have hmore := h.2.1 items cs' rest hitems (by omega)
    simp [readItems, hread, hbehind, hmore]

/-- The key of a member is read up to the colon behind it. -/
theorem Spaced.exists_readString {key : String} {ks : List Char} (h : Spaced (string key) ks)
    (rest : List Char) : ∃ text behind, skipSpaces (ks ++ rest) = '"' :: text ∧
      readString text = some (some key, behind) ∧ skipSpaces behind = skipSpaces rest := by
  obtain ⟨before, text, after, rfl, hbefore, htext, hafter⟩ := h.exists_append
  cases htext with
  | string =>
    refine ⟨_, after ++ rest, ?_, readString_escape key _, skipSpaces_append hafter rest⟩
    rw [List.append_assoc, skipSpaces_append hbefore, quoted, List.cons_append, List.cons_append,
      List.cons_append, skipSpaces_cons (by decide)]
    simp

theorem ReadsLayouts.readMembers_succ (h : ReadsLayouts fuel) {members : List (String × Json)}
    {cs : List Char} (rest : List Char) (hmembers : LayoutMembers members cs)
    (hlength : cs.length ≤ fuel + 1) :
    readMembers (fuel + 1) (cs ++ rest) = some (members.map fun m => (some m.1, m.2), rest) := by
  cases hmembers with
  | @last key value ks cs hkey hvalue =>
    simp only [List.length_append, List.length_cons, List.length_nil] at hlength
    obtain ⟨text, behindKey, htext, hstring, hcolon⟩ :=
      hkey.exists_readString (':' :: (cs ++ '\x7d' :: rest))
    obtain ⟨behind, hread, hbehind⟩ :=
      h.spaced hvalue (endsNumber_of_mem (c := '\x7d') (by decide) rest) (by omega)
    rw [skipSpaces_cons (by decide)] at hcolon hbehind
    simp [readMembers, htext, hstring, hcolon, hread, hbehind]
  | @more key value members ks cs cs' hkey hvalue hmembers =>
    simp only [List.length_append, List.length_cons] at hlength
    obtain ⟨text, behindKey, htext, hstring, hcolon⟩ :=
      hkey.exists_readString (':' :: (cs ++ ',' :: (cs' ++ rest)))
    obtain ⟨behind, hread, hbehind⟩ :=
      h.spaced hvalue (endsNumber_of_mem (c := ',') (by decide) (cs' ++ rest)) (by omega)
    rw [skipSpaces_cons (by decide)] at hcolon hbehind
    have hmore := h.2.2 members cs' rest hmembers (by omega)
    simp [readMembers, htext, hstring, hcolon, hread, hbehind, hmore]

/-- No other kind of value begins with a sign or a digit. -/
theorem readValue_number (fuel : Nat) {c : Char} {cs : List Char} (hc : c = '-' ∨ c.isDigit) :
    readValue (fuel + 1) (c :: cs) = readNumber (c :: cs) := by
  have hspace : isSpace c = false := by
    rcases hc with rfl | hc
    · rfl
    · exact isSpace_eq_false_of_isDigit hc
  have hother : c ≠ '"' ∧ c ≠ '[' ∧ c ≠ '\x7b' ∧ c ≠ 'n' ∧ c ≠ 't' ∧ c ≠ 'f' := by
    rcases hc with rfl | hc
    · decide
    · refine ⟨?_, ?_, ?_, ?_, ?_, ?_⟩ <;> rintro rfl <;> cases hc
  rw [readValue, skipSpaces_cons hspace]
  simp [hother]

theorem ReadsLayouts.readValue_succ (h : ReadsLayouts fuel) {v : Json} {cs rest : List Char}
    (hv : Layout v cs) (hrest : EndsNumber rest) (hlength : cs.length ≤ fuel + 1) :
    readValue (fuel + 1) (cs ++ rest) = some (v, rest) := by
  cases hv with
  | null => exact readWord_append "ull".toList rest null
  | boolTrue => exact readWord_append "rue".toList rest (bool true)
  | boolFalse => exact readWord_append "alse".toList rest (bool false)
  | @integer n hn =>
    have hnumber := readNumber_toString hn hrest
    obtain ⟨c, text, htext, hc⟩ := exists_cons_toString n
    rw [htext, List.cons_append] at hnumber ⊢
    rw [readValue_number fuel hc, hnumber]
  | string s =>
    have hstring := readString_escape s rest
    simp [readValue, quoted, skipSpaces, isSpace, hstring]
  | noItems => rfl
  | @array items cs hitems =>
    have hread := h.2.1 items cs rest hitems (Nat.le_of_succ_le_succ hlength)
    have hbracket : skipSpaces ('[' :: (cs ++ rest)) = '[' :: (cs ++ rest) :=
      skipSpaces_cons (by decide) _
    simp only [List.cons_append, readValue, hbracket]
    split
    · -- an array without items has a layout of its own
      next heq => exact absurd heq hitems.skipSpaces_ne
    · rw [hread, Option.map_some]
  | noMembers => rfl
  | @object members cs hmembers =>
    have hread := h.2.2 members cs rest hmembers (Nat.le_of_succ_le_succ hlength)
    obtain ⟨text, htext⟩ := hmembers.exists_quote rest
    have hbrace : skipSpaces ('\x7b' :: (cs ++ rest)) = '\x7b' :: (cs ++ rest) :=
      skipSpaces_cons (by decide) _
    simp [readValue, hbrace, htext, hread, objectOfMembers_some]

end

theorem readsLayouts (fuel : Nat) : ReadsLayouts fuel := by
  induction fuel with
  | zero =>
    -- no layout is empty
    refine ⟨fun v cs rest hv _ hlength => ?_, fun items cs rest hitems hlength => ?_,
      fun members cs rest hmembers hlength => ?_⟩
    · obtain ⟨c, cs, rfl, -⟩ := hv.exists_cons
      cases hlength
    · cases hitems <;> simp at hlength
    · cases hmembers <;> simp at hlength
  | succ fuel ih =>
    exact ⟨fun v cs rest => ih.readValue_succ, fun items cs rest => ih.readItems_succ rest,
      fun members cs rest => ih.readMembers_succ rest⟩

/-- A value is read back from each of its layouts. -/
theorem readValue_layout {v : Json} {cs rest : List Char} (fuel : Nat) (h : Layout v cs)
    (hrest : EndsNumber rest) (hlength : cs.length ≤ fuel) :
    readValue fuel (cs ++ rest) = some (v, rest) :=
  (readsLayouts fuel).1 v cs rest h hrest hlength

/-- A text that is a layout of a value reads as this value. -/
theorem parse_layout {v : Json} {cs : List Char} (h : Layout v cs) :
    parse (String.ofList cs) = some v := by
  have hread := readValue_layout (2 * cs.length + 2) h endsNumber_nil (by omega)
  rw [List.append_nil] at hread
  simp [parse, hread, skipSpaces]

/-! ### Printing -/

/-- The values that a value consists of. -/
def parts : Json → List Json
  | array items => items
  | object members => members.map Prod.snd
  | _ => []

/-- A property holds for a value and for all that it consists of. -/
inductive Everywhere (p : Json → Prop) : Json → Prop where
  | intro {v : Json} (h : p v) (hparts : ∀ w ∈ v.parts, Everywhere p w) : Everywhere p v

/-- Whether a value is no number, or an integer of 64 bits. -/
def FitsNumber : Json → Prop
  | integer n => IsInteger64 n
  | decimal _ | unreadable => False
  | _ => True

/-- All numbers in a value are integers of 64 bits. -/
def IsWritable (v : Json) : Prop := Everywhere FitsNumber v

/-- A value without parts that is no bracket. -/
def isScalar : Json → Bool
  | array _ | object _ => false
  | _ => true

theorem layout_scalar {v : Json} (h : FitsNumber v) (hv : v.isScalar) : Layout v (scalar v) := by
  cases v with
  | null => exact .null
  | bool b =>
    cases b with
    | true => exact .boolTrue
    | false => exact .boolFalse
  | integer n => exact .integer h
  | decimal | unreadable => exact h.elim
  | string s => exact .string s
  | array | object => cases hv

theorem isSpaces_singleton : IsSpaces [' '] := by
  intro c hc
  rw [List.mem_singleton.mp hc]
  rfl

theorem Layout.spaced {v : Json} {cs : List Char} (h : Layout v cs) : Spaced v cs := by
  have hspaced := Spaced.mk isSpaces_nil h isSpaces_nil
  rwa [List.nil_append, List.append_nil] at hspaced

theorem layoutItems_compact {items : List Json} (hne : items ≠ [])
    (h : ∀ item ∈ items, Layout item (compact item)) : LayoutItems items (compactItems items) := by
  induction items with
  | nil => exact absurd rfl hne
  | cons item items ih =>
    have hitem := (h item List.mem_cons_self).spaced
    cases items with
    | nil => exact .last hitem
    | cons next items =>
      exact .more hitem (ih (List.cons_ne_nil _ _) fun v hv => h v (List.mem_cons_of_mem _ hv))

theorem layoutMembers_compact {members : List (String × Json)} (hne : members ≠ [])
    (h : ∀ m ∈ members, Layout m.2 (compact m.2)) :
    LayoutMembers members (compactMembers members) := by
  induction members with
  | nil => exact absurd rfl hne
  | cons m members ih =>
    have hkey := (Layout.string m.1).spaced
    have hvalue := (h m List.mem_cons_self).spaced
    cases members with
    | nil => simpa [compactMembers] using LayoutMembers.last hkey hvalue
    | cons next members =>
      have hmore := ih (List.cons_ne_nil _ _) fun m' hm' => h m' (List.mem_cons_of_mem _ hm')
      simpa [compactMembers] using LayoutMembers.more hkey hvalue hmore

/-- The compact text of a value is one of its layouts. -/
theorem layout_compact {v : Json} (h : v.IsWritable) : Layout v (compact v) := by
  induction h with
  | @intro v hnumber hparts ih =>
    cases v with
    | null | bool | integer | decimal | string | unreadable => exact layout_scalar hnumber rfl
    | array items =>
      by_cases hitems : items = []
      · subst hitems
        exact .noItems
      · exact .array (layoutItems_compact hitems ih)
    | object members =>
      by_cases hmembers : members = []
      · subst hmembers
        exact .noMembers
      · exact .object (layoutMembers_compact hmembers fun m hm => ih m.2 (List.mem_map_of_mem hm))

theorem layoutItems_indented (depth : Nat) {items : List Json} (hne : items ≠ [])
    (h : ∀ item ∈ items, ∀ depth, Layout item (indented depth item)) :
    LayoutItems items (indentedItems depth items) := by
  induction items with
  | nil => exact absurd rfl hne
  | cons item items ih =>
    have hitem := h item List.mem_cons_self (depth + 1)
    have hbefore := isSpaces_newline (depth + 1)
    cases items with
    | nil => exact .last (.mk hbefore hitem (isSpaces_newline depth))
    | cons next items =>
      have hmore := ih (List.cons_ne_nil _ _) fun v hv => h v (List.mem_cons_of_mem _ hv)
      simpa [indentedItems] using LayoutItems.more (.mk hbefore hitem isSpaces_nil) hmore

theorem layoutMembers_indented (depth : Nat) {members : List (String × Json)} (hne : members ≠ [])
    (h : ∀ m ∈ members, ∀ depth, Layout m.2 (indented depth m.2)) :
    LayoutMembers members (indentedMembers depth members) := by
  induction members with
  | nil => exact absurd rfl hne
  | cons m members ih =>
    have hkey := Spaced.mk (isSpaces_newline (depth + 1)) (.string m.1) isSpaces_nil
    have hvalue := h m List.mem_cons_self (depth + 1)
    cases members with
    | nil =>
      have hlast := Spaced.mk isSpaces_singleton hvalue (isSpaces_newline depth)
      simpa [indentedMembers] using LayoutMembers.last hkey hlast
    | cons next members =>
      have hmore := ih (List.cons_ne_nil _ _) fun m' hm' => h m' (List.mem_cons_of_mem _ hm')
      have hfirst := Spaced.mk isSpaces_singleton hvalue isSpaces_nil
      simpa [indentedMembers] using LayoutMembers.more hkey hfirst hmore

/-- The indented text of a value is one of its layouts, however far in the value stands. -/
theorem layout_indented {v : Json} (h : v.IsWritable) (depth : Nat) : Layout v (indented depth v) := by
  induction h generalizing depth with
  | @intro v hnumber hparts ih =>
    cases v with
    | null | bool | integer | decimal | string | unreadable => exact layout_scalar hnumber rfl
    | array items =>
      cases items with
      | nil => exact .noItems
      | cons item items => exact .array (layoutItems_indented depth (List.cons_ne_nil _ _) ih)
    | object members =>
      cases members with
      | nil => exact .noMembers
      | cons m members =>
        refine .object (layoutMembers_indented depth (List.cons_ne_nil _ _) fun m' hm' => ?_)
        exact ih m'.2 (List.mem_map_of_mem hm')

/-- The compact text of a value reads as this value. -/
theorem parse_compactText {v : Json} (h : v.IsWritable) : parse v.render = some v :=
  parse_layout (layout_compact h)

/-- The indented text of a value reads as this value. -/
theorem parse_indentedText {v : Json} (h : v.IsWritable) : parse v.renderIndented = some v :=
  parse_layout (layout_indented h 0)

end MigrationPreview.Json
