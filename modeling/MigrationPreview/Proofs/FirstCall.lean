import MigrationPreview.Proofs.Name.Reader

/-!
# The first call in a text

The readers of calls are exact: they succeed at the places where a call stands, spelled with any blanks
around its parenthesis and any quotes around its name, and nowhere else. A search therefore finds the
leftmost call of its methods, and it fails only if the text holds none.

## Main definitions

* `Text.IsLeftmost`: what stands at the leftmost place where a shape stands at all
* `Call.Begins`: a text that begins with a call
* `IsFirstSchemaCall`: the leftmost call on the schema in a line

## Main results

* `Call.exists_read_iff_begins`: the readers of a call succeed exactly where a call stands
* `schemaCall?_eq_some_iff`: the call on the schema that is found is the leftmost one
-/

namespace MigrationPreview

open Text

variable {cs : List Char} {method name table : String}

/-! ### Leftmost places -/

namespace Text

/-- The leftmost place of the text where a shape stands, for some value, is one where it stands for
`found`. -/
def IsLeftmost {α : Type} (shape : α → List Char → Prop) (found : α) (cs : List Char) : Prop :=
  ∃ before rest, cs = before ++ rest ∧ shape found rest ∧
    ∀ skipped, skipped ≠ [] → skipped <:+ before → ∀ other, ¬ shape other (skipped ++ rest)

variable {α : Type} {read : List Char → Option α} {shape : α → List Char → Prop} {found : α}

/-- A search with an exact reader finds what stands at the leftmost place. -/
theorem firstMatch_eq_some_iff_isLeftmost (hread : ∀ cs a, read cs = some a ↔ shape a cs) :
    firstMatch read cs = some found ↔ IsLeftmost shape found cs := by
  have hnone : ∀ cs, read cs = none ↔ ∀ a, ¬ shape a cs := by
    intro cs
    simp only [← hread, Option.eq_none_iff_forall_ne_some, ne_eq]
  simp only [firstMatch_eq_some_iff, IsLeftmost, hread, hnone]

/-- A search fails exactly if its shape stands nowhere. -/
theorem isSome_firstMatch_iff :
    (firstMatch read cs).isSome ↔ ∃ rest, rest <:+ cs ∧ (read rest).isSome := by
  -- a search that fails is the one that is characterised, so both sides are negated
  rw [← not_iff_not, Bool.not_eq_true, Option.isSome_eq_false_iff, Option.isNone_iff_eq_none,
    firstMatch_eq_none_iff]
  simp

end Text

/-! ### Calls with a name -/

namespace Call

/-- A text begins with a call and goes on with `rest`: `word`, the method, its parenthesis with blanks on
either side, and the name in quotes. -/
def Begins (word : List Char) (method name : String) (rest cs : List Char) : Prop :=
  IsName name ∧ ∃ blanks blanks' opening closing,
    blanks.all isBlank ∧ blanks'.all isBlank ∧ isQuote opening ∧ isQuote closing ∧
    cs = word ++ (method.toList ++ blanks ++ '(' :: blanks' ++
      (opening :: name.toList ++ closing :: rest))

/-- The readers of a call succeed exactly where a call stands. -/
theorem exists_read_iff_begins {word rest : List Char}
    (hmethod : ∀ c ∈ method.toList, (!isBlank c && c != '(') = true) :
    (∃ arguments, (expect word cs).bind readOpening = some (method, arguments) ∧
      readQuoted arguments = some (name, rest)) ↔ Begins word method name rest cs := by
  constructor
  · rintro ⟨arguments, hread, hname⟩
    obtain ⟨behind, hword, hopening⟩ := Option.bind_eq_some_iff.mp hread
    obtain ⟨blanks, blanks', hblanks, hblanks', rfl⟩ := eq_append_of_readOpening hopening
    obtain ⟨opening, closing, hopen, hclose, -, -, rfl⟩ := eq_append_of_readQuoted hname
    exact ⟨(namedIn_of_readQuoted hname).isName, blanks, blanks', opening, closing, hblanks, hblanks',
      hopen, hclose, eq_append_of_expect hword⟩
  · rintro ⟨hname, blanks, blanks', opening, closing, hblanks, hblanks', hopen, hclose, rfl⟩
    have hskip : skipBlanks (opening :: name.toList ++ closing :: rest) =
        opening :: name.toList ++ closing :: rest :=
      skipBlanks_cons_of_not_isBlank (isBlank_of_isQuote hopen) _
    refine ⟨opening :: name.toList ++ closing :: rest, ?_, readQuoted_append_quote hopen hclose
      (by simpa using hname.ne_empty) (by simpa using hname.isQuote_eq_false) rest⟩
    rw [expect_append, Option.bind_some, List.append_assoc, List.cons_append,
      readOpening_append_paren hmethod hblanks, skipBlanks_append hblanks', hskip]

/-! ### Searches for a method -/

section Search

variable {α : Type} {found : α} {method' : String} (result : String × List Char → α)

/-- A call stands at the beginning of a text, whose name and the text behind it give `found`. -/
def Gives (method : String) (found : α) (cs : List Char) : Prop :=
  ∃ name rest, Begins "->".toList method name rest cs ∧ result (name, rest) = found

variable (hmethod : ∀ c ∈ method.toList, (!isBlank c && c != '(') = true)
include hmethod

theorem readCall_eq_some_iff :
    readCall [method] (fun cs => (readQuoted cs).map result) cs = some (method', found) ↔
      method' = method ∧ Gives result method found cs := by
  constructor
  · intro h
    obtain ⟨⟨called, arguments⟩, hread, h⟩ := Option.bind_eq_some_iff.mp h
    obtain ⟨hcalled, h⟩ := Option.ite_none_right_eq_some.mp h
    obtain ⟨given, hgiven, h⟩ := Option.bind_eq_some_iff.mp h
    obtain ⟨⟨name, rest⟩, hname, rfl⟩ := Option.map_eq_some_iff.mp hgiven
    obtain ⟨rfl, rfl⟩ := Prod.mk.inj (Option.some_inj.mp h)
    obtain rfl := List.mem_singleton.mp hcalled
    exact ⟨rfl, name, rest, (exists_read_iff_begins hmethod).mp ⟨arguments, hread, hname⟩, rfl⟩
  · rintro ⟨rfl, name, rest, hbegins, rfl⟩
    obtain ⟨arguments, hread, hname⟩ := (exists_read_iff_begins hmethod).mpr hbegins
    have hopening : readMethod cs = some (method', arguments) := hread
    simp [readCall, hopening, hname]

/-- A search for a method finds what its leftmost call gives. -/
theorem find?_eq_some_iff_isLeftmost :
    find? [method] (fun cs => (readQuoted cs).map result) cs = some (method', found) ↔
      method' = method ∧ IsLeftmost (Gives result method) found cs := by
  rw [find?, firstMatch_eq_some_iff_isLeftmost fun cs call => readCall_eq_some_iff result hmethod]
  simp only [IsLeftmost, Prod.forall, not_and]
  grind

/-- A search for a method succeeds exactly if a call of it with a name stands somewhere in the text. -/
theorem isSome_find?_iff :
    (find? [method] (fun cs => (readQuoted cs).map result) cs).isSome ↔
      ∃ start name rest, start <:+ cs ∧ Begins "->".toList method name rest start := by
  rw [find?, isSome_firstMatch_iff]
  simp [Option.isSome_iff_exists, readCall_eq_some_iff result hmethod, Gives]

end Search

end Call

/-! ### Calls on the schema -/

/-- The methods of calls on the schema that name a table. -/
def schemaMethods : List String := ["create", "table", "drop", "dropIfExists"]

/-- The leftmost call on the schema in a line that names a table is one of `method` and `table`. -/
def IsFirstSchemaCall (method table : String) (line : List Char) : Prop :=
  IsLeftmost (fun call cs => call.1 ∈ schemaMethods ∧
    ∃ rest, Call.Begins "Schema::".toList call.1 call.2 rest cs) (method, table) line

theorem readSchemaCall_eq_some_iff :
    readSchemaCall cs = some (method, table) ↔
      method ∈ schemaMethods ∧ ∃ rest, Call.Begins "Schema::".toList method table rest cs := by
  have hmethods : ∀ m ∈ schemaMethods, ∀ c ∈ m.toList, (!isBlank c && c != '(') = true := by decide
  constructor
  · intro h
    obtain ⟨behind, hword, h⟩ := Option.bind_eq_some_iff.mp h
    obtain ⟨⟨called, arguments⟩, hopening, h⟩ := Option.bind_eq_some_iff.mp h
    obtain ⟨hcalled, h⟩ := Option.ite_none_right_eq_some.mp h
    obtain ⟨name, hquoted, h⟩ := Option.bind_eq_some_iff.mp h
    obtain ⟨rfl, rfl⟩ := Prod.mk.inj (Option.some_inj.mp h)
    obtain ⟨rest, hname⟩ := Call.readQuoted_of_quoted? hquoted
    exact ⟨hcalled, rest, (Call.exists_read_iff_begins (hmethods called hcalled)).mp
      ⟨arguments, Option.bind_eq_some_iff.mpr ⟨behind, hword, hopening⟩, hname⟩⟩
  · rintro ⟨hmethod, rest, hbegins⟩
    obtain ⟨arguments, hread, hname⟩ :=
      (Call.exists_read_iff_begins (hmethods method hmethod)).mpr hbegins
    obtain ⟨behind, hword, hopening⟩ := Option.bind_eq_some_iff.mp hread
    have hmem : method ∈ ["create", "table", "drop", "dropIfExists"] := hmethod
    rw [readSchemaCall, hword, Option.bind_eq_bind, Option.bind_some, hopening]
    simp only [Option.bind_eq_bind, Option.bind_some, if_pos hmem, Call.quoted?, hname,
      Option.map_some, Option.pure_def]

/-- The call on the schema that is found in a line is the leftmost one. -/
theorem schemaCall?_eq_some_iff {line : List Char} :
    schemaCall? line = some (method, table) ↔ IsFirstSchemaCall method table line :=
  firstMatch_eq_some_iff_isLeftmost fun _ _ => readSchemaCall_eq_some_iff

theorem IsFirstSchemaCall.unique {line : List Char} {method' table' : String}
    (h : IsFirstSchemaCall method table line) (h' : IsFirstSchemaCall method' table' line) :
    method = method' ∧ table = table' := by
  have heq := (schemaCall?_eq_some_iff.mpr h).symm.trans (schemaCall?_eq_some_iff.mpr h')
  simpa using heq

end MigrationPreview
