import MigrationPreview.Migration.Statement
import MigrationPreview.Proofs.Text

/-!
# What the readers of calls have read

Each reader of a call is inverted: when it succeeds, the text begins with the shape it stands for,
spelled out with its blanks and quotes, and where the shape stands the reader succeeds. A call on the
schema, which decides the table of every operation behind it, is put together from these shapes.

## Main results

* `Call.eq_append_of_readOpening`, `Call.eq_append_of_readQuoted`: a method with its parenthesis and
  a name in quotes
* `Call.readOpening_append_paren`, `Call.readQuoted_append_quote`: the converse
* `exists_call_of_schemaCall?`: a line with a call on the schema holds its text
-/

namespace MigrationPreview

open Text

variable {cs rest : List Char} {name table method : String}

namespace Call

theorem isBlank_of_isQuote {c : Char} (h : isQuote c = true) : isBlank c = false := by
  simp only [isQuote, Bool.or_eq_true, beq_iff_eq] at h
  rcases h with rfl | rfl <;> decide

theorem eq_append_of_readQuoted (h : readQuoted cs = some (name, rest)) :
    ∃ opening closing, isQuote opening ∧ isQuote closing ∧ name.toList ≠ [] ∧
      name.toList.all (!isQuote ·) ∧ cs = opening :: name.toList ++ closing :: rest := by
  unfold readQuoted at h
  split at h
  · simp at h
  · next opening behind =>
    split at h
    · next hopening =>
      split at h
      · next c more closing after hname hclosing =>
        obtain ⟨rfl, rfl⟩ := Prod.mk.inj (Option.some_inj.mp h)
        have hquote : isQuote closing := by
          have hnot := List.head?_dropWhile_not (!isQuote ·) behind
          rw [hclosing] at hnot
          simpa using hnot
        refine ⟨opening, closing, hopening, hquote, by simp, ?_, ?_⟩
        · rw [String.toList_ofList, ← hname]
          exact List.all_takeWhile
        · rw [String.toList_ofList, List.cons_append, ← hname, ← hclosing,
            List.takeWhile_append_dropWhile]
      · simp at h
    · simp at h

/-- A name in quotes is read up to its closing quote. -/
theorem readQuoted_append_quote {opening closing : Char} (hopening : isQuote opening)
    (hclosing : isQuote closing) (hne : name.toList ≠ []) (hname : name.toList.all (!isQuote ·))
    (rest : List Char) :
    readQuoted (opening :: name.toList ++ closing :: rest) = some (name, rest) := by
  have hin : ∀ c ∈ name.toList, (!isQuote c) = true := List.all_eq_true.mp hname
  have htake : (closing :: rest).takeWhile (!isQuote ·) = [] := by simp [hclosing]
  have hdrop : (closing :: rest).dropWhile (!isQuote ·) = closing :: rest := by simp [hclosing]
  rw [List.cons_append, readQuoted, if_pos hopening, List.takeWhile_append_of_pos hin,
    List.dropWhile_append_of_pos hin, htake, hdrop, List.append_nil]
  obtain ⟨c, cs, hcs⟩ := List.exists_cons_of_ne_nil hne
  simp only [hcs]
  rw [← hcs, String.ofList_toList]

theorem eq_append_of_readOpening (h : readOpening cs = some (name, rest)) :
    ∃ blanks blanks' : List Char, blanks.all isBlank ∧ blanks'.all isBlank ∧
      cs = name.toList ++ blanks ++ '(' :: blanks' ++ rest := by
  unfold readOpening at h
  dsimp only at h
  split at h
  · next behind hbehind =>
    obtain ⟨rfl, rfl⟩ := Prod.mk.inj (Option.some_inj.mp h)
    obtain ⟨blanks, hblanks, hsplit⟩ :=
      exists_blanks_append_skipBlanks (cs.dropWhile fun c => !isBlank c && c != '(')
    obtain ⟨blanks', hblanks', hsplit'⟩ := exists_blanks_append_skipBlanks behind
    refine ⟨blanks, blanks', hblanks, hblanks', ?_⟩
    rw [String.toList_ofList, List.append_assoc, List.cons_append, ← hsplit', ← hbehind,
      List.append_assoc, ← hsplit, List.takeWhile_append_dropWhile]
  · simp at h

/-- A method is read up to its first argument, whatever blanks stand around the parenthesis. -/
theorem readOpening_append_paren {blanks : List Char}
    (hmethod : ∀ c ∈ method.toList, (!isBlank c && c != '(') = true) (hblanks : blanks.all isBlank)
    (rest : List Char) :
    readOpening (method.toList ++ blanks ++ '(' :: rest) = some (method, skipBlanks rest) := by
  have hparen : skipBlanks ('(' :: rest) = '(' :: rest :=
    skipBlanks_cons_of_not_isBlank (by decide) rest
  -- what follows the method, a blank or the parenthesis, ends its name
  obtain ⟨htake, hdrop⟩ :
      (blanks ++ '(' :: rest).takeWhile (fun c => !isBlank c && c != '(') = [] ∧
      (blanks ++ '(' :: rest).dropWhile (fun c => !isBlank c && c != '(') =
        blanks ++ '(' :: rest := by
    cases blanks with
    | nil => simp
    | cons c cs =>
      have hc : isBlank c = true := (Bool.and_eq_true_iff.mp hblanks).1
      simp [hc]
  rw [List.append_assoc, readOpening, List.takeWhile_append_of_pos hmethod,
    List.dropWhile_append_of_pos hmethod, htake, hdrop, skipBlanks_append hblanks, hparen,
    List.append_nil, String.ofList_toList]
  rfl

theorem readQuoted_of_quoted? (h : quoted? cs = some name) :
    ∃ rest, readQuoted cs = some (name, rest) := by
  obtain ⟨⟨name, rest⟩, hread, rfl⟩ := Option.map_eq_some_iff.mp h
  exact ⟨rest, hread⟩

/-- The method of a call that is found is one of those that are looked for. -/
theorem method_mem_of_find? {α : Type} {methods : List String}
    {readArguments : List Char → Option α} {arguments : α}
    (h : find? methods readArguments cs = some (method, arguments)) : method ∈ methods := by
  obtain ⟨_, _, -, hread⟩ := exists_of_firstMatch h
  obtain ⟨⟨name, _⟩, -, hcall⟩ := Option.bind_eq_some_iff.mp hread
  dsimp only at hcall
  split at hcall
  · next hmethod =>
    obtain ⟨_, -, hpair⟩ := Option.bind_eq_some_iff.mp hcall
    obtain ⟨rfl, -⟩ := Prod.mk.inj (Option.some_inj.mp hpair)
    exact hmethod
  · simp at hcall

end Call

/-! ### Calls on the schema -/

/-- The text of a call on the schema that names a table: `Schema::`, the method, its parenthesis and
the table in quotes, with blanks on either side of the parenthesis. -/
def IsSchemaCall (method table : String) (cs : List Char) : Prop :=
  ∃ blanks blanks' opening closing, blanks.all isBlank ∧ blanks'.all isBlank ∧
    Call.isQuote opening ∧ Call.isQuote closing ∧
    cs = "Schema::".toList ++ method.toList ++ blanks ++ '(' :: blanks' ++
      opening :: table.toList ++ [closing]

theorem exists_call_of_readSchemaCall (h : readSchemaCall cs = some (method, table)) :
    method ∈ ["create", "table", "drop", "dropIfExists"] ∧
      ∃ call rest, IsSchemaCall method table call ∧ cs = call ++ rest := by
  unfold readSchemaCall at h
  obtain ⟨behind, hbehind, h⟩ := Option.bind_eq_some_iff.mp h
  obtain ⟨⟨name, arguments⟩, hopening, h⟩ := Option.bind_eq_some_iff.mp h
  dsimp only at h
  split at h
  · next hmethod =>
    obtain ⟨quoted, hquoted, h⟩ := Option.bind_eq_some_iff.mp h
    obtain ⟨rfl, rfl⟩ := Prod.mk.inj (Option.some_inj.mp h)
    obtain ⟨rest, hread⟩ := Call.readQuoted_of_quoted? hquoted
    obtain ⟨blanks, blanks', hblanks, hblanks', hname⟩ := Call.eq_append_of_readOpening hopening
    obtain ⟨opening, closing, hopen, hclose, -, -, harguments⟩ := Call.eq_append_of_readQuoted hread
    refine ⟨hmethod, _, rest,
      ⟨blanks, blanks', opening, closing, hblanks, hblanks', hopen, hclose, rfl⟩, ?_⟩
    rw [eq_append_of_expect hbehind, hname, harguments]
    simp only [List.append_assoc, List.cons_append, List.nil_append]
  · simp at h

/-- A line with a call on the schema holds the text of the call. -/
theorem exists_call_of_schemaCall? (h : schemaCall? cs = some (method, table)) :
    method ∈ ["create", "table", "drop", "dropIfExists"] ∧
      ∃ call, IsSchemaCall method table call ∧ call <:+: cs := by
  obtain ⟨skipped, start, rfl, hread⟩ := exists_of_firstMatch h
  obtain ⟨hmethod, call, rest, hcall, rfl⟩ := exists_call_of_readSchemaCall hread
  exact ⟨hmethod, call, hcall, skipped, rest, by rw [List.append_assoc]⟩

end MigrationPreview
