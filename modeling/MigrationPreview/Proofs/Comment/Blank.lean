import MigrationPreview.Proofs.Comment.Lines

/-!
# Blank lines at the end of a body

Blank lines behind the last line that says something do not matter to a body. They are passed over, and where
they belong to the statement of a foreign key no call of it goes on in them.

## Main results

* `sameCalls_referencesChain?`: blank lines behind a statement leave its calls alone
* `operationsOfLines_append_blank`, `operationsOfLines_splitOn_append`: blank lines behind the lines of a body
  leave its operations alone
-/

namespace MigrationPreview

open Text

/-- Whether all of some lines are blank. -/
def AllBlank (lines : List (List Char)) : Prop := ∀ line ∈ lines, line.all isBlank

variable {lines blanks window : List (List Char)}

theorem AllBlank.take (h : AllBlank blanks) (count : Nat) : AllBlank (blanks.take count) :=
  fun line hline => h line (List.mem_of_mem_take hline)

theorem AllBlank.intercalate (h : AllBlank blanks) : ([' '].intercalate blanks).all isBlank := by
  refine intercalate_of_append (P := fun cs => cs.all isBlank) rfl (fun hcs hds => ?_) (by decide) h
  rw [List.all_append, hcs, hds]
  rfl

/-- Blank lines that are joined to others add blanks. -/
theorem exists_intercalate_append (lines : List (List Char)) (h : AllBlank blanks) :
    ∃ behind : List Char, behind.all isBlank ∧
      [' '].intercalate (lines ++ blanks) = [' '].intercalate lines ++ behind := by
  induction lines with
  | nil => exact ⟨_, h.intercalate, rfl⟩
  | cons line lines ih =>
    obtain ⟨behind, hbehind, hjoined⟩ := ih
    cases lines with
    | nil =>
      cases blanks with
      | nil => exact ⟨[], rfl, by simp⟩
      | cons blank blanks =>
        refine ⟨' ' :: [' '].intercalate (blank :: blanks), ?_, ?_⟩
        · rw [List.all_cons, h.intercalate]
          decide
        · rw [List.singleton_append, List.intercalate_cons_cons]
          simp
    | cons line' lines =>
      refine ⟨behind, hbehind, ?_⟩
      rw [List.cons_append, List.cons_append, List.intercalate_cons_cons, ← List.cons_append, hjoined,
        List.intercalate_cons_cons, List.append_assoc, List.append_assoc, List.append_assoc]

/-! ### Statements -/

/-- Blank lines behind a window may belong to its statement. -/
theorem exists_statementLines_append (window : List (List Char)) (h : AllBlank blanks) :
    ∃ more, AllBlank more ∧ statementLines (window ++ blanks) = statementLines window ++ more := by
  unfold statementLines
  dsimp only
  rw [List.take_append]
  generalize window.take statementLimit = lines
  have hblanks := h.take (statementLimit - window.length)
  generalize blanks.take (statementLimit - window.length) = blanks at hblanks
  rw [List.takeWhile_append]
  split
  · next hall =>
    -- no line of the window ends the statement
    have hlines : lines.takeWhile (!·.contains ';') = lines :=
      (List.takeWhile_prefix _).eq_of_length hall
    refine ⟨_, hblanks.take ((lines ++ blanks.takeWhile (!·.contains ';')).length + 1 - lines.length), ?_⟩
    rw [List.take_append, hlines, List.take_of_length_le (by simp; omega),
      List.take_of_length_le (Nat.le_succ _)]
  · next hends =>
    have hlt := (List.takeWhile_prefix (l := lines) (!·.contains ';')).length_le
    refine ⟨[], by simp [AllBlank], ?_⟩
    rw [List.take_append_of_le_length (by omega), List.append_nil]

theorem not_contains_references {line : List Char} (h : line.all isBlank) :
    Text.contains "references(".toList line = false := by
  rw [Bool.eq_false_iff, ne_eq, contains_iff_isInfix]
  intro hinfix
  have hmem : 'r' ∈ line := hinfix.subset (by decide)
  exact absurd (List.all_eq_true.mp h 'r' hmem) (by decide)

/-- Blank lines belong to the lines from a call of `references` only if there is such a call. -/
theorem exists_referencesLines_append (window : List (List Char)) (h : AllBlank blanks) :
    ∃ more, AllBlank more ∧ referencesLines (window ++ blanks) = referencesLines window ++ more ∧
      (referencesLines window = [] → more = []) := by
  obtain ⟨more, hmore, hlines⟩ := exists_statementLines_append window h
  rw [referencesLines, referencesLines, hlines, List.dropWhile_append]
  split
  · next hnone =>
    have hdrop : more.dropWhile (fun line => !Text.contains "references(".toList line) = [] :=
      List.dropWhile_eq_nil_iff.mpr fun line hline => by
        rw [not_contains_references (hmore line hline)]
        rfl
    exact ⟨[], by simp [AllBlank], by rw [hdrop, List.isEmpty_iff.mp hnone]; rfl, fun _ => rfl⟩
  · next hsome =>
    refine ⟨more, hmore, rfl, fun hnil => absurd ?_ hsome⟩
    rw [hnil]
    rfl

/-- Blank lines behind a statement leave its calls alone. -/
theorem sameCalls_referencesChain? (window : List (List Char)) (h : AllBlank blanks) :
    Option.Rel SameCalls (referencesChain? (window ++ blanks)) (referencesChain? window) := by
  obtain ⟨more, hmore, hlines, hnil⟩ := exists_referencesLines_append window h
  rw [referencesChain?_eq, referencesChain?_eq, hlines]
  cases hreferences : referencesLines window with
  | nil =>
    rw [hnil hreferences]
    exact .none
  | cons line lines =>
    obtain ⟨behind, hbehind, hjoined⟩ := exists_intercalate_append (line :: lines) hmore
    rw [hjoined]
    exact .some fun _ _ hread => firstMatch_append_blanks hread _ hbehind

/-! ### Lines of a body -/

theorem operationsOfLines_of_blank (direction : Direction) (table : Option String) (number : Nat)
    (h : AllBlank blanks) : operationsOfLines direction table number blanks = [] := by
  induction blanks generalizing number with
  | nil => rfl
  | cons line blanks ih =>
    obtain ⟨hline, hblanks⟩ := List.forall_mem_cons.mp h
    have htrim : trim line = [] := by
      rw [← List.nil_append line, trim_append_blanks hline]
      rfl
    rw [operationsOfLines_of_isPassedOver (by rw [htrim]; rfl), ih _ hblanks]

/-- Blank lines behind the lines of a body leave its operations alone, definitions apart. -/
theorem operationsOfLines_append_blank (direction : Direction) (h : AllBlank blanks)
    (table : Option String) (number : Nat) :
    (operationsOfLines direction table number (lines ++ blanks)).map Operation.withoutDefinition =
      (operationsOfLines direction table number lines).map Operation.withoutDefinition := by
  induction lines generalizing table number with
  | nil => rw [List.nil_append, operationsOfLines_of_blank direction table number h, operationsOfLines]
  | cons line lines ih =>
    have hdrafts : ∀ table, (Line.drafts ⟨trim line, table, line :: lines ++ blanks⟩).map
          Draft.withoutDefinition =
        (Line.drafts ⟨trim line, table, line :: lines⟩).map Draft.withoutDefinition := fun table =>
      drafts_congr (fun _ _ _ => rfl) rfl fun _ => sameCalls_referencesChain? (line :: lines) h
    have ih := ih (blockOpened? line <|> table) (number + 1)
    rw [List.cons_append, operationsOfLines_cons, operationsOfLines_cons, List.map_append, List.map_append,
      ih]
    split
    · rfl
    · rw [map_withoutDefinition_toOperation, map_withoutDefinition_toOperation, ← List.cons_append, hdrafts]

theorem allBlank_splitOn {cs : List Char} (h : cs.all isBlank) : AllBlank (cs.splitOn '\n') :=
  fun _ hline => List.all_eq_true.mpr fun c hc =>
    List.all_eq_true.mp h c ((isInfix_of_mem_splitOnP hline).subset hc)

/-- Blanks behind the last line break of a text leave the operations of its lines alone, definitions
apart. -/
theorem operationsOfLines_splitOn_append (direction : Direction) {cs behind : List Char}
    (hcs : EndsLine cs) (hbehind : behind.all isBlank) (table : Option String) (number : Nat) :
    (operationsOfLines direction table number ((cs ++ behind).splitOn '\n')).map
        Operation.withoutDefinition =
      (operationsOfLines direction table number (cs.splitOn '\n')).map Operation.withoutDefinition := by
  have hblank := allBlank_splitOn hbehind
  have hnil : AllBlank (([] : List Char).splitOn '\n') := allBlank_splitOn rfl
  rcases hcs with rfl | ⟨front, rfl⟩
  · rw [List.nil_append, operationsOfLines_of_blank direction table number hblank,
      operationsOfLines_of_blank direction table number hnil]
  · rw [List.append_assoc, List.singleton_append, List.splitOn_append_cons_self,
      List.splitOn_append_cons_self, operationsOfLines_append_blank direction hblank,
      operationsOfLines_append_blank direction hnil]

end MigrationPreview
