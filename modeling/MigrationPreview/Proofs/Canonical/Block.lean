import MigrationPreview.Proofs.Canonical.Draft
import MigrationPreview.Proofs.Walk

/-!
# The lines of a canonical method

The lines of a method are walked one after the other. A call on the schema sets the table for the lines
of its block, each of these lines gives what its statement denotes, and the lines that are left give
nothing.

## Main results

* `Canonical.operationsOfLines_lines`: the lines of a method give what its statements denote
-/

namespace MigrationPreview.Canonical

open Text

variable {context : Option String} {direction : Direction} {number : Nat} {rest : List (List Char)}

/-! ### Steps of the walk -/

/-- A line that is read, behind its margin. -/
theorem operationsOfLines_margin {blanks text : List Char} (hblanks : blanks.all isBlank)
    (hfirst : ∀ c ∈ text.head?, isBlank c = false) (hlast : ∀ c ∈ text.getLast?, isBlank c = false)
    (hpassed : isPassedOver text = false) :
    operationsOfLines direction context number ((blanks ++ text) :: rest) =
      (Line.drafts ⟨text, openedTable? text <|> context, (blanks ++ text) :: rest⟩).map
          (·.toOperation direction number) ++
        operationsOfLines direction (openedTable? text <|> context) (number + 1) rest :=
  operationsOfLines_of_read (trim_append hblanks hfirst hlast) (.inl hpassed)

/-- A text without a colon calls nothing on the schema. -/
theorem schemaCall?_eq_none {text : List Char} (h : ':' ∉ text) : schemaCall? text = none := by
  cases hcall : schemaCall? text with
  | none => rfl
  | some found =>
    obtain ⟨method, table⟩ := found
    obtain ⟨-, call, ⟨blanks, blanks', opening, closing, -, -, -, -, hcall⟩, hpart⟩ :=
      exists_call_of_schemaCall? hcall
    refine absurd (hpart.subset ?_) h
    rw [hcall]
    simp

/-- A text without an arrow asks for nothing that belongs to a table. -/
theorem draftsIn_eq_nil {text : List Char} (h : '-' ∉ text) (table : String)
    (window : List (List Char)) : Line.draftsIn table ⟨text, context, window⟩ = [] := by
  have hfind : ∀ {α : Type} (methods : List String) (readArguments : List Char → Option α),
      Call.find? methods readArguments text = none := by
    intro α methods readArguments
    have hnone : ∀ c ∈ text, ∀ cs, Call.readCall methods readArguments (c :: cs) = none :=
      fun c hc cs => readCall_cons_of_ne (fun heq => h (heq ▸ hc)) cs
    have hfirst := firstMatch_append_of_forall hnone []
    rw [List.append_nil] at hfirst
    exact hfirst
  simp [Line.draftsIn, columnModify?, columnAdd?, columnDrops, columnRename?, indexAdd?, indexDrop?,
    foreignKeyAdd?, foreignKeyDrop?, settingChange?, hfind]

/-! ### Lines in the block of a table -/

/-- A line in the block of a table gives what its statement denotes. -/
theorem operationsOfLines_statement (table : Name) (statement : BlockStatement) :
    operationsOfLines direction (some table.text) number
        ((BlockStatement.indentation ++ statement.render) :: rest) =
      (statement.denote table.text).map (·.toOperation direction number) ++
        operationsOfLines direction (some table.text) (number + 1) rest := by
  have hschema : schemaCall? statement.render = none :=
    schemaCall?_eq_none (notMem_render (by decide) (by decide) statement)
  have hopened : openedTable? statement.render = none := by
    rw [openedTable?, hschema]
  have hrender : ∃ cs, statement.render = '$' :: cs ++ [';'] :=
    ⟨"table".toList ++ statement.chain.flatMap Link.render, by
      rw [BlockStatement.render, chainText, ← List.append_assoc]
      rfl⟩
  have hdrafts : Line.drafts (statement.line table.text rest) = statement.denote table.text := by
    have htable : tableDraft? statement.render = none := by
      rw [tableDraft?, hschema]
      rfl
    rw [Line.drafts, ← draftsIn_line table rest statement]
    simp only [BlockStatement.line, htable, Option.toList_none, List.nil_append]
  rw [operationsOfLines_margin (by decide) ?_ ?_ ?_, hopened]
  · exact congrArg (fun drafts => drafts.map (·.toOperation direction number) ++ _) hdrafts
  all_goals
    obtain ⟨cs, hcs⟩ := hrender
    rw [hcs]
  · simp [isBlank]
  · rw [List.getLast?_concat]
    simp [isBlank]
  · rfl

/-- The lines of a block give what its statements denote. -/
theorem operationsOfLines_block (table : Name) (statements : List BlockStatement) :
    operationsOfLines direction (some table.text) number
        (statements.map (fun statement => BlockStatement.indentation ++ statement.render) ++ rest) =
      denoteBlock direction table.text number statements ++
        operationsOfLines direction (some table.text) (number + statements.length) rest := by
  induction statements generalizing number with
  | nil => rfl
  | cons statement statements ih =>
    rw [List.map_cons, List.cons_append, operationsOfLines_statement, ih, denoteBlock,
      List.append_assoc, List.length_cons, Nat.add_right_comm, Nat.add_assoc]

/-! ### Lines outside of blocks -/

section

variable {method : String} (hmethod : method ∈ ["create", "table", "drop", "dropIfExists"])
  (table : Name) (ending : List Char)

include hmethod

theorem schemaCall?_call :
    schemaCall? (Statement.call method table ending) = some (method, table.text) := by
  have hname : ∀ c ∈ method.toList, isNameChar c = true := by
    revert method
    decide
  have hopening : Call.readOpening (method.toList ++ '(' :: (table.quoted ++ ending)) =
      some (method, table.quoted ++ ending) := by
    rw [readOpening_append hname]
    exact congrArg (fun rest => some (method, rest)) (skipBlanks_cons_of_not_isBlank (by decide) _)
  have hschema : expect "Schema::".toList (Statement.call method table ending) =
      some (method.toList ++ '(' :: (table.quoted ++ ending)) := expect_append _ _
  refine firstMatch_of_eq_some ?_
  simp only [readSchemaCall, hschema, Option.bind_eq_bind, Option.bind_some, hopening, if_pos hmethod,
    quoted?_quoted, Option.pure_def]

/-- A line with a call on the schema gives what becomes of the table. -/
theorem operationsOfLines_call (hending : '-' ∉ ending)
    (hend : ∃ c, isBlank c = false ∧ ending.getLast? = some c) :
    operationsOfLines direction context number
        ((Statement.margin ++ Statement.call method table ending) :: rest) =
      ⟨.table, if method = "create" then .create else if method = "table" then .modify else .drop,
          direction, { table := table.text }, number⟩ ::
        operationsOfLines direction
          ((if method = "create" ∨ method = "table" then some table.text else none) <|> context)
          (number + 1) rest := by
  have hcall := schemaCall?_call hmethod table ending
  -- the line holds no arrow, so it asks for nothing but what becomes of its table
  have hdash : '-' ∉ Statement.call method table ending := by
    have hname : '-' ∉ method.toList := by
      clear hcall
      revert method
      decide
    have hquoted : '-' ∉ table.quoted := fun hmem =>
      (compositional_forall (p := (· ≠ '-')) (fun c hc => ne_of_isNameChar hc (by decide))
        (by decide)).quoted table '-' hmem rfl
    simp only [Statement.call, List.mem_append, List.mem_cons, not_or]
    refine ⟨by decide, hname, by decide, hquoted, hending⟩
  have hfirst : ∀ c ∈ (Statement.call method table ending).head?, isBlank c = false := by
    intro c hc
    obtain rfl : 'S' = c := Option.some_inj.mp hc
    decide
  have hlast : ∀ c ∈ (Statement.call method table ending).getLast?, isBlank c = false := by
    obtain ⟨last, hlast, hgetLast⟩ := hend
    have htext : Statement.call method table ending =
        (Statement.schema ++ (method.toList ++ '(' :: table.quoted)) ++ ending := by
      simp only [Statement.call, List.append_assoc, List.cons_append]
    rw [htext, List.getLast?_append, hgetLast, Option.some_or]
    rintro _ ⟨⟩
    exact hlast
  have hdrafts : ∀ context window,
      Line.drafts ⟨Statement.call method table ending, context, window⟩ =
        [⟨.table, if method = "create" then .create else if method = "table" then .modify else .drop,
          { table := table.text }⟩] := by
    intro context window
    rw [Line.drafts, tableDraft?, hcall]
    cases context with
    | none => rfl
    | some opened =>
      simp only [draftsIn_eq_nil hdash]
      rfl
  rw [operationsOfLines_margin (by decide) hfirst hlast rfl, hdrafts, openedTable?, hcall]
  rfl

end

theorem operationsOfLines_drop (ifExists : Bool) (table : Name) :
    operationsOfLines direction context number
        ((Statement.margin ++ Statement.call (Statement.dropMethod ifExists) table
          Statement.ending) :: rest) =
      ⟨.table, .drop, direction, { table := table.text }, number⟩ ::
        operationsOfLines direction context (number + 1) rest := by
  have hmethod : Statement.dropMethod ifExists ∈ ["create", "table", "drop", "dropIfExists"] := by
    cases ifExists <;> decide
  rw [operationsOfLines_call hmethod table _ (by decide) ⟨';', by decide, rfl⟩]
  cases ifExists <;> rfl

theorem operationsOfLines_opening (create : Bool) (table : Name) :
    operationsOfLines direction context number
        ((Statement.margin ++ Statement.call (Statement.blockMethod create) table Statement.opening) ::
          rest) =
      ⟨.table, if create then .create else .modify, direction, { table := table.text }, number⟩ ::
        operationsOfLines direction (some table.text) (number + 1) rest := by
  have hmethod : Statement.blockMethod create ∈ ["create", "table", "drop", "dropIfExists"] := by
    cases create <;> decide
  rw [operationsOfLines_call hmethod table _ (by decide) ⟨'\x7b', by decide, rfl⟩]
  cases create <;> rfl

/-- The line that closes a block gives nothing. -/
theorem operationsOfLines_closing :
    operationsOfLines direction context number ((Statement.margin ++ Statement.closing) :: rest) =
      operationsOfLines direction context (number + 1) rest := by
  have hschema : schemaCall? Statement.closing = none := schemaCall?_eq_none (by decide)
  have hdrafts : ∀ context window, Line.drafts ⟨Statement.closing, context, window⟩ = [] := by
    intro context window
    rw [Line.drafts, tableDraft?, hschema]
    cases context with
    | none => rfl
    | some opened =>
      simp only [draftsIn_eq_nil (show '-' ∉ Statement.closing by decide)]
      rfl
  have hfirst : ∀ c ∈ Statement.closing.head?, isBlank c = false := by
    rintro c ⟨⟩
    decide
  have hlast : ∀ c ∈ Statement.closing.getLast?, isBlank c = false := by
    rintro c ⟨⟩
    decide
  rw [operationsOfLines_margin (by decide) hfirst hlast rfl, hdrafts, openedTable?, hschema]
  rfl

/-! ### The lines of a method -/

/-- The lines of a method give what its statements denote, whatever block was opened before. -/
theorem operationsOfLines_lines (statements : List Statement) {last : List Char}
    (hlast : isPassedOver (trim last) = true) :
    operationsOfLines direction context number (statements.flatMap Statement.lines ++ [last]) =
      denote direction number statements := by
  induction statements generalizing context number with
  | nil => exact if_pos hlast
  | cons statement statements ih =>
    rw [List.flatMap_cons, List.append_assoc]
    cases statement with
    | block create table block =>
      rw [Statement.lines, List.cons_append, operationsOfLines_opening, List.append_assoc,
        operationsOfLines_block, List.cons_append, operationsOfLines_closing, List.nil_append, ih,
        denote]
      congr 3
      omega
    | drop ifExists table =>
      rw [Statement.lines, List.cons_append, operationsOfLines_drop, List.nil_append, ih, denote]

end MigrationPreview.Canonical
