import MigrationPreview.Migration.Script
import MigrationPreview.Proofs.Text

/-!
# Steps of the walk over a body

The lines of a body are read one after the other. A line that is passed over leaves everything as it is;
any other line gives its drafts and may open the block of a table for the lines behind it.

## Main definitions

* `tableBehind`: the table whose block is open behind some lines

## Main results

* `operationsOfLines_of_isPassedOver`: the step over a line that is passed over
* `operationsOfLines_of_read`: the step over a line that is read
* `operationsOfLines_cons`: the step over a line of either sort
* `Script.indexByLine_map`: the index by line depends on lines and short forms only
-/

namespace MigrationPreview

open Text

variable {direction : Direction} {table : Option String} {number : Nat} {raw text : List Char}
  {rest : List (List Char)}

theorem operationsOfLines_of_isPassedOver (h : isPassedOver (trim raw) = true) :
    operationsOfLines direction table number (raw :: rest) =
      operationsOfLines direction table (number + 1) rest := by
  rw [operationsOfLines]
  simp only [h, ↓reduceIte]

/-- An empty line asks for nothing. -/
theorem drafts_nil (table : Option String) (window : List (List Char)) :
    Line.drafts ⟨[], table, window⟩ = [] := by
  cases table <;> rfl

/-- A line that is read gives its drafts in front of those of the lines behind it. To read an empty line is
to pass over it. -/
theorem operationsOfLines_of_read (htext : trim raw = text)
    (h : isPassedOver text = false ∨ text = []) :
    operationsOfLines direction table number (raw :: rest) =
      (Line.drafts ⟨text, openedTable? text <|> table, raw :: rest⟩).map
          (·.toOperation direction number) ++
        operationsOfLines direction (openedTable? text <|> table) (number + 1) rest := by
  rw [operationsOfLines]
  rcases h with hpassed | rfl
  · simp only [htext, hpassed, Bool.false_eq_true, ↓reduceIte]
  · rw [htext, drafts_nil]
    rfl

/-! ### The table of a line -/

/-- The table whose block a line opens, if the line is read at all. -/
def blockOpened? (raw : List Char) : Option String :=
  if isPassedOver (trim raw) then none else openedTable? (trim raw)

/-- The table whose block is open behind some lines, when that of `table` is open in front of them. -/
def tableBehind (table : Option String) (lines : List (List Char)) : Option String :=
  lines.foldl (fun table raw => blockOpened? raw <|> table) table

@[simp] theorem tableBehind_nil : tableBehind table [] = table := rfl

theorem tableBehind_append_singleton (lines : List (List Char)) :
    tableBehind table (lines ++ [raw]) = (blockOpened? raw <|> tableBehind table lines) :=
  List.foldl_append

/-- What holds of the table in front of some lines and of all tables whose blocks they open holds of the
table behind them. -/
theorem forall_mem_tableBehind {P : String → Prop} {lines : List (List Char)} (htable : ∀ t ∈ table, P t)
    (hopened : ∀ raw ∈ lines, ∀ t ∈ blockOpened? raw, P t) : ∀ t ∈ tableBehind table lines, P t := by
  induction lines generalizing table with
  | nil => exact htable
  | cons raw lines ih =>
    obtain ⟨hraw, hlines⟩ := List.forall_mem_cons.mp hopened
    show ∀ t ∈ tableBehind (blockOpened? raw <|> table) lines, P t
    refine ih ?_ hlines
    cases hopens : blockOpened? raw with
    | none => simpa using htable
    | some opened => simpa using hraw opened hopens

/-- The step of the walk, for all lines alike. -/
theorem operationsOfLines_cons (direction : Direction) (table : Option String) (number : Nat)
    (raw : List Char) (rest : List (List Char)) :
    operationsOfLines direction table number (raw :: rest) =
      (if isPassedOver (trim raw) then [] else
        (Line.drafts ⟨trim raw, blockOpened? raw <|> table, raw :: rest⟩).map
          (·.toOperation direction number)) ++
      operationsOfLines direction (blockOpened? raw <|> table) (number + 1) rest := by
  cases hread : isPassedOver (trim raw) with
  | true =>
    have hopened : blockOpened? raw = none := if_pos hread
    rw [operationsOfLines_of_isPassedOver hread, hopened]
    rfl
  | false =>
    have hopened : blockOpened? raw = openedTable? (trim raw) := by simp [blockOpened?, hread]
    rw [operationsOfLines_of_read rfl (.inl hread), hopened]
    rfl

/-! ### The index by line -/

/-- The index by line depends on lines and short forms only. -/
theorem Script.indexByLine_map {f : Operation → Operation} (hline : ∀ op, (f op).line = op.line)
    (hsummary : ∀ op, (f op).summary = op.summary) (ops : List Operation) :
    indexByLine (ops.map f) = indexByLine ops := by
  simp only [indexByLine, List.foldl_map, hline, hsummary]

end MigrationPreview
