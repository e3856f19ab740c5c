import MigrationPreview.Proofs.ForeignKey

/-!
# Bodies in parts

Every line of a body is read with all lines behind it in view, since the calls that complete a foreign key
may stand there. Where a statement has ended, nothing behind it is looked at any more: the lines up to there
can be read on their own, and what follows is read in the block that they leave open. Lines that are added
behind the end of a statement therefore never change what was found in front of it.

## Main definitions

* `EndsStatement`: lines of which the last one ends a statement
* `operationsOfFirst`: what the line at the front of a window asks for

## Main results

* `operationsOfFirst_append`: a line is read in the same way whatever follows the end of a statement
* `operationsOfLines_append`: the walk over lines in two parts
* `MethodBody.operations_inParts`: the operations of a body in two parts
-/

namespace MigrationPreview

open Text

variable {direction : Direction} {context : Option String} {number : Nat} {raw : List Char}
  {front back rest : List (List Char)}

/-! ### Single lines -/

/-- What the line at the front of a window asks for, where the block of `context` is open in front of it. A
line that is passed over asks for nothing. -/
def operationsOfFirst (direction : Direction) (context : Option String) (number : Nat) (raw : List Char)
    (rest : List (List Char)) : List Operation :=
  if isPassedOver (trim raw) then [] else
    (Line.ofWindow (blockOpened? raw <|> context) (raw :: rest)).drafts.map
      (·.toOperation direction number)

/-- The step of the walk, in terms of what the first line asks for. -/
theorem operationsOfLines_eq_operationsOfFirst_append (direction : Direction) (context : Option String)
    (number : Nat) (raw : List Char) (rest : List (List Char)) :
    operationsOfLines direction context number (raw :: rest) =
      operationsOfFirst direction context number raw rest ++
        operationsOfLines direction (blockOpened? raw <|> context) (number + 1) rest :=
  operationsOfLines_cons direction context number raw rest

/-- Nothing behind the end of a statement is looked at from a line in front of it. -/
theorem operationsOfFirst_append (hends : ∃ line ∈ raw :: rest, ';' ∈ line)
    (back : List (List Char)) :
    operationsOfFirst direction context number raw (rest ++ back) =
      operationsOfFirst direction context number raw rest := by
  have hagree : (raw :: (rest ++ back)).take (raw :: rest).length =
      (raw :: rest).take (raw :: rest).length := by
    rw [← List.cons_append, List.take_left, List.take_length]
  -- the statement ends within the lines that both windows have in common
  have hends' : ∃ line ∈ (raw :: (rest ++ back)).take (raw :: rest).length, ';' ∈ line := by
    rwa [hagree, List.take_length]
  rw [operationsOfFirst, operationsOfFirst, Line.drafts_ofWindow_congr _ hagree (.inr hends')]

/-! ### Walks in two parts -/

/-- The last of some lines holds the semicolon that ends a statement. -/
def EndsStatement (lines : List (List Char)) : Prop := ∃ last ∈ lines.getLast?, ';' ∈ last

theorem EndsStatement.exists_mem (h : EndsStatement front) : ∃ line ∈ front, ';' ∈ line := by
  obtain ⟨last, hlast, hmem⟩ := h
  exact ⟨last, List.mem_of_getLast? hlast, hmem⟩

theorem EndsStatement.of_cons (h : EndsStatement (raw :: front)) (hne : front ≠ []) :
    EndsStatement front := by
  obtain ⟨last, hlast, hmem⟩ := h
  obtain ⟨next, front, rfl⟩ := List.exists_cons_of_ne_nil hne
  rw [List.getLast?_cons_cons] at hlast
  exact ⟨last, hlast, hmem⟩

/-- The walk over lines whose first part ends with a statement is the walk over the first part, followed by
the walk over the second one in the block that the first part leaves open. The induction is on the first
part: the end of the last statement stays in view from each of its lines. -/
theorem operationsOfLines_append (h : EndsStatement front) (direction : Direction)
    (context : Option String) (number : Nat) (back : List (List Char)) :
    operationsOfLines direction context number (front ++ back) =
      operationsOfLines direction context number front ++
        operationsOfLines direction (tableBehind context front) (number + front.length) back := by
  induction front generalizing context number with
  | nil =>
    obtain ⟨line, hline, -⟩ := h.exists_mem
    simp at hline
  | cons raw front ih =>
    have hrest : operationsOfLines direction (blockOpened? raw <|> context) (number + 1) (front ++ back) =
        operationsOfLines direction (blockOpened? raw <|> context) (number + 1) front ++
          operationsOfLines direction (tableBehind context (raw :: front))
            (number + (raw :: front).length) back := by
      have hnumber : number + (raw :: front).length = number + 1 + front.length := by
        rw [List.length_cons]
        omega
      rw [hnumber]
      rcases eq_or_ne front [] with rfl | hne
      · rfl
      · exact ih (h.of_cons hne) _ _
    rw [List.cons_append, operationsOfLines_eq_operationsOfFirst_append,
      operationsOfLines_eq_operationsOfFirst_append, hrest, operationsOfFirst_append h.exists_mem,
      List.append_assoc]

/-- Without the end of a statement in between, the second part may complete what the first one begins. -/
example :
    let front := ["$table->foreign('author_id')".toList]
    let back := ["->references('authors', 'id');".toList]
    (operationsOfLines .up (some "posts") 4 (front ++ back)).length = 1 ∧
      operationsOfLines .up (some "posts") 4 front = [] := by
  decide +kernel

/-! ### Bodies in two parts -/

namespace MethodBody

variable {body : MethodBody}

/-- A body whose lines come in two parts, of which the first one ends with a statement, has the operations
of the first part and behind them those of the second one, which is read in the block that the first part
leaves open and numbered on behind it; the same holds of the walk from any block and any number. In
particular, the operations that the first part has as a body of its own stand unchanged in front of all
others. -/
theorem operations_inParts (hlines : body.text.splitOn '\n' = front ++ back)
    (hends : EndsStatement front) (direction : Direction) :
    body.operations direction =
        operationsOfLines direction none body.startLine front ++
          operationsOfLines direction (tableBehind none front) (body.startLine + front.length) back ∧
      (∀ context number, operationsOfLines direction context number (body.text.splitOn '\n') =
        operationsOfLines direction context number front ++
          operationsOfLines direction (tableBehind context front) (number + front.length) back) ∧
      ∀ shorter : MethodBody, shorter.text.splitOn '\n' = front →
        shorter.startLine = body.startLine →
        shorter.operations direction <+: body.operations direction := by
  have hwalk (context : Option String) (number : Nat) :=
    operationsOfLines_append hends direction context number back
  rw [← hlines] at hwalk
  refine ⟨hwalk none body.startLine, hwalk, fun shorter hshorter hstart => ?_⟩
  rw [operations, operations, hwalk, hshorter, hstart]
  exact List.prefix_append _ _

/-- The lines of a body that adds a foreign key, and those that come behind it. -/
def keyedLines : List (List Char) × List (List Char) :=
  (["", "Schema::table('posts', fn", "$table->foreign('author_id')",
      "->references('id')->on('authors');"].map String.toList,
    ["->references('users', 'id');", "$table->dropColumn('writer');"].map String.toList)

/-- The key of `author_id` is completed in front of the semicolon, and the column behind it is dropped from
the table whose block is still open. -/
theorem operations_inParts_of_keyedLines :
    let text := ['\n'].intercalate (keyedLines.1 ++ keyedLines.2)
    let body : MethodBody := ⟨text, 40, 4, false⟩
    body.text.splitOn '\n' = keyedLines.1 ++ keyedLines.2 ∧ EndsStatement keyedLines.1 ∧
      tableBehind none keyedLines.1 = some "posts" ∧
      body.operations .up = operationsOfLines .up none 4 keyedLines.1 ++
        [⟨.column, .drop, .up, { table := "posts", column := some "writer" }, 9⟩] := by
  intro text body
  have hlines : body.text.splitOn '\n' = keyedLines.1 ++ keyedLines.2 := by decide +kernel
  have hends : EndsStatement keyedLines.1 :=
    ⟨"->references('id')->on('authors');".toList, rfl, by decide⟩
  have htable : tableBehind none keyedLines.1 = some "posts" := by decide +kernel
  have hback : operationsOfLines .up (some "posts") 8 keyedLines.2 =
      [⟨.column, .drop, .up, { table := "posts", column := some "writer" }, 9⟩] := by decide +kernel
  refine ⟨hlines, hends, htable, ?_⟩
  rw [(operations_inParts hlines hends .up).1, htable, ← hback]
  rfl

end MethodBody

end MigrationPreview
