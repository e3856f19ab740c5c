import MigrationPreview.Proofs.Body
import MigrationPreview.Proofs.Statement
import MigrationPreview.Proofs.Walk

/-!
# Operations stand on their lines

The number of an operation is that of the opening brace of its method plus the number of the line
within the body. A body may begin and end in the middle of a line, but it is a segment of the source,
so the lines within it are parts of the lines of the source with these numbers. This holds of every
source, whether its braces match or not.

## Main results

* `exists_line_of_mem_operationsOfLines`: the walk over a body gives every operation the number of
  the line it is read from
* `exists_standsOn_of_mem_parse`: every operation of a migration stands on a line of the source
-/

namespace MigrationPreview

open Text

variable {direction : Direction} {source : List Char} {op : Operation}

/-! ### The walk over a body -/

/-- An operation is read from the line of a body whose number it has, within the block that is open
behind this line. -/
theorem exists_line_of_mem_operationsOfLines {table : Option String} {number : Nat}
    {lines : List (List Char)} (h : op ∈ operationsOfLines direction table number lines) :
    ∃ index raw draft, lines[index]? = some raw ∧ isPassedOver (trim raw) = false ∧
      draft ∈ Line.drafts
        ⟨trim raw, tableBehind table (lines.take (index + 1)), lines.drop index⟩ ∧
      op = draft.toOperation direction (number + index) := by
  induction lines generalizing table number with
  | nil => simp [operationsOfLines] at h
  | cons raw rest ih =>
    rw [operationsOfLines_cons] at h
    rcases List.mem_append.mp h with h | h
    · split at h
      · simp at h
      · next hread =>
        obtain ⟨draft, hdraft, rfl⟩ := List.mem_map.mp h
        exact ⟨0, raw, draft, rfl, by simpa using hread, hdraft, rfl⟩
    · obtain ⟨index, raw', draft, hraw, hread, hdraft, hop⟩ := ih h
      refine ⟨index + 1, raw', draft, hraw, hread, hdraft, ?_⟩
      rw [hop, Nat.add_right_comm, Nat.add_assoc]

/-! ### Bodies within their source -/

/-- A body is a segment of its source, and its opening brace has its number. -/
theorem MethodBody.exists_source_eq {body : MethodBody}
    (h : find? direction source = some body) :
    ∃ before after, source = before ++ body.text ++ after ∧ body.offset = before.length ∧
      body.startLine = 1 + before.count '\n' := by
  obtain ⟨before, behind, rfl, -, hoffset, hline, -⟩ := find?_eq_some_iff.mp h
  obtain ⟨after, hafter⟩ := isPrefix_text h
  rw [hoffset, List.drop_left] at hafter
  exact ⟨before, after, by rw [← hafter, List.append_assoc], hoffset, hline⟩

/-! ### Operations within their source -/

/-- An operation stands on `line`: this is the line of the source with its number, and it holds the
trimmed line of a method body from which the operation is read, the definition of a column and the
call that names a table. -/
structure Operation.StandsOn (op : Operation) (source line : List Char) : Prop where
  pos : 1 ≤ op.line
  le_length : op.line ≤ (source.splitOn '\n').length
  getElem?_splitOn : (source.splitOn '\n')[op.line - 1]? = some line
  read : ∃ body index raw context draft,
    MethodBody.find? op.direction source = some body ∧ op.line = body.startLine + index ∧
    (body.text.splitOn '\n')[index]? = some raw ∧ trim raw <:+: line ∧
    draft ∈ Line.drafts ⟨trim raw, context, (body.text.splitOn '\n').drop index⟩ ∧
    op = draft.toOperation op.direction op.line
  isInfix_definition : ∀ definition, op.details.definition = some definition →
    definition.toList <:+: line
  exists_call : op.kind = .table → ∃ method ∈ ["create", "table", "drop", "dropIfExists"],
    op.action = schemaAction method ∧ ∃ call, IsSchemaCall method op.table call ∧ call <:+: line

theorem exists_standsOn_of_mem_operations {body : MethodBody}
    (hbody : MethodBody.find? direction source = some body) (h : op ∈ body.operations direction) :
    ∃ line, op.StandsOn source line := by
  obtain ⟨before, after, hsource, -, hstart⟩ := MethodBody.exists_source_eq hbody
  obtain ⟨index, raw, draft, hraw, -, hdraft, rfl⟩ :=
    exists_line_of_mem_operationsOfLines h
  obtain ⟨line, hline, hinfix⟩ := exists_line_of_getElem?_splitOn before after hraw
  rw [← hsource] at hline
  have htrim : trim raw <:+: line := (isInfix_trim raw).trans hinfix
  have hnumber : body.startLine + index = before.count '\n' + index + 1 := by omega
  refine ⟨line, ?_, ?_, ?_, ⟨body, index, raw, _, draft, hbody, rfl, hraw, htrim, hdraft, rfl⟩,
    fun definition hdefinition => ?_, fun hkind => ?_⟩
  · simp only [Draft.toOperation]
    omega
  · have hlt := (List.getElem?_eq_some_iff.mp hline).1
    simp only [Draft.toOperation]
    omega
  · simpa only [Draft.toOperation, hnumber, Nat.add_sub_cancel] using hline
  · rw [Line.definition_eq_of_mem_drafts hdraft hdefinition, String.toList_ofList]
    exact htrim
  · obtain ⟨method, hmethod, haction, call, hcall, hcallInfix⟩ :=
      Line.exists_call_of_mem_drafts hdraft hkind
    exact ⟨method, hmethod, haction, call, hcall, hcallInfix.trans htrim⟩

theorem mem_operations_of_mem_operationsIn (h : op ∈ operationsIn direction source) :
    ∃ body, MethodBody.find? direction source = some body ∧ op ∈ body.operations direction := by
  unfold operationsIn at h
  split at h
  · next body hbody => exact ⟨body, hbody, h⟩
  · simp at h

/-- Every operation of a migration stands on a line of the source. -/
theorem exists_standsOn_of_mem_parse {source : String} {op : Operation}
    (h : op ∈ (Script.parse source).operations) : ∃ line, op.StandsOn source.toList line := by
  rcases List.mem_append.mp h with h | h <;>
  · obtain ⟨body, hbody, hop⟩ := mem_operations_of_mem_operationsIn h
    exact exists_standsOn_of_mem_operations hbody hop

/-- The body of `up` begins on the line of its signature and is cut at the next method, whose brace
stands on a line of its own. -/
theorem exists_standsOn_of_unclosed_method : ∃ line, Operation.StandsOn
    ⟨.table, .drop, .down, { table := "posts" }, 5⟩
    ("class M \x7b\n  public function up() \x7b Schema::drop('users');\n\n" ++
      "  public function down()\n  \x7b Schema::drop('posts'); \x7d").toList line :=
  exists_standsOn_of_mem_parse (by decide +kernel)

end MigrationPreview
