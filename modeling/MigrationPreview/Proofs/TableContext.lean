import MigrationPreview.Proofs.Details
import MigrationPreview.Proofs.FirstCall

/-!
# The table an operation belongs to

A line does not say which table its calls are about: they belong to the block in which they stand. The walk
over a body carries the table of the block that was opened last, lets a line open its block before the
line itself is read, and starts each method without a table. Lines that are passed over and lines that
drop tables leave the table as it is.

## Main definitions

* `OpensBlock`: a line that opens the block of a table
* `OpensLast`: the block that the last opening line of some lines opens
* `Script.IsAttributed`: a migration whose operations belong to the tables of their blocks

## Main results

* `tableBehind_eq_some_iff`: the table that the walk carries is that of the last opening line
* `Line.table_of_mem_drafts`: what a line asks for belongs to the table of the line
* `Script.isAttributed_parse`: the operations of every migration belong to the tables of their blocks
-/

namespace MigrationPreview

open Text

variable {raw : List Char} {lines rest : List (List Char)} {table : String} {direction : Direction}
  {op : Operation}

/-! ### Lines that open a block -/

/-- A line opens the block of a table: it is not passed over, and its first call on the schema creates
or alters the table. -/
def OpensBlock (raw : List Char) (table : String) : Prop :=
  isPassedOver (trim raw) = false ∧
    ∃ method ∈ ["create", "table"], IsFirstSchemaCall method table (trim raw)

/-- The last of some lines that opens a block opens that of `table`. -/
def OpensLast (lines : List (List Char)) (table : String) : Prop :=
  ∃ before raw behind, lines = before ++ raw :: behind ∧ OpensBlock raw table ∧
    ∀ later ∈ behind, ∀ other, ¬ OpensBlock later other

theorem openedTable?_eq_some_iff {line : List Char} :
    openedTable? line = some table ↔
      ∃ method ∈ ["create", "table"], IsFirstSchemaCall method table line := by
  simp only [← schemaCall?_eq_some_iff, openedTable?]
  constructor
  · intro h
    split at h
    · next method name hcall =>
      obtain ⟨hmethod, h⟩ := Option.ite_none_right_eq_some.mp h
      obtain rfl := Option.some_inj.mp h
      exact ⟨method, by simpa using hmethod, hcall⟩
    · simp at h
  · rintro ⟨method, hmethod, hcall⟩
    rw [hcall]
    exact if_pos (by simpa using hmethod)

theorem blockOpened?_eq_some_iff : blockOpened? raw = some table ↔ OpensBlock raw table := by
  rw [blockOpened?, OpensBlock, ← openedTable?_eq_some_iff]
  cases isPassedOver (trim raw) <;> simp

theorem blockOpened?_eq_none_iff : blockOpened? raw = none ↔ ∀ table, ¬ OpensBlock raw table := by
  simp only [← blockOpened?_eq_some_iff, Option.eq_none_iff_forall_ne_some, ne_eq]

/-- The step of the walk over the lines in front of a line, from the last one to the first. -/
theorem opensLast_append_singleton :
    OpensLast (lines ++ [raw]) table ↔
      OpensBlock raw table ∨ (∀ other, ¬ OpensBlock raw other) ∧ OpensLast lines table := by
  constructor
  · rintro ⟨before, opening, behind, hlines, hopens, hlater⟩
    rcases List.eq_nil_or_concat behind with rfl | ⟨between, last, rfl⟩
    · obtain ⟨rfl, hraw⟩ := List.append_inj' hlines rfl
      obtain rfl : raw = opening := by simpa using hraw
      exact .inl hopens
    · have hsplit : lines ++ [raw] = (before ++ opening :: between) ++ [last] := by
        simpa using hlines
      obtain ⟨rfl, hraw⟩ := List.append_inj' hsplit rfl
      obtain rfl : raw = last := by simpa using hraw
      exact .inr ⟨hlater raw (by simp), before, opening, between, rfl, hopens,
        fun later hmem => hlater later (by simp [hmem])⟩
  · rintro (hopens | ⟨hraw, before, opening, behind, rfl, hopens, hlater⟩)
    · exact ⟨lines, raw, [], rfl, hopens, by simp⟩
    · refine ⟨before, opening, behind ++ [raw], by simp, hopens, fun later hmem => ?_⟩
      rcases List.mem_append.mp hmem with hmem | hmem
      · exact hlater later hmem
      · obtain rfl := List.mem_singleton.mp hmem
        exact hraw

/-- The table that the walk carries behind some lines is that of the last line that opens a block. -/
theorem tableBehind_eq_some_iff : tableBehind none lines = some table ↔ OpensLast lines table := by
  -- the last line that opens a block is found from the end, so the induction goes from there
  induction lines using List.reverseRecOn with
  | nil => simp [OpensLast]
  | append_singleton lines raw ih =>
    rw [tableBehind_append_singleton, opensLast_append_singleton, ← ih, ← blockOpened?_eq_none_iff,
      ← blockOpened?_eq_some_iff]
    cases blockOpened? raw <;> simp

/-- A table that is dropped and a call in a comment leave the block of `users` open. -/
example :
    tableBehind none ["Schema::create('users', fn".toList, "\x7d); Schema::drop('logs');".toList,
      "// Schema::create('notes', fn".toList] = some "users" := by
  decide +kernel

/-- A line whose first call on the schema drops a table opens no block. -/
theorem blockOpened?_of_drops {method dropped : String} (hmethod : method ∈ ["drop", "dropIfExists"])
    (hcall : IsFirstSchemaCall method dropped (trim raw)) : blockOpened? raw = none := by
  refine blockOpened?_eq_none_iff.mpr fun table hopens => ?_
  obtain ⟨-, opening, hopening, hfirst⟩ := hopens
  -- a line has only one first call, and it cannot have both methods
  obtain ⟨rfl, -⟩ := hcall.unique hfirst
  have hdisjoint : ∀ m ∈ ["drop", "dropIfExists"], m ∉ ["create", "table"] := by decide
  exact hdisjoint method hmethod hopening

/-! ### The table of a draft -/

/-- What a line asks for, except for a table as a whole, belongs to the table of the line. -/
theorem Line.table_of_mem_drafts {line : Line} {draft : Draft} (h : draft ∈ line.drafts)
    (hkind : draft.kind ≠ .table) : line.table = some draft.details.table := by
  cases asksFor_of_mem_drafts h with
  | table => exact absurd rfl hkind
  | columnModify context | columnAdd context | columnDrop context | columnRename context
  | indexAdd context | setting _ context => exact context
  | indexDrop context _ hdropped | foreignKeyDrop context _ hdropped =>
    obtain ⟨_, _, rfl⟩ := exists_eq_of_dropDetails? hdropped
    exact context
  | foreignKeyAdd context _ _ hreferenced =>
    obtain ⟨_, _, _, _, rfl⟩ := exists_eq_of_foreignKeyDetails? hreferenced
    exact context

/-! ### Operations of a migration -/

/-- An operation, except for one on a table as a whole, belongs to the block that is open behind its
line. -/
theorem exists_opensLast_of_mem_operationsIn {source : List Char}
    (h : op ∈ operationsIn direction source) (hkind : op.kind ≠ .table) :
    ∃ body index, MethodBody.find? direction source = some body ∧
      op.line = body.startLine + index ∧ index < (body.text.splitOn '\n').length ∧
      OpensLast ((body.text.splitOn '\n').take (index + 1)) op.table := by
  obtain ⟨body, hbody, hop⟩ := mem_operations_of_mem_operationsIn h
  obtain ⟨index, raw, draft, hraw, -, hdraft, rfl⟩ := exists_line_of_mem_operationsOfLines hop
  have hindex := (List.getElem?_eq_some_iff.mp hraw).1
  exact ⟨body, index, hbody, rfl, hindex,
    tableBehind_eq_some_iff.mp (Line.table_of_mem_drafts hdraft hkind)⟩

namespace Script

/-- The operations of a migration belong to the tables of the blocks in which they stand. -/
structure IsAttributed (source : String) : Prop where
  /-- The last line at or before an operation that opens a block opens that of its table. -/
  exists_opensLast : ∀ op ∈ (parse source).operations, op.kind ≠ .table →
    ∃ body index, MethodBody.find? op.direction source.toList = some body ∧
      op.line = body.startLine + index ∧ index < (body.text.splitOn '\n').length ∧
      OpensLast ((body.text.splitOn '\n').take (index + 1)) op.table
  /-- As long as no block is open, only tables as a whole are asked for. -/
  kind_eq_table : ∀ direction body index, MethodBody.find? direction source.toList = some body →
    (∀ raw ∈ (body.text.splitOn '\n').take (index + 1), ∀ table, ¬ OpensBlock raw table) →
    ∀ op ∈ (parse source).operationsFor direction, op.line = body.startLine + index →
      op.kind = .table
  /-- A line that drops a table is read, and followed, in the block in which it stands. -/
  operationsOfLines_of_drops : ∀ direction context number raw rest,
    (∃ method ∈ ["drop", "dropIfExists"], ∃ dropped,
      IsFirstSchemaCall method dropped (trim raw)) →
    operationsOfLines direction context number (raw :: rest) =
      (if isPassedOver (trim raw) then [] else
        (Line.drafts ⟨trim raw, context, raw :: rest⟩).map (·.toOperation direction number)) ++
      operationsOfLines direction context (number + 1) rest

/-- The operations of every migration belong to the tables of their blocks. -/
theorem isAttributed_parse (source : String) : IsAttributed source where
  exists_opensLast op hop hkind := by
    rcases List.mem_append.mp hop with hop | hop <;>
    · rw [direction_of_mem_operationsIn hop]
      exact exists_opensLast_of_mem_operationsIn hop hkind
  kind_eq_table direction body index hbody hnone op hop hline := by
    rw [operationsFor_parse] at hop
    by_contra hkind
    obtain ⟨body', index', hbody', hline', -, before, raw, behind, hlines, hopens, -⟩ :=
      exists_opensLast_of_mem_operationsIn hop hkind
    obtain rfl : body = body' := Option.some_inj.mp (hbody.symm.trans hbody')
    obtain rfl : index = index' := by omega
    exact hnone raw (by simp [hlines]) op.table hopens
  operationsOfLines_of_drops direction context number raw rest := by
    rintro ⟨method, hmethod, dropped, hcall⟩
    rw [operationsOfLines_cons, blockOpened?_of_drops hmethod hcall]
    rfl

end Script

end MigrationPreview
