import MigrationPreview.Proofs.Catalog.Row

/-!
# The conversation about a table

A table is read with three queries, for its columns, its indexes and its foreign keys. The first reply
that is not read ends the conversation. If all three are read, the table consists of exactly their rows.

## Main definitions

* `Query.FailsAs`, `StopsAtComplaint`: how queries fail, and a call ends with the first that does
* `TableReading`, `TableReading.Faithful`: a table with the result sets that it is read from
* `TableDialogue`: the queries about a table, the replies and the outcome

## Main results

* `TableDialogue.leads`: a table is read with its dialogue
* `TableDialogue.exists_heldUp`: there is a dialogue for all replies
* `TableDialogue.stopsAtComplaint`, `TableDialogue.map_query_prefix`: what all dialogues have in common
-/

namespace MigrationPreview

open Introspection Session

variable {α β : Type} {schema name : String} {defaults : DatabaseDefaults}

/-! ### Complaints -/

/-- The three queries about a table. -/
def Query.ofTable (schema name : String) : List Query :=
  [.columns schema name, .indexes schema name, .foreignKeys schema name]

/-- How a query about a schema fails. The settings belong to the database and everything else to a table,
for which `*` stands in the list of all tables. -/
inductive Query.FailsAs (schema : String) : Query → (String → Failure) → Prop where
  | settings : FailsAs schema .settings .database
  | tableList : FailsAs schema (.tableList schema) (.schemaRead (schema ++ ".*") none ·)
  | table {query : Query} {name : String} (h : query ∈ ofTable schema name) :
      FailsAs schema query (.schemaRead name none ·)

/-- A call ends with the first reply that is not a result set, and fails as the query does. It may end
earlier only because a value cannot be decoded. -/
inductive StopsAtComplaint (schema : String) : List Turn → Except Stop α → Prop where
  | succeeded {turns : List Turn} {a : α} (h : ∀ turn ∈ turns, turn.reply.complaint? = none) :
      StopsAtComplaint schema turns (.ok a)
  | undecodable {turns : List Turn} {column : String}
      (h : ∀ turn ∈ turns, turn.reply.complaint? = none) :
      StopsAtComplaint schema turns (.error (.undecodable column))
  | refused {turns : List Turn} {query : Query} {reply : Reply} {failure : String → Failure}
      {message : String} (h : ∀ turn ∈ turns, turn.reply.complaint? = none)
      (hquery : query.FailsAs schema failure) (hreply : reply.complaint? = some message) :
      StopsAtComplaint schema (turns ++ [⟨query, reply⟩]) (.error (.failure (failure message)))

namespace StopsAtComplaint

variable {turns turns' : List Turn} {outcome : Except Stop α}

theorem append (h : ∀ turn ∈ turns, turn.reply.complaint? = none)
    (h' : StopsAtComplaint schema turns' outcome) :
    StopsAtComplaint schema (turns ++ turns') outcome := by
  cases h' with
  | succeeded h' => exact .succeeded (List.forall_mem_append.mpr ⟨h, h'⟩)
  | undecodable h' => exact .undecodable (List.forall_mem_append.mpr ⟨h, h'⟩)
  | refused h' hquery hreply =>
    rw [← List.append_assoc]
    exact .refused (List.forall_mem_append.mpr ⟨h, h'⟩) hquery hreply

theorem cons {turn : Turn} (h : turn.reply.complaint? = none)
    (h' : StopsAtComplaint schema turns outcome) :
    StopsAtComplaint schema (turn :: turns) outcome :=
  .append (List.forall_mem_singleton.mpr h) h'

theorem map (f : α → β) (h : StopsAtComplaint schema turns outcome) :
    StopsAtComplaint schema turns (outcome.map f) := by
  cases h with
  | succeeded h => exact .succeeded h
  | undecodable h => exact .undecodable h
  | refused h hquery hreply => exact .refused h hquery hreply

theorem of_error {stop : Stop}
    (h : StopsAtComplaint schema turns (.error stop : Except Stop α)) :
    StopsAtComplaint schema turns (.error stop : Except Stop β) := by
  cases h with
  | undecodable h => exact .undecodable h
  | refused h hquery hreply => exact .refused h hquery hreply

end StopsAtComplaint

/-- A query that stops at its reply. -/
theorem RowForm.Reads.stopsAtComplaint {form : RowForm α} {query : Query}
    {failure : String → Failure} {reply : Reply} {stop : Stop}
    (h : form.Reads failure reply (.error stop)) (hquery : query.FailsAs schema failure) :
    StopsAtComplaint schema [⟨query, reply⟩] (.error stop : Except Stop β) := by
  cases h with
  | undecodable h => exact .undecodable (by simp [Reply.complaint?])
  | refused h => exact .refused (List.forall_mem_nil _) hquery h

/-- A reply to the query for the settings that stops the call. -/
theorem Introspection.DatabaseDefaults.Read.stopsAtComplaint {reply : Reply} {stop : Stop}
    (h : DatabaseDefaults.Read reply (.error stop)) :
    StopsAtComplaint schema [⟨.settings, reply⟩] (.error stop : Except Stop β) := by
  cases h with
  | undecodable => exact .undecodable (by simp [Reply.complaint?])
  | refused h => exact .refused (List.forall_mem_nil _) .settings h

/-! ### Tables -/

/-- A table with the result sets that it is read from. -/
structure TableReading where
  table : Table
  columns : ResultSet
  indexes : ResultSet
  foreignKeys : ResultSet

namespace TableReading

/-- The queries about the table with the result sets. -/
def turns (r : TableReading) (schema : String) : List Turn :=
  [⟨.columns schema r.table.name, .result r.columns⟩,
    ⟨.indexes schema r.table.name, .result r.indexes⟩,
    ⟨.foreignKeys schema r.table.name, .result r.foreignKeys⟩]

/-- The table consists of exactly the rows of its result sets, in their order. Its settings are those of
the database, and it has no engine. -/
structure Faithful (r : TableReading) (defaults : DatabaseDefaults) : Prop where
  columns : List.Forall₂ Column.IsRow r.columns.toRows r.table.columns
  indexes : List.Forall₂ Index.IsRow r.indexes.toRows r.table.indexes
  foreignKeys : List.Forall₂ ForeignKey.IsRow r.foreignKeys.toRows r.table.foreignKeys
  engine : r.table.engine = none
  charset : r.table.charset = defaults.charset
  collation : r.table.collation = defaults.collation

variable (r : TableReading)

theorem map_query_turns : (r.turns schema).map (·.query) = Query.ofTable schema r.table.name := rfl

theorem complaint?_of_mem_turns : ∀ turn ∈ r.turns schema, turn.reply.complaint? = none := by
  simp [turns, Reply.complaint?]

end TableReading

/-- What is asked about a table, what the replies are and what they come to. -/
inductive TableDialogue (schema : String) (defaults : DatabaseDefaults) (name : String) :
    List Turn → Except Stop Table → Prop where
  | columnsStop {reply : Reply} {stop : Stop}
      (h : Column.rowForm.Reads (tableFailure name) reply (.error stop)) :
      TableDialogue schema defaults name [⟨.columns schema name, reply⟩] (.error stop)
  | indexesStop {set : ResultSet} {columns : List Column} {reply : Reply} {stop : Stop}
      (hcolumns : List.Forall₂ Column.IsRow set.toRows columns)
      (h : Index.rowForm.Reads (tableFailure name) reply (.error stop)) :
      TableDialogue schema defaults name
        [⟨.columns schema name, .result set⟩, ⟨.indexes schema name, reply⟩] (.error stop)
  | foreignKeysStop {set set' : ResultSet} {columns : List Column} {indexes : List Index}
      {reply : Reply} {stop : Stop}
      (hcolumns : List.Forall₂ Column.IsRow set.toRows columns)
      (hindexes : List.Forall₂ Index.IsRow set'.toRows indexes)
      (h : ForeignKey.rowForm.Reads (tableFailure name) reply (.error stop)) :
      TableDialogue schema defaults name
        [⟨.columns schema name, .result set⟩, ⟨.indexes schema name, .result set'⟩,
          ⟨.foreignKeys schema name, reply⟩] (.error stop)
  | whole {r : TableReading} (hname : r.table.name = name) (h : r.Faithful defaults) :
      TableDialogue schema defaults name (r.turns schema) (.ok r.table)

theorem readTable_eq (schema : String) (defaults : DatabaseDefaults) (name : String) :
    readTable schema defaults name = do
      let columns ← readRows (.columns schema name) (tableFailure name) columnOfRow
      let indexes ← readRows (.indexes schema name) (tableFailure name) indexOfRow
      let foreignKeys ← readRows (.foreignKeys schema name) (tableFailure name) foreignKeyOfRow
      return {
        name
        columns
        indexes
        foreignKeys
        charset := defaults.charset
        collation := defaults.collation } := by
  simp only [readTable, readRows, bind_assoc]

namespace TableDialogue

variable {turns : List Turn} {outcome : Except Stop Table}

/-- Reading a table leads every dialogue about it. -/
theorem leads (h : TableDialogue schema defaults name turns outcome) :
    (readTable schema defaults name).Leads turns outcome := by
  rw [readTable_eq]
  cases h with
  | columnsStop h => exact (h.leads Column.readBy_columnOfRow).bind_error
  | indexesStop hcolumns h =>
    refine ((RowForm.Reads.rows hcolumns).leads Column.readBy_columnOfRow).bind ?_
    exact (h.leads Index.readBy_indexOfRow).bind_error
  | foreignKeysStop hcolumns hindexes h =>
    refine ((RowForm.Reads.rows hcolumns).leads Column.readBy_columnOfRow).bind ?_
    refine ((RowForm.Reads.rows hindexes).leads Index.readBy_indexOfRow).bind ?_
    exact (h.leads ForeignKey.readBy_foreignKeyOfRow).bind_error
  | @whole r hname h =>
    obtain ⟨⟨_, columns, indexes, foreignKeys, engine, charset, collation⟩, _, _, _⟩ := r
    obtain ⟨hcolumns, hindexes, hkeys, rfl, rfl, rfl⟩ := h
    obtain rfl := hname
    refine ((RowForm.Reads.rows hcolumns).leads Column.readBy_columnOfRow).bind ?_
    refine ((RowForm.Reads.rows hindexes).leads Index.readBy_indexOfRow).bind ?_
    exact ((RowForm.Reads.rows hkeys).leads ForeignKey.readBy_foreignKeyOfRow).map

theorem exists_heldUp (schema : String) (defaults : DatabaseDefaults) (name : String)
    (replies : List Reply) :
    ∃ turns outcome, HeldUp replies turns ∧ TableDialogue schema defaults name turns outcome := by
  obtain ⟨reply, stop, hheld, h⟩ | ⟨set, columns, hheld, hcolumns⟩ :=
    Column.readBy_columnOfRow.stops_or_reads (.columns schema name) (tableFailure name) replies
  · exact ⟨_, _, hheld, .columnsStop h⟩
  -- each of the other queries meets the replies that the queries before it have left
  obtain ⟨reply, stop, hheld', h⟩ | ⟨set', indexes, hheld', hindexes⟩ :=
    Index.readBy_indexOfRow.stops_or_reads (.indexes schema name) (tableFailure name)
      (replies.drop 1)
  · exact ⟨_, _, heldUp_append.mpr ⟨hheld, hheld'⟩, .indexesStop hcolumns h⟩
  obtain ⟨reply, stop, hheld'', h⟩ | ⟨set'', foreignKeys, hheld'', hkeys⟩ :=
    ForeignKey.readBy_foreignKeyOfRow.stops_or_reads (.foreignKeys schema name) (tableFailure name)
      (replies.drop 2)
  · exact ⟨_, _, heldUp_append.mpr ⟨heldUp_append.mpr ⟨hheld, hheld'⟩, hheld''⟩,
      .foreignKeysStop hcolumns hindexes h⟩
  · let r : TableReading := ⟨⟨name, columns, indexes, foreignKeys, none, defaults.charset,
      defaults.collation⟩, set, set', set''⟩
    have hfaithful : r.Faithful defaults := ⟨hcolumns, hindexes, hkeys, rfl, rfl, rfl⟩
    exact ⟨r.turns schema, _, heldUp_append.mpr ⟨heldUp_append.mpr ⟨hheld, hheld'⟩, hheld''⟩,
      .whole rfl hfaithful⟩

theorem stopsAtComplaint (h : TableDialogue schema defaults name turns outcome) :
    StopsAtComplaint schema turns outcome := by
  have hfails : ∀ query ∈ Query.ofTable schema name, query.FailsAs schema (tableFailure name) :=
    fun query hquery => .table hquery
  cases h with
  | columnsStop h => exact h.stopsAtComplaint (hfails _ (by simp [Query.ofTable]))
  | indexesStop _ h => exact .cons rfl (h.stopsAtComplaint (hfails _ (by simp [Query.ofTable])))
  | foreignKeysStop _ _ h =>
    exact .cons rfl (.cons rfl (h.stopsAtComplaint (hfails _ (by simp [Query.ofTable]))))
  | whole => exact .succeeded (TableReading.complaint?_of_mem_turns _)

/-- The queries are the three about the table, as far as they were sent. -/
theorem map_query_prefix (h : TableDialogue schema defaults name turns outcome) :
    turns.map (·.query) <+: Query.ofTable schema name := by
  cases h with
  | columnsStop h => exact ⟨[_, _], rfl⟩
  | indexesStop hcolumns h => exact ⟨[_], rfl⟩
  | foreignKeysStop hcolumns hindexes h => exact List.prefix_rfl
  | whole hname h =>
    obtain rfl := hname
    exact List.prefix_rfl

end TableDialogue

end MigrationPreview
