import Mathlib.Data.List.Forall2
import MigrationPreview.Catalog.Introspection
import MigrationPreview.Proofs.Catalog.Turn

/-!
# What the rows of a result set say

What a row says about a column, an index or a foreign key is given by a relation, beside the list of the
values that are decoded for it, in their order. The code that reads rows is tied to both once, and then
everything follows for whole result sets: either every row is read, one item for each and in their order,
or the first value that cannot be decoded ends the call.

## Main definitions

* `Field`, `Row.undecodable?`: the values that are decoded, and the first of them that cannot be
* `Column.IsRow`, `Index.IsRow`, `ForeignKey.IsRow`: what a row says
* `RowForm`, `RowForm.ReadBy`: a relation with its values, and the code that reads it
* `RowForm.Reads`: what a reply to a query comes to
* `DatabaseDefaults.AreOf`, `DatabaseDefaults.Read`: the settings in the first row, and what the reply to
  the query for them comes to

## Main results

* `RowForm.Reads.leads`: a query comes to what its reply comes to
* `RowForm.ReadBy.stops_or_reads`: every reply comes to something
* `DatabaseDefaults.Read.leads`, `DatabaseDefaults.stops_or_reads`: the same of the settings
-/

namespace MigrationPreview

open Introspection Session

variable {α β : Type}

/-! ### Values of a row -/

/-- A value that is decoded: its column, with the type and whether it may be null. -/
inductive Field where
  | text (column : String)
  | nullableText (column : String)
  | int4 (column : String)
  | flag (column : String)

def Field.column : Field → String
  | text column | nullableText column | int4 column | flag column => column

namespace Row

/-- A value can be decoded. -/
def decodes (row : Row) : Field → Bool
  | .text column => (row.text? column).isSome
  | .nullableText column => (row.nullableText? column).isSome
  | .int4 column => (row.int4? column).isSome
  | .flag column => (row.flag? column).isSome

/-- The column of the first of some values that cannot be decoded. -/
def undecodable? (row : Row) (fields : List Field) : Option String :=
  (fields.find? fun field => !row.decodes field).map Field.column

variable {row : Row} {fields : List Field}

theorem undecodable?_eq_none_iff :
    row.undecodable? fields = none ↔ ∀ field ∈ fields, row.decodes field := by
  simp [undecodable?]

/-- Values are decoded one by one, and the first that cannot be decoded ends the call. -/
theorem decoded_bind_eq_throw {field : Field} {value? : Option β} {next : β → Session α}
    {column : String} (hvalue : row.decodes field = value?.isSome)
    (hnext : ∀ value, row.undecodable? fields = some column →
      next value = throw (.undecodable column))
    (h : row.undecodable? (field :: fields) = some column) :
    (decoded field.column value? >>= next) = throw (.undecodable column) := by
  unfold undecodable? at h
  cases value? with
  | none =>
    have hcolumn : field.column = column := by simpa [hvalue] using h
    rw [hcolumn]
    rfl
  | some value =>
    have hrest : row.undecodable? fields = some column := by
      rwa [List.find?_cons_of_neg (by simp [hvalue])] at h
    exact hnext value hrest

end Row

/-! ### Forms of rows -/

/-- What rows of some form say, and the values that are decoded for it. -/
structure RowForm (α : Type) where
  Says : Row → α → Prop
  fields : List Field

/-- The code that reads rows of some form: it gives what the row says, unless a value cannot be decoded. -/
structure RowForm.ReadBy (form : RowForm α) (read : Row → Session α) : Prop where
  eq_pure {row : Row} {a : α} (h : form.Says row a) : read row = pure a
  eq_throw {row : Row} {column : String} (h : row.undecodable? form.fields = some column) :
    read row = throw (.undecodable column)
  exists_says {row : Row} (h : row.undecodable? form.fields = none) : ∃ a, form.Says row a

/-- A row about a column of a table. -/
structure Column.IsRow (row : Row) (c : Column) : Prop where
  name : row.text? "column_name" = some c.name
  dataType : row.text? "data_type" = some c.dataType
  nullable : ∃ answer, row.text? "is_nullable" = some answer ∧ c.nullable = decide (answer = "YES")
  defaultValue : row.nullableText? "column_default" = some c.defaultValue
  ordinalPosition : row.int4? "ordinal_position" = some c.ordinalPosition

def Column.rowForm : RowForm Column where
  Says := IsRow
  fields := [.text "column_name", .text "data_type", .text "is_nullable",
    .nullableText "column_default", .int4 "ordinal_position"]

theorem Column.readBy_columnOfRow : rowForm.ReadBy columnOfRow where
  eq_pure := by
    rintro row c ⟨hname, htype, ⟨answer, hanswer, hnullable⟩, hdefault, hposition⟩
    obtain ⟨name, dataType, nullable, defaultValue, ordinalPosition⟩ := c
    obtain rfl := hnullable
    simp [columnOfRow, decoded, hname, htype, hanswer, hdefault, hposition]
  eq_throw h := by
    -- one step for each value, in the order in which they are decoded
    refine Row.decoded_bind_eq_throw rfl (fun name h => ?_) h
    refine Row.decoded_bind_eq_throw rfl (fun dataType h => ?_) h
    refine Row.decoded_bind_eq_throw rfl (fun answer h => ?_) h
    refine Row.decoded_bind_eq_throw rfl (fun defaultValue h => ?_) h
    refine Row.decoded_bind_eq_throw rfl (fun ordinalPosition h => ?_) h
    cases h
  exists_says h := by
    simp only [Row.undecodable?_eq_none_iff, rowForm, List.forall_mem_cons, Row.decodes,
      Option.isSome_iff_exists] at h
    obtain ⟨⟨name, hname⟩, ⟨dataType, htype⟩, ⟨answer, hanswer⟩, ⟨defaultValue, hdefault⟩,
      ⟨ordinalPosition, hposition⟩, -⟩ := h
    exact ⟨⟨name, dataType, decide (answer = "YES"), defaultValue, ordinalPosition⟩,
      hname, htype, ⟨answer, hanswer, rfl⟩, hdefault, hposition⟩

/-- A row about an index of a table. The list of its columns is empty where it cannot be decoded. -/
structure Index.IsRow (row : Row) (i : Index) : Prop where
  name : row.text? "index_name" = some i.name
  columns : row.texts "columns" = i.columns
  isUnique : row.flag? "is_unique" = some i.isUnique
  isPrimary : row.flag? "is_primary" = some i.isPrimary

def Index.rowForm : RowForm Index where
  Says := IsRow
  fields := [.text "index_name", .flag "is_unique", .flag "is_primary"]

theorem Index.readBy_indexOfRow : rowForm.ReadBy indexOfRow where
  eq_pure := by
    rintro row i ⟨hname, hcolumns, hunique, hprimary⟩
    simp [indexOfRow, decoded, hname, hcolumns, hunique, hprimary]
  eq_throw h := by
    refine Row.decoded_bind_eq_throw rfl (fun name h => ?_) h
    refine Row.decoded_bind_eq_throw rfl (fun isUnique h => ?_) h
    refine Row.decoded_bind_eq_throw rfl (fun isPrimary h => ?_) h
    cases h
  exists_says h := by
    simp only [Row.undecodable?_eq_none_iff, rowForm, List.forall_mem_cons, Row.decodes,
      Option.isSome_iff_exists] at h
    obtain ⟨⟨name, hname⟩, ⟨isUnique, hunique⟩, ⟨isPrimary, hprimary⟩, -⟩ := h
    exact ⟨⟨name, _, isUnique, isPrimary⟩, hname, rfl, hunique, hprimary⟩

/-- A row about a foreign key of a table. Its lists are empty where they cannot be decoded. -/
structure ForeignKey.IsRow (row : Row) (k : ForeignKey) : Prop where
  name : row.text? "constraint_name" = some k.name
  columns : row.texts "columns" = k.columns
  referencedTable : row.text? "referenced_table" = some k.referencedTable
  referencedColumns : row.texts "referenced_columns" = k.referencedColumns
  onUpdate : row.nullableText? "on_update" = some k.onUpdate
  onDelete : row.nullableText? "on_delete" = some k.onDelete

def ForeignKey.rowForm : RowForm ForeignKey where
  Says := IsRow
  fields := [.text "constraint_name", .text "referenced_table", .nullableText "on_update",
    .nullableText "on_delete"]

theorem ForeignKey.readBy_foreignKeyOfRow : rowForm.ReadBy foreignKeyOfRow where
  eq_pure := by
    rintro row k ⟨hname, hcolumns, htable, hreferenced, hupdate, hdelete⟩
    simp [foreignKeyOfRow, decoded, hname, hcolumns, htable, hreferenced, hupdate, hdelete]
  eq_throw h := by
    refine Row.decoded_bind_eq_throw rfl (fun name h => ?_) h
    refine Row.decoded_bind_eq_throw rfl (fun referencedTable h => ?_) h
    refine Row.decoded_bind_eq_throw rfl (fun onUpdate h => ?_) h
    refine Row.decoded_bind_eq_throw rfl (fun onDelete h => ?_) h
    cases h
  exists_says h := by
    simp only [Row.undecodable?_eq_none_iff, rowForm, List.forall_mem_cons, Row.decodes,
      Option.isSome_iff_exists] at h
    obtain ⟨⟨name, hname⟩, ⟨table, htable⟩, ⟨onUpdate, hupdate⟩, ⟨onDelete, hdelete⟩,
      -⟩ := h
    exact ⟨⟨name, _, table, _, onUpdate, onDelete⟩, hname, rfl, htable, rfl, hupdate, hdelete⟩

/-! ### Result sets -/

/-- Sends a query and reads the rows of the reply. -/
def Session.readRows (query : Query) (failure : String → Failure) (read : Row → Session α) :
    Session (List α) := do
  (← send query failure).toRows.mapM read

namespace RowForm

/-- What the reply to a query comes to: one item for each row, in the order of the rows, or the first
value that cannot be decoded, or the complaint of the server. -/
inductive Reads (form : RowForm α) (failure : String → Failure) :
    Reply → Except Stop (List α) → Prop where
  | rows {set : ResultSet} {items : List α} (h : List.Forall₂ form.Says set.toRows items) :
      form.Reads failure (.result set) (.ok items)
  | undecodable {set : ResultSet} {column : String}
      (h : set.toRows.findSome? (·.undecodable? form.fields) = some column) :
      form.Reads failure (.result set) (.error (.undecodable column))
  | refused {reply : Reply} {message : String} (h : reply.complaint? = some message) :
      form.Reads failure reply (.error (.failure (failure message)))

variable {form : RowForm α} {read : Row → Session α} {rows : List Row}

namespace ReadBy

theorem mapM_eq_pure (hform : form.ReadBy read) {items : List α}
    (h : List.Forall₂ form.Says rows items) : rows.mapM read = pure items := by
  induction h with
  | nil => rfl
  | cons hrow _ ih => simp [List.mapM_cons, hform.eq_pure hrow, ih]

theorem mapM_eq_throw (hform : form.ReadBy read) {column : String}
    (h : rows.findSome? (·.undecodable? form.fields) = some column) :
    rows.mapM read = throw (.undecodable column) := by
  induction rows with
  | nil => cases h
  | cons row rows ih =>
    rw [List.findSome?_cons] at h
    cases hrow : row.undecodable? form.fields with
    | some first =>
      obtain rfl : first = column := by simpa [hrow] using h
      rw [List.mapM_cons, hform.eq_throw hrow]
      rfl
    | none =>
      obtain ⟨a, ha⟩ := hform.exists_says hrow
      rw [hrow] at h
      rw [List.mapM_cons, hform.eq_pure ha, pure_bind, ih h]
      rfl

theorem exists_forall₂_says (hform : form.ReadBy read)
    (h : rows.findSome? (·.undecodable? form.fields) = none) :
    ∃ items, List.Forall₂ form.Says rows items := by
  induction rows with
  | nil => exact ⟨[], .nil⟩
  | cons row rows ih =>
    rw [List.findSome?_eq_none_iff, List.forall_mem_cons] at h
    obtain ⟨a, ha⟩ := hform.exists_says h.1
    obtain ⟨items, hitems⟩ := ih (List.findSome?_eq_none_iff.mpr h.2)
    exact ⟨a :: items, .cons ha hitems⟩

end ReadBy

theorem Reads.leads (hform : form.ReadBy read) {query : Query} {failure : String → Failure}
    {reply : Reply} {outcome : Except Stop (List α)} (h : form.Reads failure reply outcome) :
    (readRows query failure read).Leads [⟨query, reply⟩] outcome := by
  unfold readRows
  cases h with
  | rows h =>
    refine .of_result ?_
    rw [hform.mapM_eq_pure h]
    exact .pure _
  | undecodable h =>
    refine .of_result ?_
    rw [hform.mapM_eq_throw h]
    exact .throw _
  | refused h => exact (leads_send_complaint query failure h).bind_error

/-- Whatever the next reply is, either a query stops at it, or it is a result set and every row of it is
read. -/
theorem ReadBy.stops_or_reads (hform : form.ReadBy read) (query : Query)
    (failure : String → Failure) (replies : List Reply) :
    (∃ reply stop, HeldUp replies [⟨query, reply⟩] ∧ form.Reads failure reply (.error stop)) ∨
      ∃ set items, HeldUp replies [⟨query, .result set⟩] ∧
        List.Forall₂ form.Says set.toRows items := by
  generalize hreply : replies.headD .failed = reply
  have hheld : HeldUp replies [⟨query, reply⟩] := ⟨hreply.symm, trivial⟩
  cases reply with
  | failed | closed => exact .inl ⟨_, _, hheld, .refused rfl⟩
  | result set =>
    cases h : set.toRows.findSome? (·.undecodable? form.fields) with
    | some column => exact .inl ⟨_, _, hheld, .undecodable h⟩
    | none =>
      obtain ⟨items, hitems⟩ := hform.exists_forall₂_says h
      exact .inr ⟨set, items, hheld, hitems⟩

end RowForm

/-! ### Settings -/

namespace Introspection.DatabaseDefaults

/-- A row about the settings of a database. -/
structure IsRow (row : Row) (d : DatabaseDefaults) : Prop where
  charset : row.nullableText? "charset" = some d.charset
  collation : row.nullableText? "collation" = some d.collation

def rowForm : RowForm DatabaseDefaults where
  Says := IsRow
  fields := [.nullableText "charset", .nullableText "collation"]

theorem readBy_defaultsOfRow : rowForm.ReadBy defaultsOfRow where
  eq_pure := by
    rintro row d ⟨hcharset, hcollation⟩
    simp [defaultsOfRow, decoded, hcharset, hcollation]
  eq_throw h := by
    refine Row.decoded_bind_eq_throw rfl (fun charset h => ?_) h
    refine Row.decoded_bind_eq_throw rfl (fun collation h => ?_) h
    cases h
  exists_says h := by
    simp only [Row.undecodable?_eq_none_iff, rowForm, List.forall_mem_cons, Row.decodes,
      Option.isSome_iff_exists] at h
    obtain ⟨⟨charset, hcharset⟩, ⟨collation, hcollation⟩, -⟩ := h
    exact ⟨⟨charset, collation⟩, hcharset, hcollation⟩

/-- The settings are those of the first row, and there are none if there is no row. -/
def AreOf (d : DatabaseDefaults) : List Row → Prop
  | [] => d.charset = none ∧ d.collation = none
  | row :: _ => d.IsRow row

/-- What the reply to the query for the settings comes to. Only the first row is read. -/
inductive Read : Reply → Except Stop DatabaseDefaults → Prop where
  | settings {set : ResultSet} {d : DatabaseDefaults} (h : d.AreOf set.toRows) :
      Read (.result set) (.ok d)
  | undecodable {set : ResultSet} {row : Row} {rows : List Row} {column : String}
      (hrows : set.toRows = row :: rows) (h : row.undecodable? rowForm.fields = some column) :
      Read (.result set) (.error (.undecodable column))
  | refused {reply : Reply} {message : String} (h : reply.complaint? = some message) :
      Read reply (.error (.failure (.database message)))

theorem Read.leads {reply : Reply} {outcome : Except Stop DatabaseDefaults}
    (h : Read reply outcome) : readDefaults.Leads [⟨.settings, reply⟩] outcome := by
  unfold readDefaults
  cases h with
  | @settings set d h =>
    refine .of_result ?_
    cases hrows : set.toRows with
    | nil =>
      rw [hrows] at h
      obtain ⟨charset, collation⟩ := d
      obtain ⟨rfl, rfl⟩ := h
      exact .pure _
    | cons row rows =>
      rw [hrows] at h
      simp only [readBy_defaultsOfRow.eq_pure h]
      exact .pure d
  | undecodable hrows h =>
    refine .of_result ?_
    simp only [hrows, readBy_defaultsOfRow.eq_throw h]
    exact .throw _
  | refused h => exact (leads_send_complaint .settings .database h).bind_error

theorem stops_or_reads (replies : List Reply) :
    (∃ reply stop, HeldUp replies [⟨.settings, reply⟩] ∧ Read reply (.error stop)) ∨
      ∃ set d, HeldUp replies [⟨.settings, .result set⟩] ∧ AreOf d set.toRows := by
  generalize hreply : replies.headD .failed = reply
  have hheld : HeldUp replies [⟨.settings, reply⟩] := ⟨hreply.symm, trivial⟩
  cases reply with
  | failed | closed => exact .inl ⟨_, _, hheld, .refused rfl⟩
  | result set =>
    cases hrows : set.toRows with
    | nil => exact .inr ⟨set, {}, hheld, by rw [hrows]; exact ⟨rfl, rfl⟩⟩
    | cons row rows =>
      cases h : row.undecodable? rowForm.fields with
      | some column => exact .inl ⟨_, _, hheld, .undecodable hrows h⟩
      | none =>
        obtain ⟨d, hd⟩ := readBy_defaultsOfRow.exists_says h
        exact .inr ⟨set, d, hheld, by rwa [hrows]⟩

end Introspection.DatabaseDefaults

end MigrationPreview
