import MigrationPreview.Proofs.Details
import MigrationPreview.Proofs.Name.Reader

/-!
# The names in the details of an operation

Every text that an operation names is a name: it is not empty and holds no quote. Most texts are taken out
of quotes as they stand. The table is that of the block that was opened last, so that it is a name because
all tables are, from line to line. The name that an index or a foreign key gets by convention is made of
names in lower case, and lower case brings in no quote.

## Main definitions

* `Details.names`: the texts that an operation names
* `Operation.IsComplete`: an operation with the details that belong to it, all of them names

## Main results

* `isName_conventionalName`: the name by convention is a name
* `Line.isName_of_mem_drafts`: the drafts of a line hold names
* `isComplete_of_mem_parse`: every operation of a migration is complete
-/

namespace MigrationPreview

open Text

/-! ### Lower case -/

namespace Text

/-- The code points of both quotes lie in front of those of all letters. -/
theorem toNat_lt_of_isQuote {c : Char} (h : Call.isQuote c = true) : c.toNat < 0x28 := by
  simp only [Call.isQuote, Bool.or_eq_true, beq_iff_eq] at h
  rcases h with rfl | rfl <;> decide

theorem isQuote_ofNat {n : Nat} (h : 0x28 ≤ n) : Call.isQuote (Char.ofNat n) = false := by
  by_cases hvalid : n.isValidChar
  · refine Bool.eq_false_iff.mpr fun hquote => ?_
    have hlt := toNat_lt_of_isQuote hquote
    have hn : (Char.ofNat n).toNat = n := by
      rw [Char.ofNat, dif_pos hvalid]
      rfl
    omega
  · rw [Char.ofNat, dif_neg hvalid]
    decide

theorem le_target_of_mem_lowerRuns : ∀ run ∈ lowerRuns, 0x28 ≤ run.target := by
  decide +kernel

/-- Lower case makes no quote out of another character. -/
theorem isQuote_lowerChar {c : Char} (h : Call.isQuote c = false) :
    Call.isQuote (lowerChar c) = false := by
  unfold lowerChar
  split
  · next hascii =>
    have hall : ∀ n < 0x80, Call.isQuote (Char.ofNat n) = false →
        Call.isQuote (Char.ofNat n).toLower = false := by decide +kernel
    have hc := hall c.toNat hascii
    rw [Char.ofNat_toNat] at hc
    exact hc h
  · split
    · next n hshifted =>
      obtain ⟨run, hrun, himage⟩ := List.exists_of_findSome?_eq_some hshifted
      have htarget := le_target_of_mem_lowerRuns run hrun
      unfold ShiftRun.image? at himage
      split at himage
      · obtain rfl := Option.some_inj.mp himage
        exact isQuote_ofNat (by omega)
      · simp at himage
    · exact h

theorem isQuote_of_mem_lowercaseAfter {before cs : List Char}
    (h : ∀ c ∈ cs, Call.isQuote c = false) :
    ∀ c ∈ lowercaseAfter before cs, Call.isQuote c = false := by
  induction cs generalizing before with
  | nil => simp [lowercaseAfter]
  | cons c cs ih =>
    obtain ⟨hc, hcs⟩ := List.forall_mem_cons.mp h
    rw [lowercaseAfter, List.forall_mem_append]
    refine ⟨?_, ih hcs⟩
    split
    · split <;> decide
    · split
      · decide
      · simpa using isQuote_lowerChar hc

theorem lowercaseAfter_ne_nil {before cs : List Char} (h : cs ≠ []) :
    lowercaseAfter before cs ≠ [] := by
  cases cs with
  | nil => exact absurd rfl h
  | cons c cs =>
    rw [lowercaseAfter]
    refine List.append_ne_nil_of_left_ne_nil ?_ _
    split
    · split <;> simp
    · split <;> simp

end Text

/-- The name by convention is a name. -/
theorem isName_conventionalName {table ending : String} {columns : List String}
    (htable : IsName table) (hcolumns : ∀ column ∈ columns, IsName column)
    (hending : IsName ending) : IsName (conventionalName table columns ending) := by
  have hparts : ∀ part ∈ table :: columns ++ [ending], IsName part := by
    simp only [List.forall_mem_append, List.forall_mem_cons]
    exact ⟨⟨htable, hcolumns⟩, hending, List.forall_mem_nil _⟩
  have hquote : ∀ c ∈ ("_".intercalate (table :: columns ++ [ending])).toList,
      Call.isQuote c = false := by
    rw [String.toList_intercalate]
    refine intercalate_of_append (P := fun cs => ∀ c ∈ cs, Call.isQuote c = false) (by simp)
      (fun h h' => List.forall_mem_append.mpr ⟨h, h'⟩) (by decide) fun cs hcs => ?_
    obtain ⟨part, hpart, rfl⟩ := List.mem_map.mp hcs
    exact (hparts part hpart).isQuote_eq_false
  have hne : ("_".intercalate (table :: columns ++ [ending])).toList ≠ [] := by
    rw [String.toList_intercalate]
    cases columns <;> simp [List.intercalate_cons_cons]
  refine ⟨fun hempty => ?_, fun c hc => ?_⟩
  · have hnil := congrArg String.toList hempty
    rw [conventionalName, String.toList_ofList] at hnil
    exact lowercaseAfter_ne_nil hne (List.map_eq_nil_iff.mp hnil)
  · rw [conventionalName, String.toList_ofList] at hc
    obtain ⟨d, hd, rfl⟩ := List.mem_map.mp hc
    split
    · decide
    · exact isQuote_of_mem_lowercaseAfter hquote d hd

/-! ### Details -/

/-- The texts that complete a foreign key: what it refers to, and its rules. -/
def Details.references (d : Details) : List String :=
  d.referencedTable.toList ++ d.referencedColumn.toList ++ d.onUpdate.toList ++ d.onDelete.toList

/-- The texts that an operation names. -/
def Details.names (d : Details) : List String :=
  d.table :: (d.column.toList ++ d.source.toList ++ d.target.toList ++ d.columns ++ d.name.toList ++
    d.references ++ d.value.toList)

/-- What is dropped by its name or by a list of columns is named. -/
theorem isName_of_dropDetails? {table ending : String} {argument : Call.Argument} {details : Details}
    (htable : IsName table) (hargument : ∀ item ∈ argument.names, IsName item)
    (hending : IsName ending) (h : dropDetails? table ending argument = some details) :
    ∀ name ∈ details.names, IsName name := by
  unfold dropDetails? at h
  split at h
  · next name =>
    obtain rfl := Option.some_inj.mp h
    simpa [Details.names, Details.references, htable, Call.Argument.names] using hargument
  · simp at h
  · next columns _ =>
    obtain rfl := Option.some_inj.mp h
    have hcolumns : ∀ column ∈ columns, IsName column := hargument
    have hname := isName_conventionalName htable hcolumns hending
    simpa [Details.names, Details.references, htable, hname, or_imp, forall_and] using hcolumns

/-- What completes a foreign key stands in quotes in its chain. -/
theorem namedIn_of_foreignKeyDetails? {table : String} {columns : List String} {chain : List Char}
    {details : Details} (h : foreignKeyDetails? table columns chain = some details) :
    ∀ name ∈ details.references, Call.NamedIn chain name := by
  obtain ⟨⟨method, first, second⟩, hcall, h⟩ := Option.bind_eq_some_iff.mp h
  obtain ⟨-, arguments, hsuffix, hread⟩ := Call.exists_arguments_of_find? hcall
  obtain ⟨hfirst, hsecond⟩ := Call.namedIn_of_oneOrTwoQuoted? hread
  have hfirst := hfirst.mono hsuffix.isInfix
  have hsecond : ∀ item ∈ second, Call.NamedIn chain item := fun item hitem =>
    (hsecond item hitem).mono hsuffix.isInfix
  have hargument : ∀ method, ∀ item ∈ (Call.find? [method] Call.quoted? chain).map Prod.snd,
      Call.NamedIn chain item := by
    intro method item hitem
    obtain ⟨⟨_, _⟩, hfound, rfl⟩ := Option.map_eq_some_iff.mp hitem
    exact Call.namedIn_of_find?_quoted? hfound
  obtain rfl := Option.some_inj.mp h
  simp only [Details.references, List.forall_mem_append, Option.mem_toList]
  refine ⟨⟨?_, hargument "onUpdate"⟩, hargument "onDelete"⟩
  cases hon : (Call.find? ["on"] Call.quoted? chain).map Prod.snd with
  | none => exact ⟨by simpa using hfirst, hsecond⟩
  | some onTable => exact ⟨by simpa using hargument "on" onTable hon, by simpa using hfirst⟩

/-- A foreign key names its table, its columns and what completes it. -/
theorem isName_of_foreignKeyDetails? {table : String} {columns : List String} {chain : List Char}
    {details : Details} (htable : IsName table) (hcolumns : ∀ column ∈ columns, IsName column)
    (h : foreignKeyDetails? table columns chain = some details) :
    ∀ name ∈ details.names, IsName name := by
  have hreferences := namedIn_of_foreignKeyDetails? h
  have hnames : details.names = table :: (columns ++ details.references) := by
    obtain ⟨_, _, _, _, rfl⟩ := exists_eq_of_foreignKeyDetails? h
    simp [Details.names]
  rw [hnames, List.forall_mem_cons, List.forall_mem_append]
  exact ⟨htable, hcolumns, fun name hname => (hreferences name hname).isName⟩

/-! ### Drafts -/

namespace Line

variable {line : Line} {draft : Draft}

/-- The drafts of a line hold names if the line stands in the block of a table that is one. -/
theorem isName_of_mem_drafts (htable : ∀ table ∈ line.table, IsName table)
    (h : draft ∈ line.drafts) : ∀ name ∈ draft.details.names, IsName name := by
  cases asksFor_of_mem_drafts h with
  | table hcall => simpa [Details.names, Details.references] using isName_of_schemaCall? hcall
  | columnModify hcontext _ hnamed | columnAdd hcontext _ _ hnamed =>
    simpa [Details.names, Details.references] using
      ⟨htable _ hcontext, (Call.namedIn_of_firstName? hnamed).isName⟩
  | columnDrop hcontext hcall hlisted =>
    simpa [Details.names, Details.references] using
      ⟨htable _ hcontext, (Call.namedIn_of_find?_argument? hcall _ hlisted).isName⟩
  | columnRename hcontext hcall =>
    obtain ⟨-, arguments, -, hread⟩ := Call.exists_arguments_of_find? hcall
    obtain ⟨hsource, htarget⟩ := Call.namedIn_of_twoQuoted? hread
    simpa [Details.names, Details.references] using
      ⟨htable _ hcontext, hsource.isName, htarget.isName⟩
  | @indexAdd table method columns argument name hcontext hcall hcovered =>
    obtain ⟨-, arguments, -, hread⟩ := Call.exists_arguments_of_find? hcall
    have hnames := Call.namedIn_of_argumentAndName arguments
    rw [Option.some_inj.mp hread] at hnames
    have hcolumns : ∀ column ∈ columns, IsName column := by
      rw [hcovered]
      split
      · exact fun item hitem => (Call.namedIn_of_firstName? (Option.mem_toList.mp hitem)).isName
      · exact fun item hitem => (hnames.1 item hitem).isName
    have hname : ∀ item ∈ name, IsName item := fun item hitem => (hnames.2 item hitem).isName
    simpa [Details.names, Details.references, or_imp, forall_and] using
      ⟨htable _ hcontext, hcolumns, hname⟩
  | indexDrop hcontext hcall hdropped | foreignKeyDrop hcontext hcall hdropped =>
    exact isName_of_dropDetails? (htable _ hcontext)
      (fun item hitem => (Call.namedIn_of_find?_argument? hcall item hitem).isName)
      ⟨by decide, by decide⟩ hdropped
  | @foreignKeyAdd table method argument chain details hcontext hcall hcompleted hreferenced =>
    have hcolumns : ∀ column ∈ argument.elim [] Call.Argument.names, IsName column := by
      obtain ⟨-, arguments, -, hread⟩ := Call.exists_arguments_of_find? hcall
      cases hargument : argument with
      | none => simp
      | some argument =>
        have hread : Call.argument? arguments = some argument :=
          (Option.some_inj.mp hread).trans hargument
        exact fun item hitem => (Call.namedIn_of_argument? hread item hitem).isName
    exact isName_of_foreignKeyDetails? (htable _ hcontext) hcolumns hreferenced
  | setting kind hcontext hsetting hcall =>
    simpa [Details.names, Details.references] using
      ⟨htable _ hcontext, (Call.namedIn_of_find?_quoted? hcall).isName⟩

/-- A column that is added has one of the types, and its definition calls for this type. -/
theorem exists_type_of_mem_drafts (h : draft ∈ line.drafts) (hkind : draft.kind = .column)
    (haction : draft.action = .add) :
    ∃ type ∈ columnTypes, ∃ definition,
      draft.details.columnType = some type ∧ draft.details.definition = some definition ∧
      ∃ blanks : List Char, blanks.all isBlank ∧
        "->".toList ++ type.toList ++ blanks ++ ['('] <:+: definition.toList := by
  cases asksFor_of_mem_drafts h with
  | @columnAdd table type column _ _ hcall =>
    obtain ⟨⟨blanks, hblanks, hinfix⟩, -⟩ := Call.exists_arguments_of_find? hcall
    refine ⟨type, Call.method_mem_of_find? hcall, _, rfl, rfl, blanks, hblanks, ?_⟩
    rwa [String.toList_ofList (l := line.text)]
  | setting kind _ hsetting =>
    obtain rfl : kind = .column := hkind
    simp at hsetting
  | table | columnModify | columnDrop | columnRename | indexAdd | indexDrop | foreignKeyAdd
  | foreignKeyDrop => simp_all

end Line

/-! ### Operations of a migration -/

variable {direction : Direction} {op : Operation}

theorem isName_of_blockOpened? {raw : List Char} {table : String} (h : blockOpened? raw = some table) :
    IsName table := by
  unfold blockOpened? at h
  split at h
  · simp at h
  · exact isName_of_openedTable? h

/-- An operation with exactly the details that belong to its kind and action, all of them names, and a
definition that calls for the type of the column if a column is added. -/
structure Operation.IsComplete (op : Operation) : Prop where
  fits : op.WellFormed
  isName : ∀ name ∈ op.details.names, IsName name
  declared : op.is .column .add → ∃ type ∈ columnTypes, ∃ definition,
    op.details.columnType = some type ∧ op.details.definition = some definition ∧
    ∃ blanks : List Char, blanks.all isBlank ∧
      "->".toList ++ type.toList ++ blanks ++ ['('] <:+: definition.toList

/-- The step for one line: its drafts are complete. -/
theorem Line.isComplete_of_mem_drafts {line : Line} {draft : Draft} {number : Nat}
    (htable : ∀ table ∈ line.table, IsName table) (h : draft ∈ line.drafts) :
    (draft.toOperation direction number).IsComplete where
  fits := fit_of_mem_drafts h
  isName := isName_of_mem_drafts htable h
  declared hadd := by
    simp only [Operation.is, Bool.and_eq_true, decide_eq_true_eq] at hadd
    exact exists_type_of_mem_drafts h hadd.1 hadd.2

theorem isComplete_of_mem_operationsIn {source : List Char} (h : op ∈ operationsIn direction source) :
    op.IsComplete := by
  obtain ⟨body, -, hop⟩ := mem_operations_of_mem_operationsIn h
  obtain ⟨index, raw, draft, -, -, hdraft, rfl⟩ := exists_line_of_mem_operationsOfLines hop
  -- no table is open in front of the body, and every table that a line opens is a name
  have htable : ∀ t ∈ tableBehind none ((body.text.splitOn '\n').take (index + 1)), IsName t :=
    forall_mem_tableBehind (by simp) fun _ _ _ => isName_of_blockOpened?
  exact Line.isComplete_of_mem_drafts htable hdraft

/-- Every operation of a migration is complete, whatever the text of the migration is. -/
theorem isComplete_of_mem_parse {source : String} (h : op ∈ (Script.parse source).operations) :
    op.IsComplete := by
  rcases List.mem_append.mp h with h | h
  · exact isComplete_of_mem_operationsIn h
  · exact isComplete_of_mem_operationsIn h

/-- The index of the block that was opened last gets its name by convention. -/
theorem isComplete_of_droppedIndex :
    let source := "public function up() \x7b\n Schema::table('Tags', function ($t) \x7b\n" ++
      "  $t->dropIndex([ \"post-id\", 'ÉTAT' ] );\n \x7d);\n\x7d"
    let op : Operation := ⟨.index, .drop, .up,
      { table := "Tags", columns := ["post-id", "ÉTAT"], name := some "tags_post_id_état_index" }, 3⟩
    op ∈ (Script.parse source).operations ∧ op.IsComplete := by
  intro source op
  have hop : op ∈ (Script.parse source).operations := by decide +kernel
  exact ⟨hop, isComplete_of_mem_parse hop⟩

end MigrationPreview
