import MigrationPreview.Sql.Statement

/-!
# Identifiers within statements

In a quoted identifier a quote is written twice, so a reader knows where it ends: at the first quote that
no other quote follows. What is read back is the identifier, whatever characters it is made of, quotes and
semicolons included. A statement is made of fixed texts and of identifiers in quotes; as no identifier
ends before its closing quote, the pieces of a statement are exactly these, and they tell the kind and
the action of the operation and every identifier that its statement prints.

## Main definitions

* `Dialect.readQuoted`: reads a quoted identifier
* `SqlPiece`, `Dialect.pieces?`: what a reader finds in a statement
* `Dialect.fixedTexts`, `Dialect.identifiers`: what a statement is made of

## Main results

* `Dialect.readQuoted_quote`: a quoted identifier is read back, and nothing behind it is touched
* `Dialect.pieces?_statement`: the pieces of a statement are its fixed texts and its identifiers
* `Dialect.statement_unambiguous`: equal statements come from operations that print the same
-/

namespace MigrationPreview

namespace Dialect

variable (d : Dialect)

/-! ### Reading identifiers -/

/-- Reads an identifier behind its opening quote. The first quote that no other one follows ends it, and
what is left begins behind this quote. -/
def readIdentifier : List Char → Option (List Char × List Char)
  | [] => none
  | [c] => if c = d.quoteChar then some ([], []) else none
  | c :: next :: rest =>
    if c = d.quoteChar then
      if next = d.quoteChar then (readIdentifier rest).map fun (s, rest) => (c :: s, rest)
      else some ([], next :: rest)
    else (readIdentifier (next :: rest)).map fun (s, rest) => (c :: s, rest)

/-- Reads an identifier with its quotes. -/
def readQuoted : List Char → Option (List Char × List Char)
  | [] => none
  | c :: rest => if c = d.quoteChar then d.readIdentifier rest else none

variable {d}

theorem readIdentifier_closing {rest : List Char} (h : rest.head? ≠ some d.quoteChar) :
    d.readIdentifier (d.quoteChar :: rest) = some ([], rest) := by
  cases rest with
  | nil => simp [readIdentifier]
  | cons c rest =>
    have hc : c ≠ d.quoteChar := fun hc => h (by rw [hc, List.head?_cons])
    simp [readIdentifier, hc]

theorem readIdentifier_quote_quote (rest : List Char) :
    d.readIdentifier (d.quoteChar :: d.quoteChar :: rest) =
      (d.readIdentifier rest).map fun (s, rest) => (d.quoteChar :: s, rest) := by
  simp [readIdentifier]

theorem readIdentifier_cons_of_ne {c : Char} {rest : List Char} (hc : c ≠ d.quoteChar)
    (hrest : rest ≠ []) :
    d.readIdentifier (c :: rest) =
      (d.readIdentifier rest).map fun (s, rest) => (c :: s, rest) := by
  cases rest with
  | nil => exact absurd rfl hrest
  | cons next rest => rw [readIdentifier, if_neg hc]

/-- By induction on the identifier: each character is read back from what is written for it. -/
theorem readIdentifier_append {s rest : List Char} (h : rest.head? ≠ some d.quoteChar) :
    d.readIdentifier
        (s.flatMap (fun c => if c = d.quoteChar then [d.quoteChar, d.quoteChar] else [c]) ++
          d.quoteChar :: rest) =
      some (s, rest) := by
  induction s with
  | nil => exact readIdentifier_closing h
  | cons c s ih =>
    rw [List.flatMap_cons]
    by_cases hc : c = d.quoteChar
    · rw [if_pos hc, hc]
      simp only [List.cons_append, List.nil_append]
      rw [readIdentifier_quote_quote, ih]
      rfl
    · rw [if_neg hc]
      simp only [List.cons_append, List.nil_append]
      rw [readIdentifier_cons_of_ne hc (by simp), ih]
      rfl

/-- A quoted identifier is read back, and exactly its own text is consumed. -/
theorem readQuoted_quote (s : String) {rest : List Char} (h : rest.head? ≠ some d.quoteChar) :
    d.readQuoted ((d.quote s).toList ++ rest) = some (s.toList, rest) := by
  rw [quote, String.toList_ofList, List.append_assoc, List.cons_append, readQuoted, if_pos rfl]
  exact readIdentifier_append h

theorem length_lt_of_readIdentifier {cs s rest : List Char}
    (h : d.readIdentifier cs = some (s, rest)) : rest.length < cs.length := by
  fun_induction readIdentifier d cs generalizing s rest with
  | case1 => cases h
  | case2 =>
    obtain ⟨rfl, rfl⟩ := Prod.mk.inj (Option.some.inj h)
    simp
  | case3 => cases h
  | case4 _ ih =>
    obtain ⟨⟨s', rest'⟩, hread, heq⟩ := Option.map_eq_some_iff.mp h
    obtain ⟨rfl, rfl⟩ := Prod.mk.inj heq
    have hlt := ih hread
    simp only [List.length_cons]
    omega
  | case5 =>
    obtain ⟨rfl, rfl⟩ := Prod.mk.inj (Option.some.inj h)
    simp
  | case6 c next cs _ ih =>
    obtain ⟨⟨s', rest'⟩, hread, heq⟩ := Option.map_eq_some_iff.mp h
    obtain ⟨rfl, rfl⟩ := Prod.mk.inj heq
    have hlt := ih hread
    simp only [List.length_cons] at hlt ⊢
    omega

end Dialect

/-! ### Reading statements -/

/-- A piece of a statement: a character outside of quotes, or an identifier in quotes. -/
inductive SqlPiece where
  | plain (c : Char)
  | identifier (name : List Char)
  deriving DecidableEq

namespace Dialect

variable (d : Dialect)

/-- The pieces of a statement, if every quote in it is closed. -/
def pieces? : List Char → Option (List SqlPiece)
  | [] => some []
  | c :: cs =>
    if c = d.quoteChar then
      match hread : d.readIdentifier cs with
      | some (name, rest) =>
        have := length_lt_of_readIdentifier hread
        (pieces? rest).map (.identifier name :: ·)
      | none => none
    else (pieces? cs).map (.plain c :: ·)
  termination_by cs => cs.length
  decreasing_by all_goals simp only [List.length_cons]; omega

variable {d}

theorem pieces?_append_of_notMem {text : List Char} (h : d.quoteChar ∉ text) (rest : List Char) :
    d.pieces? (text ++ rest) = (d.pieces? rest).map (text.map .plain ++ ·) := by
  induction text with
  | nil => simp
  | cons c text ih =>
    obtain ⟨hc, htext⟩ := not_or.mp (mt List.mem_cons.mpr h)
    rw [List.cons_append, pieces?, if_neg (Ne.symm hc), ih htext, Option.map_map]
    rfl

theorem pieces?_quote_append (s : String) {rest : List Char}
    (h : rest.head? ≠ some d.quoteChar) :
    d.pieces? ((d.quote s).toList ++ rest) = (d.pieces? rest).map (.identifier s.toList :: ·) := by
  have hread := readIdentifier_append (s := s.toList) h
  rw [quote, String.toList_ofList, List.append_assoc, List.cons_append, pieces?, if_pos rfl]
  split
  · next name rest' heq =>
    obtain ⟨rfl, rfl⟩ := Prod.mk.inj (Option.some.inj (hread.symm.trans heq))
    rfl
  · next heq => cases hread.symm.trans heq

/-! ### What statements are made of -/

variable (d)

/-- The fixed texts of the statements for a kind and an action: the one in front of each identifier, and
the one behind the last. Operations of other kinds and actions have no statement. -/
def fixedTexts (kind : ObjectKind) (action : Action) : List String :=
  match kind, action, d with
  | .table, .drop, _ => ["DROP TABLE IF EXISTS ", ";"]
  | .column, .drop, _ => ["ALTER TABLE ", " DROP COLUMN ", ";"]
  | .column, .rename, _ => ["ALTER TABLE ", " RENAME COLUMN ", " TO ", ";"]
  | .index, .drop, .postgres => ["DROP INDEX ", ";"]
  | .index, .drop, .mySql => ["ALTER TABLE ", " DROP INDEX ", ";"]
  | .foreignKey, .drop, .postgres => ["ALTER TABLE ", " DROP CONSTRAINT ", ";"]
  | .foreignKey, .drop, .mySql => ["ALTER TABLE ", " DROP FOREIGN KEY ", ";"]
  | _, _, _ => []

/-- The identifiers that the statement of an operation prints, in their order. An index of PostgreSQL is
dropped without its table. -/
def identifiers (op : Operation) : List (Option String) :=
  match op.kind, op.action, d with
  | .table, .drop, _ => [some op.table]
  | .column, .drop, _ => [some op.table, op.details.column]
  | .column, .rename, _ => [some op.table, op.details.source, op.details.target]
  | .index, .drop, .postgres => [op.details.name]
  | .index, .drop, .mySql => [some op.table, op.details.name]
  | .foreignKey, .drop, _ => [some op.table, op.details.name]
  | _, _, _ => []

/-- Fixed texts with the identifiers between them in quotes. -/
def fill : List String → List String → String
  | text :: texts, name :: names => text ++ d.quote name ++ fill texts names
  | texts, _ => String.join texts

end Dialect

/-- The pieces of fixed texts with identifiers between them. -/
def SqlPiece.weave : List String → List String → List SqlPiece
  | text :: texts, name :: names =>
    text.toList.map .plain ++ .identifier name.toList :: weave texts names
  | texts, _ => (String.join texts).toList.map .plain

namespace SqlPiece

/-- The character of a piece outside of quotes. -/
def plain? : SqlPiece → Option Char
  | plain c => some c
  | identifier _ => none

/-- The identifier of a piece in quotes. -/
def identifier? : SqlPiece → Option (List Char)
  | plain _ => none
  | identifier name => some name

theorem filterMap_plain?_weave {texts names : List String}
    (h : texts.length = names.length + 1) :
    (weave texts names).filterMap plain? = (String.join texts).toList := by
  have hplain (cs : List Char) : (cs.map plain).filterMap plain? = cs := by
    rw [List.filterMap_map]
    exact List.filterMap_some
  induction names generalizing texts with
  | nil => cases texts <;> exact hplain _
  | cons name names ih =>
    cases texts with
    | nil => cases h
    | cons text texts =>
      rw [weave, List.filterMap_append, hplain, List.filterMap_cons_none rfl,
        ih (Nat.succ.inj h), String.join_cons, String.toList_append]

theorem filterMap_identifier?_weave {texts names : List String}
    (h : texts.length = names.length + 1) :
    (weave texts names).filterMap identifier? = names.map String.toList := by
  have hplain (cs : List Char) : (cs.map plain).filterMap identifier? = [] := by
    rw [List.filterMap_map, List.filterMap_eq_nil_iff]
    exact fun _ _ => rfl
  induction names generalizing texts with
  | nil => cases texts <;> exact hplain _
  | cons name names ih =>
    cases texts with
    | nil => cases h
    | cons text texts =>
      rw [weave, List.filterMap_append, hplain, List.nil_append, List.map_cons,
        ← ih (Nat.succ.inj h)]
      rfl

end SqlPiece

namespace Dialect

variable {d : Dialect}

theorem exists_fill_eq_append (d : Dialect) (text : String) (texts names : List String) :
    ∃ rest, d.fill (text :: texts) names = text ++ rest := by
  cases names with
  | nil => exact ⟨String.join texts, String.join_cons⟩
  | cons name names => exact ⟨_, String.append_assoc⟩

theorem head?_append_ne {text : String} (hne : text ≠ "") (h : d.quoteChar ∉ text.toList)
    (rest : List Char) : (text.toList ++ rest).head? ≠ some d.quoteChar := by
  intro hhead
  cases htext : text.toList with
  | nil => exact hne (String.toList_eq_nil_iff.mp htext)
  | cons c cs =>
    rw [htext, List.cons_append, List.head?_cons] at hhead
    exact h (by rw [htext, ← Option.some.inj hhead]; exact List.mem_cons_self)

/-- By induction on the identifiers: the pieces of what is filled are the texts and the identifiers. -/
theorem pieces?_fill {texts names : List String} (h : texts.length = names.length + 1)
    (htexts : ∀ text ∈ texts, text ≠ "" ∧ d.quoteChar ∉ text.toList) :
    d.pieces? (d.fill texts names).toList = some (SqlPiece.weave texts names) := by
  induction names generalizing texts with
  | nil =>
    obtain ⟨text, rfl⟩ := List.length_eq_one_iff.mp h
    have hread := pieces?_append_of_notMem (htexts text List.mem_cons_self).2 []
    simpa [fill, SqlPiece.weave, pieces?] using hread
  | cons name names ih =>
    cases texts with
    | nil => cases h
    | cons text texts =>
      have hrest := ih (Nat.succ.inj h) fun t ht => htexts t (List.mem_cons_of_mem _ ht)
      -- the text behind the identifier begins with no quote
      have hhead : (d.fill texts names).toList.head? ≠ some d.quoteChar := by
        cases texts with
        | nil => cases h
        | cons text' texts =>
          obtain ⟨hne, hquote⟩ := htexts text' (by simp)
          obtain ⟨rest, hrest⟩ := exists_fill_eq_append d text' texts names
          rw [hrest, String.toList_append]
          exact head?_append_ne hne hquote _
      rw [fill, String.toList_append, String.toList_append, List.append_assoc,
        pieces?_append_of_notMem (htexts text List.mem_cons_self).2, pieces?_quote_append name hhead,
        hrest, SqlPiece.weave]
      rfl

/-! ### Statements -/

/-- The kinds and actions of operations with a statement. -/
def statementKinds : List (ObjectKind × Action) :=
  [(.table, .drop), (.column, .drop), (.column, .rename), (.index, .drop), (.foreignKey, .drop)]

/-- A statement is its fixed texts with the identifiers between them. -/
theorem exists_fill_of_statement? {op : Operation} {sql : String} (h : d.statement? op = some sql) :
    (op.kind, op.action) ∈ statementKinds ∧ ∃ names, d.identifiers op = names.map some ∧
      (d.fixedTexts op.kind op.action).length = names.length + 1 ∧
      sql = d.fill (d.fixedTexts op.kind op.action) names := by
  unfold statement? at h
  -- one case for each line of the statements
  split at h
  case h_1 hkind haction =>
    rw [hkind, haction, ← Option.some.inj h]
    refine ⟨by decide, [op.table], ?_, rfl, ?_⟩
    · simp [identifiers, hkind, haction]
    · simp [toString, fixedTexts, fill]
  case h_2 hkind haction =>
    obtain ⟨column, hcolumn, h⟩ := Option.bind_eq_some_iff.mp h
    rw [hkind, haction, ← Option.some.inj h]
    refine ⟨by decide, [op.table, column], ?_, rfl, ?_⟩
    · simp [identifiers, hkind, haction, hcolumn]
    · simp [toString, fixedTexts, fill, String.append_assoc]
  case h_3 hkind haction =>
    obtain ⟨source, hsource, h⟩ := Option.bind_eq_some_iff.mp h
    obtain ⟨target, htarget, h⟩ := Option.bind_eq_some_iff.mp h
    rw [hkind, haction, ← Option.some.inj h]
    refine ⟨by decide, [op.table, source, target], ?_, rfl, ?_⟩
    · simp [identifiers, hkind, haction, hsource, htarget]
    · simp [toString, fixedTexts, fill, String.append_assoc]
  case h_4 hkind haction =>
    obtain ⟨name, hname, h⟩ := Option.bind_eq_some_iff.mp h
    rw [hkind, haction, ← Option.some.inj h]
    refine ⟨by decide, ?_⟩
    cases d with
    | postgres => exact ⟨[name], by simp [identifiers, hkind, haction, hname], rfl,
        by simp [toString, fixedTexts, fill]⟩
    | mySql => exact ⟨[op.table, name], by simp [identifiers, hkind, haction, hname], rfl,
        by simp [toString, fixedTexts, fill, String.append_assoc]⟩
  case h_5 hkind haction =>
    obtain ⟨name, hname, h⟩ := Option.bind_eq_some_iff.mp h
    rw [hkind, haction, ← Option.some.inj h]
    refine ⟨by decide, [op.table, name], by simp [identifiers, hkind, haction, hname], ?_⟩
    cases d with
    | postgres => exact ⟨rfl, by simp [toString, fixedTexts, fill, String.append_assoc]⟩
    | mySql => exact ⟨rfl, by simp [toString, fixedTexts, fill, String.append_assoc]⟩
  case h_6 => cases h

theorem fixedTexts_plain (d : Dialect) {kind : ObjectKind} {action : Action}
    (h : (kind, action) ∈ statementKinds) :
    ∀ text ∈ d.fixedTexts kind action, text ≠ "" ∧ d.quoteChar ∉ text.toList := by
  have hall : ∀ p ∈ statementKinds, ∀ text ∈ d.fixedTexts p.1 p.2,
      text ≠ "" ∧ d.quoteChar ∉ text.toList := by
    cases d <;> decide +kernel
  exact hall (kind, action) h

/-- The fixed texts tell the kind and the action. -/
theorem eq_of_join_fixedTexts {p q : ObjectKind × Action} (hp : p ∈ statementKinds)
    (hq : q ∈ statementKinds)
    (h : String.join (d.fixedTexts p.1 p.2) = String.join (d.fixedTexts q.1 q.2)) : p = q := by
  have hall : ∀ p ∈ statementKinds, ∀ q ∈ statementKinds,
      String.join (d.fixedTexts p.1 p.2) = String.join (d.fixedTexts q.1 q.2) → p = q := by
    cases d <;> decide +kernel
  exact hall p hp q hq h

/-- The pieces of a statement are its fixed texts and the identifiers between them: no identifier ends
its quotes early. -/
theorem exists_pieces?_of_statement? {op : Operation} {sql : String}
    (h : d.statement? op = some sql) :
    ∃ names, d.identifiers op = names.map some ∧
      (d.fixedTexts op.kind op.action).length = names.length + 1 ∧
      d.pieces? sql.toList = some (SqlPiece.weave (d.fixedTexts op.kind op.action) names) := by
  obtain ⟨hkind, names, hnames, hlength, rfl⟩ := exists_fill_of_statement? h
  exact ⟨names, hnames, hlength, pieces?_fill hlength (d.fixedTexts_plain hkind)⟩

/-- In every dialect and for all strings: a quoted identifier is read back, up to its closing quote and
no further. What a reader finds in a statement is exactly its fixed texts with its identifiers between
them, so no identifier adds to the text outside of the quotes. Two operations with the same statement
have the same kind, the same action and the same identifiers in it. -/
theorem statement_unambiguous (d : Dialect) :
    (∀ (s : String) (rest : List Char), rest.head? ≠ some d.quoteChar →
      d.readQuoted ((d.quote s).toList ++ rest) = some (s.toList, rest)) ∧
    (∀ op sql, d.statement? op = some sql → ∃ names, d.identifiers op = names.map some ∧
      (d.fixedTexts op.kind op.action).length = names.length + 1 ∧
      d.pieces? sql.toList = some (SqlPiece.weave (d.fixedTexts op.kind op.action) names)) ∧
    ∀ op₁ op₂ sql, d.statement? op₁ = some sql → d.statement? op₂ = some sql →
      op₁.kind = op₂.kind ∧ op₁.action = op₂.action ∧ d.identifiers op₁ = d.identifiers op₂ := by
  refine ⟨fun s rest h => readQuoted_quote s h, fun op sql h => exists_pieces?_of_statement? h, ?_⟩
  intro op₁ op₂ sql h₁ h₂
  obtain ⟨names₁, hnames₁, hlength₁, hpieces₁⟩ := exists_pieces?_of_statement? h₁
  obtain ⟨names₂, hnames₂, hlength₂, hpieces₂⟩ := exists_pieces?_of_statement? h₂
  have hweave := Option.some.inj (hpieces₁.symm.trans hpieces₂)
  -- what stands outside of the quotes tells the kind and the action
  have hplain := congrArg (List.filterMap SqlPiece.plain?) hweave
  rw [SqlPiece.filterMap_plain?_weave hlength₁, SqlPiece.filterMap_plain?_weave hlength₂] at hplain
  have hkinds : (op₁.kind, op₁.action) = (op₂.kind, op₂.action) :=
    eq_of_join_fixedTexts (exists_fill_of_statement? h₁).1 (exists_fill_of_statement? h₂).1
      (String.toList_inj.mp hplain)
  obtain ⟨hkind, haction⟩ := Prod.mk.inj hkinds
  -- what stands in the quotes is the identifiers
  have hquoted := congrArg (List.filterMap SqlPiece.identifier?) hweave
  rw [SqlPiece.filterMap_identifier?_weave hlength₁,
    SqlPiece.filterMap_identifier?_weave hlength₂] at hquoted
  have hnames : names₁ = names₂ :=
    (List.map_inj_right fun _ _ => String.toList_inj.mp).mp hquoted
  exact ⟨hkind, haction, by rw [hnames₁, hnames₂, hnames]⟩

/-- An index whose name tries to end its quotes and to drop a table. -/
def injecting : Operation :=
  ⟨.index, .drop, .down, { table := "posts", name := some "a\"; DROP TABLE \"b" }, 1⟩

/-- The name stays within its quotes, and only indexes of this name have the same statement. -/
theorem statement_unambiguous_of_injecting :
    let sql := "DROP INDEX \"a\"\"; DROP TABLE \"\"b\";"
    postgres.statement? injecting = some sql ∧
      postgres.pieces? sql.toList =
        some (SqlPiece.weave ["DROP INDEX ", ";"] ["a\"; DROP TABLE \"b"]) ∧
      ∀ op, postgres.statement? op = some sql →
        op.kind = .index ∧ op.action = .drop ∧ op.details.name = injecting.details.name := by
  intro sql
  have hsql : postgres.statement? injecting = some sql := by decide +kernel
  obtain ⟨-, hpieces, hequal⟩ := statement_unambiguous postgres
  obtain ⟨names, hnames, -, hread⟩ := hpieces injecting sql hsql
  obtain rfl : names = ["a\"; DROP TABLE \"b"] := by
    have hname : [some "a\"; DROP TABLE \"b"] = names.map some := hnames
    exact (List.map_inj_right fun _ _ => Option.some.inj).mp hname.symm
  refine ⟨hsql, hread, fun op hop => ?_⟩
  obtain ⟨hkind, haction, hidentifiers⟩ := hequal op injecting sql hop hsql
  refine ⟨hkind, haction, ?_⟩
  have hprinted : postgres.identifiers op = [op.details.name] := by
    simp [identifiers, hkind, haction, injecting]
  exact List.singleton_inj.mp (hprinted.symm.trans hidentifiers)

end Dialect

end MigrationPreview
