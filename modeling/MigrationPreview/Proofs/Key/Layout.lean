import MigrationPreview.Proofs.Comment.Line
import MigrationPreview.Proofs.ForeignKey
import MigrationPreview.Proofs.Key.Call
import MigrationPreview.Proofs.Return.Chain

/-!
# Foreign keys on one line and on several

The chain of a foreign key may be broken into lines in front of any of its arrows. What the chain asks for is
not always what it would ask for on one line: its calls count from the line with the first call of
`references`, so whatever is called on an earlier line is lost. Where nothing is lost that the other calls do
not say, the foreign key is the one of the chain on one line.

## Main definitions

* `KeyStatement`: the chain of a foreign key with its line breaks
* `KeyStatement.kept`: the calls that count
* `keyDetails?`: what some calls ask for
* `KeyStatement.LosesNothing`: the calls that do not count make no difference

## Main results

* `KeyStatement.addsKey_lines_iff`: the foreign key of a chain in up to ten lines
* `KeyStatement.addsKey_lines`: when it is that of the chain on one line
-/

namespace MigrationPreview

open Text Canonical

/-! ### The columns of a foreign key -/

/-- The arguments of the call that begins a foreign key: a column or a list of columns, perhaps with further
words. -/
inductive KeyColumns where
  | plain (words : PlainWords)
  | list (before : Blanks) (items : PlainWords) (behind : Blanks) (others : List PlainWord)

namespace KeyColumns

/-- The text of the arguments. -/
def render : KeyColumns → List Char
  | plain words => words.render
  | list before items behind others =>
    before.val ++ '[' :: (items.render ++ ']' :: (behind.val ++ PlainWord.renderMore others))

/-- The argument that gives the columns. -/
def argument : KeyColumns → Call.Argument
  | plain words => .name words.first.name
  | list _ items _ _ => .list items.texts

/-- The columns. -/
def names (columns : KeyColumns) : List String := columns.argument.names

/-- Only words, blanks and brackets stand in the arguments. -/
theorem notMem_render {c : Char} (hc : isPlainChar c = false) (hbracket : c ≠ '[' ∧ c ≠ ']')
    (columns : KeyColumns) : c ∉ columns.render := by
  cases columns with
  | plain words => exact words.notMem_render hc
  | list before items behind others =>
    have hblank (blanks : Blanks) : c ∉ blanks.val := fun hmem => by
      simp [isPlainChar_of_isBlank (List.all_eq_true.mp blanks.2 c hmem)] at hc
    have hothers : c ∉ PlainWord.renderMore others := fun hmem => by
      simp [PlainWord.isPlainChar_of_mem_renderMore hmem] at hc
    simp [render, hblank before, hblank behind, hbracket, items.notMem_render hc, hothers]

end KeyColumns

theorem collectQuoted_blanks (blanks : Blanks) (cs : List Char) :
    Call.collectQuoted none (blanks.val ++ cs) = Call.collectQuoted none cs := by
  obtain ⟨blanks, hblanks⟩ := blanks
  induction blanks with
  | nil => rfl
  | cons c blanks ih =>
    rw [List.all_cons, Bool.and_eq_true] at hblanks
    have hquote : Call.isQuote c = false := by
      by_contra hquote
      simp [Call.isBlank_of_isQuote (by simpa using hquote)] at hblanks
    simpa [Call.collectQuoted, hquote] using ih hblanks.2

theorem PlainWord.collectQuoted_render (word : PlainWord) (rest : List Char) :
    Call.collectQuoted none (word.render ++ rest) =
      word.name :: Call.collectQuoted none rest := by
  have hne : word.name.toList ≠ [] := by simpa using word.isName.ne_empty
  have hname : ∀ c ∈ word.name.toList, (!Call.isQuote c) = true := by
    simpa using word.isName.isQuote_eq_false
  rw [render, List.append_assoc, collectQuoted_blanks, quoted, List.append_assoc, List.cons_append,
    List.append_assoc, List.singleton_append, collectQuoted_quote word.quote.2 hne hname,
    String.ofList_toList, collectQuoted_blanks]

/-- The words of a list are read back, from left to right. -/
theorem PlainWords.quotedItems_render (words : PlainWords) :
    Call.quotedItems words.render = words.texts := by
  have hmore : ∀ others : List PlainWord,
      Call.collectQuoted none (PlainWord.renderMore others) = others.map (·.name) := by
    intro others
    induction others with
    | nil => rfl
    | cons word others ih =>
      have hcomma (cs : List Char) : Call.collectQuoted none (',' :: cs) = Call.collectQuoted none cs :=
        rfl
      rw [PlainWord.renderMore, List.flatMap_cons, List.cons_append, hcomma,
        PlainWord.collectQuoted_render, List.map_cons, ← ih]
      rfl
  rw [Call.quotedItems, render, PlainWord.collectQuoted_render, hmore]
  rfl

/-- The columns are read from the arguments, whatever follows their parenthesis. -/
theorem KeyColumns.argument?_render (columns : KeyColumns) (rest : List Char) :
    Call.argument? (skipBlanks (columns.render ++ ')' :: rest)) = some columns.argument := by
  cases columns with
  | plain words =>
    -- a word begins with a quote, so it is not taken for a list
    have hlist (cs : List Char) : Call.readList (words.first.quoted ++ cs) = none := by
      have hbracket : words.first.quote.val ≠ '[' := fun heq =>
        absurd words.first.quote.2 (by rw [heq]; decide)
      rw [PlainWord.quoted, List.cons_append, Call.readList]
      exact fun inner heq => hbracket (List.cons.inj heq).1
    rw [render, PlainWords.render, List.append_assoc, PlainWord.skipBlanks_render_append,
      Call.argument?, Call.readArgument, hlist]
    dsimp only
    rw [PlainWord.readQuoted_quoted]
    rfl
  | list before items behind others =>
    have hbracket : ∀ c ∈ items.render, (c != ']') = true := fun c hc =>
      bne_iff_ne.mpr fun heq => items.notMem_render (c := ']') (by decide) (heq ▸ hc)
    have htext : render (list before items behind others) ++ ')' :: rest = before.val ++
        '[' :: (items.render ++ ']' :: (behind.val ++ PlainWord.renderMore others ++ ')' :: rest)) := by
      simp [render]
    obtain ⟨after, hread⟩ := readList_append_bracket items.render
      (behind.val ++ PlainWord.renderMore others ++ ')' :: rest)
    rw [htext, skipBlanks_append before.2, skipBlanks_cons_of_not_isBlank (by decide), Call.argument?,
      Call.readArgument, hread, List.takeWhile_eq_self_iff.mpr hbracket, items.quotedItems_render]
    rfl

/-! ### What calls ask for -/

/-- The first word of the first call of a method. -/
def firstWord (method : KeyMethod) (calls : List KeyCall) : Option String :=
  (calls.find? (·.method = method)).map (·.arguments.first.name)

/-- What the calls of a chain ask for, if one of them is `references`. Where `on` names the table,
`references` names the column; otherwise it names the table and perhaps the column. -/
def keyDetails? (table : String) (columns : List String) (calls : List KeyCall) : Option Details :=
  (calls.find? (·.method = .references)).map fun call =>
    { table := table
      columns := columns
      referencedTable := some ((firstWord .on calls).getD call.arguments.first.name)
      referencedColumn :=
        if (firstWord .on calls).isSome then some call.arguments.first.name
        else call.arguments.second?
      onUpdate := firstWord .onUpdate calls
      onDelete := firstWord .onDelete calls }

/-- The details that are read from a text are what its calls ask for. -/
theorem Carries.foreignKeyDetails?_eq {cs : List Char} {calls : List KeyCall} (h : Carries cs calls)
    (table : String) (columns : List String) :
    foreignKeyDetails? table columns cs = keyDetails? table columns calls := by
  have hargument (method : KeyMethod) :
      (Call.find? [method.name] Call.quoted? cs).map Prod.snd = firstWord method calls := by
    rw [h.find?_eq PlainWords.gives_quoted?, Option.map_map]
    rfl
  have hon : (Call.find? ["on"] Call.quoted? cs).map Prod.snd = firstWord .on calls := hargument .on
  have hupdate : (Call.find? ["onUpdate"] Call.quoted? cs).map Prod.snd = firstWord .onUpdate calls :=
    hargument .onUpdate
  have hdelete : (Call.find? ["onDelete"] Call.quoted? cs).map Prod.snd = firstWord .onDelete calls :=
    hargument .onDelete
  have hreferences : Call.find? ["references"] Call.oneOrTwoQuoted? cs = _ :=
    h.find?_eq PlainWords.gives_oneOrTwoQuoted? .references
  simp only [foreignKeyDetails?, keyDetails?, hreferences, hon, hupdate, hdelete]
  -- what `references` names depends on whether `on` is called
  cases calls.find? (·.method = .references) with
  | none => rfl
  | some call => cases firstWord .on calls <;> rfl

/-! ### Statements and their lines -/

/-- Some calls on one line, with the blanks in front of them and behind them. -/
structure KeyRow where
  indent : Blanks
  calls : List KeyCall
  behind : Blanks

theorem semicolon_notMem_blanks (blanks : Blanks) : ';' ∉ blanks.val := fun hmem =>
  absurd (List.all_eq_true.mp blanks.2 _ hmem) (by decide)

theorem semicolon_notMem_arrowCall {method : String} {arguments : List Char}
    (hmethod : ';' ∉ method.toList) (harguments : ';' ∉ arguments) :
    ';' ∉ arrowCall method arguments := by
  have harrow : ';' ∉ "->".toList := by decide
  refine List.not_mem_append harrow (List.not_mem_append hmethod ?_)
  exact List.not_mem_cons_of_ne_of_not_mem (by decide) (List.not_mem_append harguments (by decide))

namespace KeyRow

/-- The text behind the indentation. -/
def chain (row : KeyRow) : List Char := row.calls.flatMap KeyCall.render ++ row.behind.val

/-- The whole text. -/
def text (row : KeyRow) : List Char := row.indent.val ++ row.chain

/-- Whether `references` is called. -/
def hasReferences (row : KeyRow) : Bool := row.calls.any (·.method = .references)

theorem carries_chain (row : KeyRow) : Carries row.chain row.calls := by
  have hcalls : Carries (row.calls.flatMap KeyCall.render) (row.calls.flatMap fun call => [call]) :=
    carries_flatMap fun call _ => call.carries_render
  have hchain := hcalls.append (carries_blanks row.behind)
  rwa [List.append_nil, List.flatMap_singleton'] at hchain

theorem semicolon_notMem_chain (row : KeyRow) : ';' ∉ row.chain := by
  have hcalls : ∀ call ∈ row.calls, ';' ∉ call.render := fun call _ =>
    semicolon_notMem_arrowCall (by cases call.method <;> decide)
      (call.arguments.notMem_render (by decide))
  simpa [chain, semicolon_notMem_blanks] using hcalls

theorem carries_text (row : KeyRow) : Carries row.text row.calls :=
  (carries_blanks row.indent).append row.carries_chain

end KeyRow

/-- Lines of which the last one ends with a semicolon. -/
def closed : List Char → List (List Char) → List (List Char)
  | line, [] => [line ++ [';']]
  | line, next :: lines => line :: closed next lines

/-- The chain of a foreign key, broken in front of the calls of each row but the first. -/
structure KeyStatement where
  columns : KeyColumns
  first : KeyRow
  others : List KeyRow

namespace KeyStatement

/-- The table and the call that begins the foreign key. -/
def head (s : KeyStatement) : List Char :=
  BlockStatement.receiver ++ arrowCall "foreign" s.columns.render

/-- All rows. -/
def rows (s : KeyStatement) : List KeyRow := s.first :: s.others

/-- The lines of the statement. -/
def lines (s : KeyStatement) : List (List Char) :=
  closed (s.first.indent.val ++ (s.head ++ s.first.chain)) (s.others.map KeyRow.text)

/-- The calls behind the one that begins the foreign key. -/
def calls (s : KeyStatement) : List KeyCall := s.rows.flatMap KeyRow.calls

/-- The same statement on one line. -/
def unbroken (s : KeyStatement) : KeyStatement where
  columns := s.columns
  first := { indent := s.first.indent, calls := s.calls, behind := ⟨[], List.all_nil⟩ }
  others := []

/-- The calls from the first row with a call of `references`. -/
def kept (s : KeyStatement) : List KeyCall :=
  (s.rows.dropWhile (!·.hasReferences)).flatMap KeyRow.calls

/-- The first call of each method has the same first word among the calls that are kept as among all
calls. -/
def LosesNothing (s : KeyStatement) : Prop :=
  s.calls.any (·.method = .references) → ∀ method, firstWord method s.kept = firstWord method s.calls

/-! ### The lines of a statement -/

/-- Closing some lines only adds the semicolon to the last one. -/
theorem exists_closed_eq (line : List Char) (lines : List (List Char)) :
    ∃ front last, line :: lines = front ++ [last] ∧ closed line lines = front ++ [last ++ [';']] := by
  induction lines generalizing line with
  | nil => exact ⟨[], line, rfl, rfl⟩
  | cons next lines ih =>
    obtain ⟨front, last, hlines, hclosed⟩ := ih next
    exact ⟨line :: front, last, by rw [hlines, List.cons_append], by
      rw [closed, hclosed, List.cons_append]⟩

/-- What the lines hold, they hold with the semicolon behind the last one. -/
theorem forall₂_carries_closed {line : List Char} {calls : List KeyCall} {lines : List (List Char)}
    {callss : List (List KeyCall)} (hline : Carries line calls)
    (hlines : List.Forall₂ Carries lines callss) :
    List.Forall₂ Carries (closed line lines) (calls :: callss) := by
  induction hlines generalizing line calls with
  | nil =>
    have hclosed := hline.append (@carries_of_notMem [';'] (by decide) (by decide))
    rw [List.append_nil] at hclosed
    exact .cons hclosed .nil
  | cons hnext _ ih => exact .cons hline (ih hnext)

variable (s : KeyStatement)

/-- The statement holds the calls of its rows, line by line. -/
theorem forall₂_carries_lines : List.Forall₂ Carries s.lines (s.rows.map KeyRow.calls) := by
  have hreceiver : Carries BlockStatement.receiver [] := carries_of_notMem (by decide) (by decide)
  have hhead : Carries s.head [] := hreceiver.append
    (carries_foreign (s.columns.notMem_render (by decide) (by decide))
      (s.columns.notMem_render (by decide) (by decide)))
  have hfirst := (carries_blanks s.first.indent).append (hhead.append s.first.carries_chain)
  refine forall₂_carries_closed hfirst ?_
  rw [List.forall₂_map_left_iff, List.forall₂_map_right_iff]
  exact List.forall₂_same.mpr fun row _ => row.carries_text

/-- The only semicolon is the one behind the last line. -/
theorem isStatement_lines (h : s.lines.length ≤ 10) (rest : List (List Char)) :
    IsStatement (s.lines ++ rest) s.lines := by
  obtain ⟨front, last, htexts, hlines⟩ :=
    exists_closed_eq (s.first.indent.val ++ (s.head ++ s.first.chain)) (s.others.map KeyRow.text)
  change s.lines = front ++ [last ++ [';']] at hlines
  refine ⟨List.prefix_append _ _, h, fun line hline => ?_, .inl ⟨last ++ [';'], by simp [hlines], by simp⟩⟩
  -- every other line is written without a semicolon, the first one like those of the other rows
  rw [hlines, List.dropLast_concat] at hline
  have hmem : line ∈ front ++ [last] := List.mem_append_left _ hline
  rw [← htexts, List.mem_cons, List.mem_map] at hmem
  rcases hmem with rfl | ⟨row, -, rfl⟩
  · have hforeign : ';' ∉ arrowCall "foreign" s.columns.render :=
      semicolon_notMem_arrowCall (by decide) (s.columns.notMem_render (by decide) (by decide))
    have hreceiver : ';' ∉ BlockStatement.receiver := by decide
    have hhead : ';' ∉ s.head := List.not_mem_append hreceiver hforeign
    exact List.not_mem_append (semicolon_notMem_blanks _)
      (List.not_mem_append hhead s.first.semicolon_notMem_chain)
  · exact List.not_mem_append (semicolon_notMem_blanks _) row.semicolon_notMem_chain

/-- The text that is searched holds the calls that are kept. -/
theorem referencesChain?_bind (h : s.lines.length ≤ 10) (rest : List (List Char)) (table : String)
    (columns : List String) :
    (referencesChain? (s.lines ++ rest)).bind (foreignKeyDetails? table columns) =
      keyDetails? table columns s.kept := by
  -- the lines in front of the word are those of the rows in front of the call
  have hlines : List.Forall₂ (fun line row => Carries line row.calls)
      (s.lines.dropWhile (!Text.contains referencesWord ·)) (s.rows.dropWhile (!·.hasReferences)) :=
    forall₂_dropWhile (fun _ _ hline => by rw [hline.contains_eq]; rfl)
      (List.forall₂_map_right_iff.mp s.forall₂_carries_lines)
  have hspace : Carries [' '] [] := carries_of_notMem (by decide) (by decide)
  have hchain := carries_intercalate hspace (List.forall₂_map_right_iff.mpr hlines)
  rw [← List.flatMap_def] at hchain
  have hrest : referencesLines (s.lines ++ rest) = s.lines.dropWhile (!Text.contains referencesWord ·) := by
    rw [referencesLines, statementLines_eq_iff.mpr (s.isStatement_lines h rest)]
    rfl
  rw [referencesChain?_eq, hrest, kept]
  generalize s.lines.dropWhile _ = lines at hlines hchain ⊢
  generalize s.rows.dropWhile _ = rows at hlines hchain ⊢
  cases hlines with
  | nil => rfl
  | cons hline hlines => exact hchain.foreignKeyDetails?_eq table columns

/-- The first line of the statement begins a foreign key on its columns. -/
theorem find?_foreign (table : String) (rest : List (List Char)) :
    Call.find? ["foreign", "foreignId"] (fun cs => some (Call.argument? cs))
      (Line.ofWindow (some table) (s.lines ++ rest)).text =
      some ("foreign", some s.columns.argument) := by
  -- the semicolon stands on the first line only if there are no others, and it is not looked at
  obtain ⟨tail, htail⟩ :
      ∃ tail, (s.lines ++ rest).headD [] = s.first.indent.val ++ (s.head ++ tail) := by
    rw [lines]
    cases s.others.map KeyRow.text with
    | nil =>
      refine ⟨s.first.chain ++ [';'], ?_⟩
      rw [closed, List.singleton_append, List.headD_cons, List.append_assoc, List.append_assoc]
    | cons next more => exact ⟨s.first.chain, rfl⟩
  have hdash : '-' ∉ s.first.indent.val ++ BlockStatement.receiver := by
    rw [List.mem_append, not_or]
    exact ⟨fun hmem => absurd (List.all_eq_true.mp s.first.indent.2 _ hmem) (by decide), by decide⟩
  have hreader : IsCallReader (Call.readCall ["foreign", "foreignId"] fun cs => some (Call.argument? cs)) :=
    isCallReader_readCall (by decide) Call.local_some_argument?
  rw [Line.ofWindow, Call.find?, firstMatch_trim hreader, ← Call.find?, htail, head,
    List.append_assoc, ← List.append_assoc s.first.indent.val, find?_append_of_notMem hdash,
    find?_arrowCall_append (by decide) (s.columns.notMem_render (by decide) (by decide)),
    if_pos (by decide), s.columns.argument?_render]
  rfl

end KeyStatement

/-! ### The foreign key of a statement -/

/-- The first line of a window adds a foreign key in the block of a table. -/
def AddsKey (table : String) (window : List (List Char)) (draft : Draft) : Prop :=
  draft ∈ (Line.ofWindow (some table) window).drafts ∧ draft.kind = .foreignKey ∧ draft.action = .add

namespace KeyStatement

variable (s : KeyStatement)

/-- What a statement in up to ten lines adds is what the calls that are kept ask for. -/
theorem addsKey_lines_iff (h : s.lines.length ≤ 10) (table : String) (rest : List (List Char))
    (draft : Draft) :
    AddsKey table (s.lines ++ rest) draft ↔
      ∃ details, keyDetails? table s.columns.names s.kept = some details ∧
        draft = ⟨.foreignKey, .add, details⟩ := by
  have hwindow : (Line.ofWindow (some table) (s.lines ++ rest)).window = s.lines ++ rest := rfl
  rw [AddsKey, Line.mem_drafts_and_iff rfl, Line.foreignKeyAdd?_eq_some_iff (s.find?_foreign table rest),
    hwindow, ← s.referencesChain?_bind h rest table]
  simp only [← referencesChain?_eq_some_iff, Option.bind_eq_some_iff]
  constructor
  · rintro ⟨chain, details, hchain, hdetails, hdraft⟩
    exact ⟨details, ⟨chain, hchain, hdetails⟩, hdraft⟩
  · rintro ⟨details, ⟨chain, hchain, hdetails⟩, hdraft⟩
    exact ⟨chain, details, hchain, hdetails, hdraft⟩

/-- The first call of `references` is one of the calls that are kept. -/
theorem find?_references_kept :
    s.kept.find? (·.method = .references) = s.calls.find? (·.method = .references) := by
  have hsplit : s.calls = (s.rows.takeWhile (!·.hasReferences)).flatMap KeyRow.calls ++ s.kept := by
    rw [kept, ← List.flatMap_append, List.takeWhile_append_dropWhile, calls]
  -- no row in front of those that are kept has such a call
  have hlost : ((s.rows.takeWhile (!·.hasReferences)).flatMap KeyRow.calls).find?
      (·.method = .references) = none := by
    refine List.find?_eq_none.mpr fun call hcall hmethod => ?_
    obtain ⟨row, hrow, hmem⟩ := List.mem_flatMap.mp hcall
    have hlacks : row.hasReferences = false := by simpa using List.mem_takeWhile_imp hrow
    have hhas : row.hasReferences = true := List.any_eq_true.mpr ⟨call, hmem, hmethod⟩
    rw [hlacks] at hhas
    exact absurd hhas (by decide)
  rw [hsplit, List.find?_append, hlost, Option.none_or]

/-- Where nothing is lost, the calls that are kept ask for what all calls ask for. -/
theorem keyDetails?_kept (h : s.LosesNothing) (table : String) (columns : List String) :
    keyDetails? table columns s.kept = keyDetails? table columns s.calls := by
  rw [keyDetails?, keyDetails?, s.find?_references_kept]
  cases hfind : s.calls.find? (·.method = .references) with
  | none => rfl
  | some call =>
    have hmethod : decide (call.method = .references) = true :=
      @List.find?_some _ (fun call : KeyCall => decide (call.method = .references)) _ _ hfind
    have hreferences : s.calls.any (·.method = .references) :=
      List.any_eq_true.mpr ⟨call, List.mem_of_find?_eq_some hfind, hmethod⟩
    simp only [h hreferences]

@[simp] theorem calls_unbroken : s.unbroken.calls = s.calls := by
  simp [calls, unbroken, rows]

/-- On one line nothing is lost. -/
theorem losesNothing_unbroken : s.unbroken.LosesNothing := by
  intro hreferences method
  -- there is only one row, and it is kept as soon as it has a call of `references`
  have hrow : s.unbroken.first.hasReferences = true := by
    rwa [calls_unbroken] at hreferences
  have hkept : s.unbroken.kept = s.unbroken.calls := by
    rw [kept, rows, List.dropWhile_cons_of_neg (by simp [hrow])]
    rfl
  rw [hkept]

/-- The foreign key of a statement in up to ten lines is what the calls from the line of the first call of
`references` ask for, and on one line it is what all calls ask for. It is the same one if nothing is
lost. -/
theorem addsKey_lines (s : KeyStatement) (h : s.lines.length ≤ 10) (table : String)
    (rest rest' : List (List Char)) (draft : Draft) :
    (AddsKey table (s.lines ++ rest) draft ↔
      ∃ details, keyDetails? table s.columns.names s.kept = some details ∧
        draft = ⟨.foreignKey, .add, details⟩) ∧
    (AddsKey table (s.unbroken.lines ++ rest') draft ↔
      ∃ details, keyDetails? table s.columns.names s.calls = some details ∧
        draft = ⟨.foreignKey, .add, details⟩) ∧
    (s.LosesNothing →
      (AddsKey table (s.lines ++ rest) draft ↔ AddsKey table (s.unbroken.lines ++ rest') draft)) := by
  have hbroken := s.addsKey_lines_iff h table rest draft
  -- one line is a special case: all calls are kept there
  have hunbroken : AddsKey table (s.unbroken.lines ++ rest') draft ↔
      ∃ details, keyDetails? table s.columns.names s.calls = some details ∧
        draft = ⟨.foreignKey, .add, details⟩ := by
    rw [← s.calls_unbroken, ← s.unbroken.keyDetails?_kept s.losesNothing_unbroken]
    exact s.unbroken.addsKey_lines_iff (Nat.le_of_ble_eq_true rfl) table rest' draft
  refine ⟨hbroken, hunbroken, fun hloses => ?_⟩
  rw [hbroken, hunbroken, s.keyDetails?_kept hloses]

/-- A word without blanks. -/
def wordOf (name : String) (hname : IsName name ∧ name.toList.all isPlainChar) : PlainWord where
  before := ⟨[], List.all_nil⟩
  quote := ⟨'\x27', by decide⟩
  name := name
  isName := hname.1
  isPlain := hname.2
  behind := ⟨[], List.all_nil⟩

/-- The column of the key. -/
def userId : PlainWords := ⟨wordOf "user_id" ⟨⟨by decide, by decide⟩, by decide⟩, []⟩

/-- The calls that refer to the column `id` of `users`. -/
def referencesId : KeyCall := ⟨.references, wordOf "id" ⟨⟨by decide, by decide⟩, by decide⟩, []⟩

@[inherit_doc referencesId]
def onUsers : KeyCall := ⟨.on, wordOf "users" ⟨⟨by decide, by decide⟩, by decide⟩, []⟩

/-- A row of calls without blanks at its end. -/
def indented (calls : List KeyCall) : KeyRow := ⟨⟨"    ".toList, by decide⟩, calls, ⟨[], List.all_nil⟩⟩

/-- The key on `user_id` with its table named behind its column. -/
def columnFirst : KeyStatement where
  columns := .plain userId
  first := indented []
  others := [indented [referencesId], indented [onUsers]]

/-- The key on `user_id` with its table named on the line in front of that of its column. -/
def tableFirst : KeyStatement where
  columns := .plain userId
  first := indented [onUsers]
  others := [indented [referencesId]]

/-- The key of `columnFirst` is the same on three lines and on one. -/
theorem addsKey_columnFirst :
    columnFirst.lines = ["    $table->foreign('user_id')".toList, "    ->references('id')".toList,
      "    ->on('users');".toList] ∧
    columnFirst.lines.length ≤ 10 ∧ columnFirst.LosesNothing ∧
    ∀ draft, AddsKey "posts" columnFirst.lines draft ↔ AddsKey "posts" columnFirst.unbroken.lines draft := by
  have hlength : columnFirst.lines.length ≤ 10 := by decide
  have hloses : columnFirst.LosesNothing := fun _ method => by cases method <;> rfl
  refine ⟨by decide, hlength, hloses, fun draft => ?_⟩
  have hadds := (addsKey_lines columnFirst hlength "posts" [] [] draft).2.2 hloses
  rwa [List.append_nil, List.append_nil] at hadds

/-- The key of `tableFirst` refers to `users` on one line. On two lines its table is lost, and the name of the
column is taken for that of the table. -/
theorem addsKey_tableFirst :
    tableFirst.lines = ["    $table->foreign('user_id')->on('users')".toList,
      "    ->references('id');".toList] ∧
    AddsKey "posts" tableFirst.unbroken.lines ⟨.foreignKey, .add,
      { table := "posts", columns := ["user_id"], referencedTable := some "users",
        referencedColumn := some "id" }⟩ ∧
    ∀ draft, AddsKey "posts" tableFirst.lines draft ↔ draft = ⟨.foreignKey, .add,
      { table := "posts", columns := ["user_id"], referencedTable := some "id" }⟩ := by
  have hlength : tableFirst.lines.length ≤ 10 := by decide
  have hone := tableFirst.unbroken.addsKey_lines_iff (by decide) "posts" []
  have htwo := tableFirst.addsKey_lines_iff hlength "posts" []
  rw [List.append_nil] at hone htwo
  refine ⟨by decide, (hone _).mpr ⟨_, rfl, rfl⟩, fun draft => (htwo draft).trans ?_⟩
  constructor
  · rintro ⟨details, hdetails, rfl⟩
    obtain rfl := Option.some_inj.mp hdetails
    rfl
  · rintro rfl
    exact ⟨_, rfl, rfl⟩

end KeyStatement

end MigrationPreview
