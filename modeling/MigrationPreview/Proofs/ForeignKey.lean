import MigrationPreview.Proofs.Details
import MigrationPreview.Proofs.FirstCall

/-!
# Foreign keys are completed within their statement

A call that begins a foreign key says nothing about what the key refers to. The calls that complete it may
stand on the lines behind it, but only within the same statement, which ends with the first semicolon, and
within ten lines. A call of the next statement never completes a foreign key, and neither does one on the
eleventh line.

## Main definitions

* `IsStatement`: the lines of the statement at the front of a window
* `IsReferencesChain`: the text in which the calls that complete a foreign key are looked for
* `Line.ofWindow`: the first line of a window, as it is read
* `Line.CompletesForeignKey`: when and how a window completes the foreign key of its first line

## Main results

* `IsStatement.unique`, `isStatement_statementLines`: the statement at the front of a window
* `IsStatement.congr`: windows that agree up to the end of the statement have the same statement
* `Line.completesForeignKey_of_find?`: the look-ahead is exact
-/

namespace MigrationPreview

open Text

variable {window window' lines lines' : List (List Char)} {chain : List Char} {n : Nat}

/-! ### Statements -/

/-- Lines are the statement at the front of a window: no line but the last has a semicolon, and they end
with a semicolon, with the tenth line or with the window. -/
structure IsStatement (window lines : List (List Char)) : Prop where
  isPrefix : lines <+: window
  length_le : lines.length ≤ 10
  notMem_dropLast : ∀ line ∈ lines.dropLast, ';' ∉ line
  ends : (∃ line ∈ lines, ';' ∈ line) ∨ lines.length = 10 ∨ lines = window

theorem isPrefix_dropLast (h : lines <+: lines') (hlt : lines.length < lines'.length) :
    lines <+: lines'.dropLast := by
  rcases List.eq_nil_or_concat lines' with rfl | ⟨front, last, rfl⟩
  · simp at hlt
  · rw [List.concat_eq_append] at h hlt ⊢
    rw [List.dropLast_concat]
    exact (List.prefix_concat_iff.mp h).resolve_left fun heq => hlt.ne (congrArg List.length heq)

/-- No line of a proper part of a statement has a semicolon. -/
theorem IsStatement.notMem_of_isPrefix (h : IsStatement window lines) (hpart : lines' <+: window)
    (hlt : lines'.length < lines.length) : ∀ line ∈ lines', ';' ∉ line := fun line hline =>
  have hbegins := List.prefix_of_prefix_length_le hpart h.isPrefix hlt.le
  h.notMem_dropLast line ((isPrefix_dropLast hbegins hlt).subset hline)

/-- A statement does not end within another one. -/
theorem IsStatement.length_le_length (h : IsStatement window lines)
    (h' : IsStatement window lines') : lines'.length ≤ lines.length := by
  by_contra hlt
  -- the shorter one would be a proper part of the longer one, and so would not have ended
  have hopen := h'.notMem_of_isPrefix h.isPrefix (not_le.mp hlt)
  rcases h.ends with ⟨last, hlast, hmem⟩ | hten | rfl
  · exact hopen last hlast hmem
  · exact absurd h'.length_le (by omega)
  · exact hlt h'.isPrefix.length_le

theorem IsStatement.unique (h : IsStatement window lines) (h' : IsStatement window lines') :
    lines = lines' :=
  List.prefix_of_prefix_length_le h.isPrefix h'.isPrefix (h'.length_le_length h)
    |>.eq_of_length (le_antisymm (h'.length_le_length h) (h.length_le_length h'))

/-- Windows that agree up to the end of the statement of one of them, or in ten lines, begin with the same
statement. -/
theorem IsStatement.congr (h : IsStatement window lines) (hagree : window.take n = window'.take n)
    (hn : 10 ≤ n ∨ ∃ line ∈ window.take n, ';' ∈ line) : IsStatement window' lines := by
  have hle : lines.length ≤ n := by
    rcases hn with hn | ⟨line, hline, hmem⟩
    · exact h.length_le.trans hn
    · by_contra hlt
      have hpart : (window.take n).length < lines.length :=
        (List.length_take_le _ _).trans_lt (not_le.mp hlt)
      exact h.notMem_of_isPrefix (List.take_prefix _ _) hpart line hline hmem
  have hlines : lines <+: window.take n := List.prefix_take_iff.mpr ⟨h.isPrefix, hle⟩
  refine ⟨hlines.trans (hagree ▸ List.take_prefix _ _), h.length_le, h.notMem_dropLast, ?_⟩
  rcases h.ends with hlast | hten | rfl
  · exact .inl hlast
  · exact .inr (.inl hten)
  · -- the window ends with the statement, and so does the other one, unless the statement is complete
    have hwhole : lines.take n = lines := List.take_of_length_le hle
    rw [hwhole] at hagree hn
    rcases hle.lt_or_eq with hlt | heq
    · have hshort : window'.length < n := by
        have hlength := congrArg List.length hagree
        rw [List.length_take] at hlength
        omega
      exact .inr (.inr (by rw [hagree, List.take_of_length_le hshort.le]))
    · rcases hn with hn | ⟨line, hline, hmem⟩
      · exact .inr (.inl (le_antisymm h.length_le (heq ▸ hn)))
      · exact .inl ⟨line, hline, hmem⟩

/-- What is left behind the first elements with a property begins with the first one without it. -/
theorem dropWhile_eq_cons_iff {α : Type} {p : α → Bool} {xs rest : List α} {x : α} :
    xs.dropWhile p = x :: rest ↔
      ∃ before, xs = before ++ x :: rest ∧ (∀ y ∈ before, p y = true) ∧ p x = false := by
  constructor
  · intro h
    have hx := List.head?_dropWhile_not p xs
    rw [h] at hx
    refine ⟨xs.takeWhile p, ?_, fun y => List.mem_takeWhile_imp, by simpa using hx⟩
    rw [← h, List.takeWhile_append_dropWhile]
  · rintro ⟨before, rfl, hbefore, hx⟩
    rw [List.dropWhile_append_of_pos hbefore, List.dropWhile_cons_of_neg (by simp [hx])]

/-- The statement of the first lines ends with the first semicolon, if they have one. -/
theorem statementLines_cases (window : List (List Char)) :
    (statementLines window = window.take 10 ∧ ∀ line ∈ window.take 10, ';' ∉ line) ∨
    ∃ before last after, window.take 10 = before ++ last :: after ∧
      statementLines window = before ++ [last] ∧ (∀ line ∈ before, ';' ∉ line) ∧ ';' ∈ last := by
  have hlines : statementLines window =
      (window.take 10).take (((window.take 10).takeWhile (!·.contains ';')).length + 1) := rfl
  cases hrest : (window.take 10).dropWhile (!·.contains ';') with
  | nil =>
    have hall : ∀ line ∈ window.take 10, (!line.contains ';') = true :=
      List.dropWhile_eq_nil_iff.mp hrest
    rw [List.takeWhile_eq_self_iff.mpr hall, List.take_of_length_le (Nat.le_succ _)] at hlines
    exact .inl ⟨hlines, by simpa using hall⟩
  | cons last after =>
    obtain ⟨before, htake, hbefore, hlast⟩ := dropWhile_eq_cons_iff.mp hrest
    rw [htake, List.takeWhile_append_of_pos hbefore, List.takeWhile_cons_of_neg (by simpa using hlast),
      List.append_nil, List.take_length_add_append] at hlines
    exact .inr ⟨before, last, after, htake, hlines, by simpa using hbefore, by simpa using hlast⟩

/-- The lines in which a foreign key has to be completed are those of its statement. -/
theorem isStatement_statementLines (window : List (List Char)) :
    IsStatement window (statementLines window) := by
  have hlimit : window.take 10 <+: window := List.take_prefix _ _
  have hlength : (window.take 10).length ≤ 10 := List.length_take_le _ _
  rcases statementLines_cases window with
    ⟨hlines, hopen⟩ | ⟨before, last, after, htake, hlines, hopen, hlast⟩
  · rw [hlines]
    refine ⟨hlimit, hlength, fun line hline => hopen line (List.mem_of_mem_dropLast hline), .inr ?_⟩
    rw [List.length_take]
    rcases le_total 10 window.length with hle | hle
    · exact .inl (min_eq_left hle)
    · exact .inr (List.take_of_length_le hle)
  · have hpart : before ++ [last] <+: window.take 10 := ⟨after, by simp [htake]⟩
    rw [hlines]
    refine ⟨hpart.trans hlimit, hpart.length_le.trans hlength, ?_, .inl ⟨last, by simp, hlast⟩⟩
    rw [List.dropLast_concat]
    exact hopen

theorem statementLines_eq_iff : statementLines window = lines ↔ IsStatement window lines :=
  ⟨fun h => h ▸ isStatement_statementLines window, (isStatement_statementLines window).unique⟩

/-! ### The text of the calls that complete a foreign key -/

/-- The text in which the calls that complete a foreign key are looked for: the lines of the statement from
the first one with a call of `references`, which is one of ten lines and stands behind no semicolon. -/
def IsReferencesChain (window : List (List Char)) (chain : List Char) : Prop :=
  ∃ before first behind, window = before ++ first :: behind ∧ before.length < 10 ∧
    "references(".toList <:+: first ∧
    (∀ line ∈ before, ';' ∉ line ∧ ¬ "references(".toList <:+: line) ∧
    ∃ lines, IsStatement window lines ∧ chain = [' '].intercalate (lines.drop before.length)

/-- The text that is searched begins with the first line of the statement that holds the word. -/
theorem referencesChain?_eq_some_iff_exists :
    referencesChain? window = some chain ↔
      ∃ before first more, statementLines window = before ++ first :: more ∧
        (∀ line ∈ before, ¬ "references(".toList <:+: line) ∧ "references(".toList <:+: first ∧
        chain = [' '].intercalate (first :: more) := by
  have hchain : referencesChain? window = some chain ↔ ∃ first more,
      (statementLines window).dropWhile (!Text.contains "references(".toList ·) = first :: more ∧
        chain = [' '].intercalate (first :: more) := by
    unfold referencesChain?
    cases (statementLines window).dropWhile (!Text.contains "references(".toList ·) <;> simp [eq_comm]
  have hlacks : ∀ line : List Char,
      (!Text.contains "references(".toList line) = true ↔ ¬ "references(".toList <:+: line := by
    intro line
    rw [← contains_iff_isInfix, Bool.not_eq_true', Bool.not_eq_true]
  rw [hchain]
  constructor
  · rintro ⟨first, more, hrest, hchain⟩
    obtain ⟨before, hlines, hbefore, hfirst⟩ := dropWhile_eq_cons_iff.mp hrest
    refine ⟨before, first, more, hlines, fun line hline => (hlacks line).mp (hbefore line hline), ?_,
      hchain⟩
    rw [← contains_iff_isInfix]
    simpa using hfirst
  · rintro ⟨before, first, more, hlines, hbefore, hfirst, hchain⟩
    refine ⟨first, more, dropWhile_eq_cons_iff.mpr ⟨before, hlines, fun line hline =>
      (hlacks line).mpr (hbefore line hline), ?_⟩, hchain⟩
    rw [contains_of_isInfix hfirst, Bool.not_true]

/-- Where a line of the window is one of the statement, the statement goes on with it. -/
theorem IsStatement.exists_eq_append {before behind : List (List Char)} {first : List Char}
    (h : IsStatement window lines) (hwindow : window = before ++ first :: behind)
    (hlength : before.length < 10) (hopen : ∀ line ∈ before, ';' ∉ line) :
    ∃ more, lines = before ++ first :: more := by
  have hpart : before <+: window := hwindow ▸ List.prefix_append _ _
  -- the statement does not end within `before`, which has neither a semicolon nor ten lines
  have hlt : before.length < lines.length := by
    by_contra hle
    have hwithin : lines <+: before :=
      List.prefix_of_prefix_length_le h.isPrefix hpart (not_lt.mp hle)
    rcases h.ends with ⟨line, hline, hmem⟩ | hten | rfl
    · exact hopen line (hwithin.subset hline) hmem
    · omega
    · simp [hwindow] at hle
  obtain ⟨more, rfl⟩ := List.prefix_of_prefix_length_le hpart h.isPrefix hlt.le
  obtain ⟨c, more, rfl⟩ := List.exists_cons_of_ne_nil (l := more) (by rintro rfl; simp at hlt)
  have hbegins := h.isPrefix
  rw [hwindow, List.prefix_append_right_inj] at hbegins
  obtain ⟨rfl, -⟩ := List.cons_prefix_cons.mp hbegins
  exact ⟨more, rfl⟩

/-- The text that is searched is the one in which the calls are to be looked for. -/
theorem referencesChain?_eq_some_iff :
    referencesChain? window = some chain ↔ IsReferencesChain window chain := by
  rw [referencesChain?_eq_some_iff_exists]
  constructor
  · rintro ⟨before, first, more, hlines, hlacks, hfirst, rfl⟩
    have h := isStatement_statementLines window
    rw [hlines] at h
    obtain ⟨tail, hwindow⟩ := h.isPrefix
    have hpart : before <+: window := (List.prefix_append _ _).trans h.isPrefix
    have hlength := h.length_le
    rw [List.length_append, List.length_cons] at hlength
    refine ⟨before, first, more ++ tail, by simp [← hwindow], by omega, hfirst, fun line hline =>
      ⟨h.notMem_of_isPrefix hpart (by simp) line hline, hlacks line hline⟩, _, h, ?_⟩
    rw [List.drop_left]
  · rintro ⟨before, first, behind, hwindow, hlength, hfirst, hbefore, lines, h, rfl⟩
    obtain ⟨more, rfl⟩ := h.exists_eq_append hwindow hlength fun line hline => (hbefore line hline).1
    exact ⟨before, first, more, statementLines_eq_iff.mpr h, fun line hline =>
      (hbefore line hline).2, hfirst, by rw [List.drop_left]⟩

/-! ### The details that complete a foreign key -/

/-- What a call gives whose name may be followed by a comma and a second name. -/
def oneOrTwoNames : String × List Char → String × Option String
  | (name, rest) => (name, (Call.readNext rest).map Prod.fst)

/-- The details that the calls in a chain give a foreign key, from the leftmost call of each method. Where
`on` names the table, `references` names the column; otherwise it names the table and perhaps the
column. -/
def IsReadFrom (table : String) (columns : List String) (chain : List Char) (details : Details) :
    Prop :=
  ∃ first second, ∃ on onUpdate onDelete : Option String,
    IsLeftmost (Call.Gives oneOrTwoNames "references") (first, second) chain ∧
    (∀ name, on = some name ↔ IsLeftmost (Call.Gives Prod.fst "on") name chain) ∧
    (∀ rule, onUpdate = some rule ↔ IsLeftmost (Call.Gives Prod.fst "onUpdate") rule chain) ∧
    (∀ rule, onDelete = some rule ↔ IsLeftmost (Call.Gives Prod.fst "onDelete") rule chain) ∧
    details =
      { table := table
        columns := columns
        referencedTable := some (on.getD first)
        referencedColumn := if on.isSome then some first else second
        onUpdate := onUpdate
        onDelete := onDelete }

theorem oneOrTwoQuoted?_eq_map :
    Call.oneOrTwoQuoted? = fun cs => (Call.readQuoted cs).map oneOrTwoNames := by
  funext cs
  rw [Call.oneOrTwoQuoted?]
  cases Call.readQuoted cs <;> rfl

theorem map_snd_find?_quoted?_eq_some_iff {method name : String}
    (hmethod : ∀ c ∈ method.toList, (!isBlank c && c != '(') = true) :
    (Call.find? [method] Call.quoted? chain).map Prod.snd = some name ↔
      IsLeftmost (Call.Gives Prod.fst method) name chain := by
  have hfind (called : String) : Call.find? [method] Call.quoted? chain = some (called, name) ↔ _ :=
    Call.find?_eq_some_iff_isLeftmost Prod.fst hmethod
  simp [Option.map_eq_some_iff, hfind]

theorem foreignKeyDetails?_eq_some_iff {table : String} {columns : List String} {details : Details} :
    foreignKeyDetails? table columns chain = some details ↔
      IsReadFrom table columns chain details := by
  have hnamed {method : String} (hmethod : ∀ c ∈ method.toList, (!isBlank c && c != '(') = true)
      {found : Option String} (hfound : ∀ name, found = some name ↔
        IsLeftmost (Call.Gives Prod.fst method) name chain) :
      (Call.find? [method] Call.quoted? chain).map Prod.snd = found :=
    Option.ext fun name => (map_snd_find?_quoted?_eq_some_iff hmethod).trans (hfound name).symm
  constructor
  · intro h
    obtain ⟨⟨method, first, second⟩, hfind, h⟩ := Option.bind_eq_some_iff.mp h
    obtain rfl := Option.some_inj.mp h
    rw [oneOrTwoQuoted?_eq_map] at hfind
    refine ⟨first, second, (Call.find? ["on"] Call.quoted? chain).map Prod.snd, _, _,
      ((Call.find?_eq_some_iff_isLeftmost _ (by decide)).mp hfind).2,
      fun _ => map_snd_find?_quoted?_eq_some_iff (by decide),
      fun _ => map_snd_find?_quoted?_eq_some_iff (by decide),
      fun _ => map_snd_find?_quoted?_eq_some_iff (by decide), ?_⟩
    dsimp only
    cases (Call.find? ["on"] Call.quoted? chain).map Prod.snd <;> rfl
  · rintro ⟨first, second, on, onUpdate, onDelete, hfirst, hon, hupdate, hdelete, rfl⟩
    have hfind : Call.find? ["references"] Call.oneOrTwoQuoted? chain =
        some ("references", first, second) := by
      rw [oneOrTwoQuoted?_eq_map]
      exact (Call.find?_eq_some_iff_isLeftmost _ (by decide)).mpr ⟨rfl, hfirst⟩
    rw [foreignKeyDetails?, hfind, Option.bind_eq_bind, Option.bind_some]
    simp only [hnamed (by decide) hon, hnamed (by decide) hupdate, hnamed (by decide) hdelete]
    cases on <;> rfl

/-- A chain completes a foreign key exactly if a call of `references` with a name stands somewhere in it. -/
theorem isSome_foreignKeyDetails?_iff {table : String} {columns : List String} :
    (foreignKeyDetails? table columns chain).isSome ↔
      ∃ start name rest, start <:+ chain ∧ Call.Begins "->".toList "references" name rest start := by
  have hmethod : ∀ c ∈ "references".toList, (!isBlank c && c != '(') = true := by decide
  rw [← Call.isSome_find?_iff oneOrTwoNames hmethod, ← oneOrTwoQuoted?_eq_map, foreignKeyDetails?]
  cases Call.find? ["references"] Call.oneOrTwoQuoted? chain <;> simp

/-! ### Lines -/

namespace Line

variable {line : Line} {draft : Draft} {table method : String} {argument : Option Call.Argument}

/-- The line at the front of a window, as it is read in the block of `table`; the window is the line with
all lines of the body behind it. -/
def ofWindow (table : Option String) (window : List (List Char)) : Line :=
  ⟨trim (window.headD []), table, window⟩

/-- What is said about foreign keys that are added is said about one of the shapes of call. -/
theorem mem_drafts_and_iff (htable : line.table = some table) :
    draft ∈ line.drafts ∧ draft.kind = .foreignKey ∧ draft.action = .add ↔
      foreignKeyAdd? table line.text line.window = some draft := by
  constructor
  · rintro ⟨hdraft, hkind, haction⟩
    cases asksFor_of_mem_drafts hdraft with
    | @foreignKeyAdd name method argument chain details context call completed referenced =>
      obtain rfl : table = name := Option.some_inj.mp (htable.symm.trans context)
      cases argument <;> simp_all [foreignKeyAdd?]
    | foreignKeyDrop => simp at haction
    | setting kind _ hsetting =>
      obtain rfl : kind = .foreignKey := hkind
      simp at hsetting
    | _ => simp at hkind
  · intro h
    have hdraft : draft ∈ line.drafts := by
      rw [drafts, htable]
      simp [draftsIn, h]
    obtain ⟨_, -, h⟩ := Option.bind_eq_some_iff.mp h
    obtain ⟨_, -, h⟩ := Option.bind_eq_some_iff.mp h
    obtain ⟨_, -, h⟩ := Option.bind_eq_some_iff.mp h
    obtain rfl := Option.some_inj.mp h
    exact ⟨hdraft, rfl, rfl⟩

/-- A line that begins a foreign key adds it with the details that its window gives. -/
theorem foreignKeyAdd?_eq_some_iff
    (h : Call.find? ["foreign", "foreignId"] (fun cs => some (Call.argument? cs)) line.text =
      some (method, argument)) :
    foreignKeyAdd? table line.text line.window = some draft ↔
      ∃ chain details, IsReferencesChain line.window chain ∧
        foreignKeyDetails? table (argument.elim [] Call.Argument.names) chain = some details ∧
        draft = ⟨.foreignKey, .add, details⟩ := by
  rw [foreignKeyAdd?, h]
  simp only [← referencesChain?_eq_some_iff, eq_comm (a := draft)]
  cases argument <;> simp [Option.bind_eq_some_iff]

/-- What a line asks for depends on the lines behind it only up to the end of its statement. -/
theorem drafts_ofWindow_congr (context : Option String) (hagree : window.take n = window'.take n)
    (hn : 10 ≤ n ∨ ∃ line ∈ window.take n, ';' ∈ line) :
    (ofWindow context window).drafts = (ofWindow context window').drafts := by
  have hlines : statementLines window = statementLines window' :=
    (statementLines_eq_iff.mpr ((isStatement_statementLines window).congr hagree hn)).symm
  have hpos : n ≠ 0 := by
    rintro rfl
    simp at hn
  have hhead : window.headD [] = window'.headD [] := by
    have hfirst := congrArg List.head? hagree
    rw [List.head?_take, List.head?_take, if_neg hpos, if_neg hpos] at hfirst
    rw [List.headD_eq_head?_getD, List.headD_eq_head?_getD, hfirst]
  have hchain : referencesChain? window = referencesChain? window' := by
    rw [referencesChain?, referencesChain?, hlines]
  have hkey (table : String) (text : List Char) :
      foreignKeyAdd? table text window = foreignKeyAdd? table text window' := by
    rw [foreignKeyAdd?, foreignKeyAdd?, hchain]
  -- no other shape of call looks at the lines behind its own
  have hdrafts (text : List Char) :
      drafts ⟨text, context, window⟩ = drafts ⟨text, context, window'⟩ := by
    simp only [drafts, draftsIn, hkey]
  rw [ofWindow, ofWindow, hhead, hdrafts]

/-- When and how a window completes the foreign key that its first line begins. -/
structure CompletesForeignKey (table : String) (columns : List String)
    (window : List (List Char)) : Prop where
  /-- The foreign key is added exactly if the rest of its statement holds a call of `references`. -/
  exists_draft_iff :
    (∃ draft ∈ (ofWindow (some table) window).drafts,
      draft.kind = .foreignKey ∧ draft.action = .add) ↔
    ∃ chain, IsReferencesChain window chain ∧ ∃ start name rest, start <:+ chain ∧
      Call.Begins "->".toList "references" name rest start
  /-- Its details are read from the rest of its statement. -/
  isReadFrom : ∀ draft ∈ (ofWindow (some table) window).drafts,
    draft.kind = .foreignKey → draft.action = .add →
    ∃ chain, IsReferencesChain window chain ∧ IsReadFrom table columns chain draft.details
  /-- Nothing else depends on the lines behind the statement either. -/
  drafts_congr : ∀ n window', window.take n = window'.take n →
    (10 ≤ n ∨ ∃ line ∈ window.take n, ';' ∈ line) →
    (ofWindow (some table) window).drafts = (ofWindow (some table) window').drafts

/-- The look-ahead for the calls that complete a foreign key is exact. -/
theorem completesForeignKey_of_find?
    (h : Call.find? ["foreign", "foreignId"] (fun cs => some (Call.argument? cs))
      (ofWindow (some table) window).text = some (method, argument)) :
    CompletesForeignKey table (argument.elim [] Call.Argument.names) window where
  exists_draft_iff := by
    constructor
    · rintro ⟨draft, hdraft, hkind, haction⟩
      obtain ⟨chain, details, hchain, hdetails, rfl⟩ := (foreignKeyAdd?_eq_some_iff h).mp
        ((mem_drafts_and_iff rfl).mp ⟨hdraft, hkind, haction⟩)
      exact ⟨chain, hchain, isSome_foreignKeyDetails?_iff.mp (Option.isSome_of_eq_some hdetails)⟩
    · rintro ⟨chain, hchain, hcall⟩
      obtain ⟨details, hdetails⟩ :=
        Option.isSome_iff_exists.mp (isSome_foreignKeyDetails?_iff.mpr hcall)
      exact ⟨_, (mem_drafts_and_iff rfl).mpr ((foreignKeyAdd?_eq_some_iff h).mpr
        ⟨chain, details, hchain, hdetails, rfl⟩)⟩
  isReadFrom draft hdraft hkind haction := by
    obtain ⟨chain, details, hchain, hdetails, rfl⟩ := (foreignKeyAdd?_eq_some_iff h).mp
      ((mem_drafts_and_iff rfl).mp ⟨hdraft, hkind, haction⟩)
    exact ⟨chain, hchain, foreignKeyDetails?_eq_some_iff.mp hdetails⟩
  drafts_congr _ _ := drafts_ofWindow_congr (some table)

/-- The key of `author_id` is completed within three lines. -/
theorem completesForeignKey_of_threeLines :
    CompletesForeignKey "posts" ["author_id"]
      ["  $table->foreign('author_id')".toList, "    ->references('id')->on('authors')".toList,
        "    ->onDelete('cascade');".toList, "  $table->string('title');".toList] :=
  @completesForeignKey_of_find? _ "posts" "foreign" (some (.name "author_id")) (by rfl)

end Line

end MigrationPreview
