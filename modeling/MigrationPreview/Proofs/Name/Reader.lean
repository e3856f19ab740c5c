import MigrationPreview.Proofs.Call

/-!
# Names in calls

What a call names stands in quotes, on its own or in a list. Whatever reader takes a name out of a text,
the name is a part of the text that is not empty and holds no quote.

## Main definitions

* `IsName`: what may stand in quotes
* `Call.NamedIn`: a name that is part of a text

## Main results

* `Call.namedIn_of_mem_quotedItems`: the items of a list are names
* `Call.namedIn_of_readQuoted`, `Call.namedIn_of_readArgument`: so are single names and arguments
* `Call.exists_arguments_of_find?`: a call that is found, with the text of its arguments
-/

namespace MigrationPreview

open Text

/-- What may stand in quotes: a text that is not empty and holds no quote. -/
structure IsName (name : String) : Prop where
  ne_empty : name ≠ ""
  isQuote_eq_false : ∀ c ∈ name.toList, Call.isQuote c = false

namespace Call

/-- A name that is part of a text. -/
structure NamedIn (cs : List Char) (name : String) : Prop where
  isName : IsName name
  isInfix : name.toList <:+: cs

variable {cs ds rest : List Char} {name method : String}

theorem NamedIn.mono (h : NamedIn cs name) (hcs : cs <:+: ds) : NamedIn ds name :=
  ⟨h.isName, h.isInfix.trans hcs⟩

/-! ### Lists of names -/

/-- The characters behind an opening quote, collected in reverse, become a name at the next quote. They
hold no quote themselves, which is what the collection keeps up. -/
theorem namedIn_of_mem_collectQuoted {read : Option (List Char)}
    (hread : ∀ ds ∈ read, ∀ c ∈ ds, isQuote c = false) (h : name ∈ collectQuoted read cs) :
    NamedIn ((read.getD []).reverse ++ cs) name := by
  fun_induction collectQuoted read cs with
  | case1 => simp at h
  | case2 c cs ih =>
    have hstart : ∀ ds ∈ (if isQuote c then some [] else none : Option (List Char)),
        ∀ d ∈ ds, isQuote d = false := by
      split <;> simp
    have hsuffix : ((if isQuote c then some [] else none : Option (List Char)).getD []).reverse ++ cs
        <:+: c :: cs := by
      split <;> exact (List.suffix_cons c cs).isInfix
    exact (ih hstart h).mono hsuffix
  | case3 c cs ih =>
    -- a second quote opens again, and what was collected is still empty
    cases hquote : isQuote c with
    | true =>
      rw [hquote] at ih h
      exact (ih (by simp) h).mono (List.suffix_cons c cs).isInfix
    | false =>
      rw [hquote] at ih h
      exact (ih (by simpa using hquote) h).mono List.infix_rfl
  | case4 d ds c cs hquote ih =>
    rcases List.mem_cons.mp h with rfl | h
    · refine ⟨⟨by simp, fun e he => ?_⟩, ?_⟩
      · rw [String.toList_ofList, List.mem_reverse] at he
        exact hread (d :: ds) rfl e he
      · rw [String.toList_ofList]
        exact (List.prefix_append _ _).isInfix
    · refine (ih (by simp) h).mono ⟨(d :: ds).reverse ++ [c], [], ?_⟩
      simp
  | case5 d ds c cs hquote ih =>
    have hnext : ∀ es ∈ some (c :: d :: ds), ∀ e ∈ es, isQuote e = false := by
      intro es hes e he
      obtain rfl := Option.some_inj.mp hes
      rcases List.mem_cons.mp he with rfl | he
      · simpa using hquote
      · exact hread (d :: ds) rfl e he
    have hsame : (c :: d :: ds).reverse ++ cs = (d :: ds).reverse ++ c :: cs := by simp
    rw [Option.getD_some, ← hsame]
    exact ih hnext h

theorem namedIn_of_mem_quotedItems (h : name ∈ quotedItems cs) : NamedIn cs name :=
  namedIn_of_mem_collectQuoted (by simp) h

/-! ### Arguments -/

theorem namedIn_of_readQuoted (h : readQuoted cs = some (name, rest)) : NamedIn cs name := by
  obtain ⟨opening, closing, -, -, hne, hall, rfl⟩ := eq_append_of_readQuoted h
  refine ⟨⟨fun hempty => hne (by rw [hempty]; rfl), fun c hc => ?_⟩, ⟨[opening], closing :: rest, ?_⟩⟩
  · simpa using List.all_eq_true.mp hall c hc
  · simp

theorem suffix_of_readQuoted (h : readQuoted cs = some (name, rest)) : rest <:+ cs := by
  obtain ⟨opening, closing, -, -, -, -, rfl⟩ := eq_append_of_readQuoted h
  exact ⟨opening :: name.toList ++ [closing], by simp⟩

theorem namedIn_of_quoted? (h : quoted? cs = some name) : NamedIn cs name := by
  obtain ⟨rest, hread⟩ := readQuoted_of_quoted? h
  exact namedIn_of_readQuoted hread

theorem namedIn_of_readNext (h : readNext cs = some (name, rest)) : NamedIn cs name := by
  obtain ⟨behind, hcomma, hread⟩ := Option.bind_eq_some_iff.mp h
  have hbehind : behind <:+ cs :=
    .trans ⟨[','], (eq_append_of_expect hcomma).symm⟩ (skipBlanks_suffix cs)
  exact (namedIn_of_readQuoted hread).mono ((skipBlanks_suffix behind).trans hbehind).isInfix

theorem namedIn_of_readList {items : List String} (h : readList cs = some (items, rest)) :
    (∀ item ∈ items, NamedIn cs item) ∧ rest <:+ cs := by
  unfold readList at h
  split at h
  · next inner =>
    have hinner : inner <:+ '[' :: inner := List.suffix_cons '[' inner
    split at h
    · next closing behind hclosing =>
      obtain ⟨rfl, rfl⟩ := Prod.mk.inj (Option.some_inj.mp h)
      have hbehind : behind <:+ inner :=
        (List.suffix_cons closing behind).trans (hclosing ▸ List.dropWhile_suffix _)
      refine ⟨fun item hitem => ?_, hbehind.trans hinner⟩
      exact (namedIn_of_mem_quotedItems hitem).mono
        ((List.takeWhile_prefix _).isInfix.trans hinner.isInfix)
    · simp at h
  · simp at h

theorem namedIn_of_readArgument {argument : Argument} (h : readArgument cs = some (argument, rest)) :
    (∀ item ∈ argument.names, NamedIn cs item) ∧ rest <:+ cs := by
  unfold readArgument at h
  split at h
  · next items behind hlist =>
    obtain ⟨rfl, rfl⟩ := Prod.mk.inj (Option.some_inj.mp h)
    exact namedIn_of_readList hlist
  · obtain ⟨⟨single, behind⟩, hread, heq⟩ := Option.map_eq_some_iff.mp h
    obtain ⟨rfl, rfl⟩ := Prod.mk.inj heq
    refine ⟨fun item hitem => ?_, suffix_of_readQuoted hread⟩
    rw [Argument.names, List.mem_singleton] at hitem
    exact hitem ▸ namedIn_of_readQuoted hread

theorem namedIn_of_argument? {argument : Argument} (h : argument? cs = some argument) :
    ∀ item ∈ argument.names, NamedIn cs item := by
  obtain ⟨⟨argument, rest⟩, hread, rfl⟩ := Option.map_eq_some_iff.mp h
  exact (namedIn_of_readArgument hread).1

theorem namedIn_of_twoQuoted? {first second : String} (h : twoQuoted? cs = some (first, second)) :
    NamedIn cs first ∧ NamedIn cs second := by
  obtain ⟨⟨name, rest⟩, hread, h⟩ := Option.bind_eq_some_iff.mp h
  obtain ⟨⟨name', rest'⟩, hnext, h⟩ := Option.bind_eq_some_iff.mp h
  obtain ⟨rfl, rfl⟩ := Prod.mk.inj (Option.some_inj.mp h)
  exact ⟨namedIn_of_readQuoted hread,
    (namedIn_of_readNext hnext).mono (suffix_of_readQuoted hread).isInfix⟩

theorem namedIn_of_oneOrTwoQuoted? {first : String} {second : Option String}
    (h : oneOrTwoQuoted? cs = some (first, second)) :
    NamedIn cs first ∧ ∀ item ∈ second, NamedIn cs item := by
  obtain ⟨⟨name, rest⟩, hread, h⟩ := Option.bind_eq_some_iff.mp h
  obtain ⟨rfl, rfl⟩ := Prod.mk.inj (Option.some_inj.mp h)
  refine ⟨namedIn_of_readQuoted hread, fun item hitem => ?_⟩
  obtain ⟨⟨name', rest'⟩, hnext, rfl⟩ := Option.map_eq_some_iff.mp hitem
  exact (namedIn_of_readNext hnext).mono (suffix_of_readQuoted hread).isInfix

theorem namedIn_of_argumentAndName (cs : List Char) :
    (∀ item ∈ (argumentAndName cs).1.elim [] Argument.names, NamedIn cs item) ∧
      ∀ item ∈ (argumentAndName cs).2, NamedIn cs item := by
  unfold argumentAndName
  split
  · next argument rest hread =>
    obtain ⟨hnames, hrest⟩ := namedIn_of_readArgument hread
    refine ⟨hnames, fun item hitem => ?_⟩
    obtain ⟨⟨name, behind⟩, hnext, rfl⟩ := Option.map_eq_some_iff.mp hitem
    exact (namedIn_of_readNext hnext).mono hrest.isInfix
  · refine ⟨by simp, fun item hitem => ?_⟩
    obtain ⟨⟨name, behind⟩, hnext, rfl⟩ := Option.map_eq_some_iff.mp hitem
    exact namedIn_of_readNext hnext

/-! ### Calls -/

/-- A call that is found stands in the line with its method and its parenthesis, and what was read of its
arguments was read behind them. -/
theorem exists_arguments_of_find? {α : Type} {methods : List String}
    {readArguments : List Char → Option α} {found : α}
    (h : find? methods readArguments cs = some (method, found)) :
    (∃ blanks : List Char, blanks.all isBlank ∧
      "->".toList ++ method.toList ++ blanks ++ ['('] <:+: cs) ∧
      ∃ arguments, arguments <:+ cs ∧ readArguments arguments = some found := by
  obtain ⟨skipped, start, rfl, hread⟩ := exists_of_firstMatch h
  obtain ⟨⟨name, arguments⟩, hmethod, hcall⟩ := Option.bind_eq_some_iff.mp hread
  obtain ⟨opening, harrow, hopening⟩ := Option.bind_eq_some_iff.mp hmethod
  dsimp only at hcall
  split at hcall
  · obtain ⟨value, harguments, hpair⟩ := Option.bind_eq_some_iff.mp hcall
    obtain ⟨rfl, rfl⟩ := Prod.mk.inj (Option.some_inj.mp hpair)
    obtain ⟨blanks, blanks', hblanks, -, htext⟩ := eq_append_of_readOpening hopening
    have hstart : start = "->".toList ++ name.toList ++ blanks ++ ['('] ++ (blanks' ++ arguments) := by
      rw [eq_append_of_expect harrow, htext]
      simp only [List.append_assoc, List.cons_append, List.nil_append]
    refine ⟨⟨blanks, hblanks, skipped, blanks' ++ arguments, ?_⟩, arguments, ?_, harguments⟩
    · rw [hstart]
      simp only [List.append_assoc]
    · rw [hstart, ← List.append_assoc, ← List.append_assoc]
      exact List.suffix_append _ _
  · simp at hcall

/-- The argument of a call is named in the text in which the call is found. -/
theorem namedIn_of_find?_argument? {methods : List String} {argument : Argument}
    (h : find? methods argument? cs = some (method, argument)) :
    ∀ item ∈ argument.names, NamedIn cs item := by
  obtain ⟨-, arguments, hsuffix, hread⟩ := exists_arguments_of_find? h
  exact fun item hitem => (namedIn_of_argument? hread item hitem).mono hsuffix.isInfix

theorem namedIn_of_find?_quoted? {methods : List String}
    (h : find? methods quoted? cs = some (method, name)) : NamedIn cs name := by
  obtain ⟨-, arguments, hsuffix, hread⟩ := exists_arguments_of_find? h
  exact (namedIn_of_quoted? hread).mono hsuffix.isInfix

theorem namedIn_of_firstName? (h : firstName? cs = some name) : NamedIn cs name := by
  obtain ⟨skipped, start, rfl, hread⟩ := exists_of_firstMatch h
  obtain ⟨⟨method, arguments⟩, hmethod, hcall⟩ := Option.bind_eq_some_iff.mp hread
  obtain ⟨opening, harrow, hopening⟩ := Option.bind_eq_some_iff.mp hmethod
  dsimp only at hcall
  split at hcall
  · obtain ⟨blanks, blanks', -, -, htext⟩ := eq_append_of_readOpening hopening
    rw [eq_append_of_expect harrow, htext, ← List.append_assoc, ← List.append_assoc]
    exact (namedIn_of_quoted? hcall).mono (List.suffix_append _ _).isInfix
  · simp at hcall

end Call

/-- The table of a call on the schema is a name. -/
theorem isName_of_schemaCall? {cs : List Char} {method table : String}
    (h : schemaCall? cs = some (method, table)) : IsName table := by
  obtain ⟨skipped, start, rfl, hread⟩ := exists_of_firstMatch h
  obtain ⟨behind, hbehind, hread⟩ := Option.bind_eq_some_iff.mp hread
  obtain ⟨⟨name, arguments⟩, hopening, hread⟩ := Option.bind_eq_some_iff.mp hread
  dsimp only at hread
  split at hread
  · obtain ⟨quoted, hquoted, hpair⟩ := Option.bind_eq_some_iff.mp hread
    obtain ⟨rfl, rfl⟩ := Prod.mk.inj (Option.some_inj.mp hpair)
    exact (Call.namedIn_of_quoted? hquoted).isName
  · simp at hread

theorem isName_of_openedTable? {cs : List Char} {table : String} (h : openedTable? cs = some table) :
    IsName table := by
  unfold openedTable? at h
  split at h
  · next method name hcall =>
    split at h
    · obtain rfl := Option.some_inj.mp h
      exact isName_of_schemaCall? hcall
    · simp at h
  · simp at h

end MigrationPreview
