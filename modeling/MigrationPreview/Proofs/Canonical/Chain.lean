import MigrationPreview.Proofs.Canonical.Parts

/-!
# Searching a chain of calls

A canonical statement is a chain of calls with plain arguments. A search for a method walks along the
chain: it reads the arguments of the first call with one of its methods, and what stands in names and
arguments never looks like a call.

## Main results

* `Canonical.find?_chain`: a search in the text of a chain is a search along the chain
* `Canonical.firstName?_chain`: the first name of a text, by its chain
* `Canonical.readArgument_render`, `Canonical.readNext_quoted`: the arguments are read back
-/

namespace MigrationPreview.Canonical

open Text

variable {α : Type} {cs rest : List Char}

/-! ### Arguments -/

namespace Name

variable (name : Name)

/-- A name in quotes is read back. -/
theorem readQuoted_quoted (rest : List Char) :
    Call.readQuoted (name.quoted ++ rest) = some (name.text, rest) := by
  have hchars : name.text.toList = name.chars := String.toList_ofList
  have htext : name.quoted ++ rest = '\x27' :: name.text.toList ++ '\x27' :: rest := by
    simp [quoted, hchars]
  rw [htext]
  refine Call.readQuoted_append_quote (by decide) (by decide) ?_ ?_ rest
  · rw [hchars]
    exact name.ne_nil
  · rw [hchars]
    exact List.all_eq_true.mpr fun c hc => name.not_isQuote_of_mem hc

end Name

theorem quoted?_quoted (name : Name) (rest : List Char) :
    Call.quoted? (name.quoted ++ rest) = some name.text := by
  rw [Call.quoted?, name.readQuoted_quoted, Option.map_some]

theorem readNext_quoted (name : Name) (rest : List Char) :
    Call.readNext (separator ++ name.quoted ++ rest) = some (name.text, rest) := by
  have hskip : skipBlanks (' ' :: (name.quoted ++ rest)) = name.quoted ++ rest := by
    simp [skipBlanks, isBlank, Name.quoted]
  rw [Call.readNext, List.append_assoc]
  change (expect [','] (',' :: ' ' :: (name.quoted ++ rest)) >>= fun cs =>
    Call.readQuoted (skipBlanks cs)) = _
  rw [show expect [','] (',' :: ' ' :: (name.quoted ++ rest)) = some (' ' :: (name.quoted ++ rest))
    from rfl, Option.bind_eq_bind, Option.bind_some, hskip, name.readQuoted_quoted]

/-- The argument that is read from the text of an operand. -/
def Operand.argument : Operand → Call.Argument
  | .one name => .name name.text
  | .list names => .list (names.toList.map Name.text)

@[simp] theorem Operand.names_argument (operand : Operand) :
    operand.argument.names = operand.names := by
  cases operand <;> rfl

/-- A text in either kind of quotes is collected, and the search goes on behind it. -/
theorem collectQuoted_quote {quote : Char} (hquote : Call.isQuote quote = true) {inner : List Char}
    (hne : inner ≠ []) (hinner : ∀ c ∈ inner, (!Call.isQuote c) = true) (rest : List Char) :
    Call.collectQuoted none (quote :: (inner ++ quote :: rest)) =
      String.ofList inner :: Call.collectQuoted none rest := by
  -- behind the opening quote the characters of the text are collected in reverse
  have hcollect : ∀ (read cs : List Char), read ≠ [] → (∀ c ∈ cs, (!Call.isQuote c) = true) →
      Call.collectQuoted (some read) (cs ++ quote :: rest) =
        String.ofList (read.reverse ++ cs) :: Call.collectQuoted none rest := by
    intro read cs hread hcs
    induction cs generalizing read with
    | nil =>
      cases read with
      | nil => exact absurd rfl hread
      | cons d read => simp [Call.collectQuoted, hquote]
    | cons c cs ih =>
      have hc : Call.isQuote c = false := by simpa using hcs c List.mem_cons_self
      cases read with
      | nil => exact absurd rfl hread
      | cons d read =>
        simp [Call.collectQuoted, hc,
          ih (c :: d :: read) (by simp) fun c hc => hcs c (List.mem_cons_of_mem _ hc)]
  cases inner with
  | nil => exact absurd rfl hne
  | cons c cs =>
    have hc : Call.isQuote c = false := by simpa using hinner c List.mem_cons_self
    rw [Call.collectQuoted, if_pos hquote, List.cons_append, Call.collectQuoted, hc]
    exact hcollect [c] cs (by simp) fun d hd => hinner d (List.mem_cons_of_mem _ hd)

theorem collectQuoted_name (name : Name) (rest : List Char) :
    Call.collectQuoted none (name.quoted ++ rest) = name.text :: Call.collectQuoted none rest := by
  rw [Name.quoted, List.append_assoc]
  exact collectQuoted_quote (by decide) name.ne_nil (fun _ => name.not_isQuote_of_mem) rest

/-- The names of a list are read back, from left to right. -/
theorem quotedItems_intercalate (names : List Name) :
    Call.quotedItems (separator.intercalate (names.map Name.quoted)) = names.map Name.text := by
  unfold Call.quotedItems
  induction names with
  | nil => rfl
  | cons name names ih =>
    cases names with
    | nil =>
      have h := collectQuoted_name name []
      rw [List.append_nil] at h
      rw [List.map_singleton, List.intercalate_singleton, h]
      rfl
    | cons next names =>
      have hcomma : ∀ cs, Call.collectQuoted none (separator ++ cs) = Call.collectQuoted none cs :=
        fun _ => rfl
      rw [List.map_cons, List.map_cons, List.intercalate_cons_cons, ← List.map_cons,
        List.append_assoc, collectQuoted_name, hcomma, ih]
      rfl

/-- An operand is read back. -/
theorem readArgument_render (operand : Operand) (rest : List Char) :
    Call.readArgument (operand.render ++ rest) = some (operand.argument, rest) := by
  cases operand with
  | one name =>
    have hlist : Call.readList (name.quoted ++ rest) = none := rfl
    rw [Call.readArgument, Operand.render, hlist]
    dsimp only
    rw [name.readQuoted_quoted]
    rfl
  | list names =>
    have hbracket : ∀ c ∈ separator.intercalate (names.toList.map Name.quoted),
        (c != ']') = true :=
      (compositional_forall (fun c hc => bne_iff_ne.mpr (ne_of_isNameChar hc (by decide)))
        (by decide)).intercalate (by decide) names.toList
    have hlist : Call.readList (Operand.render (.list names) ++ rest) =
        some (names.toList.map Name.text, rest) := by
      rw [Operand.render, List.cons_append, List.cons_append, List.append_assoc, Call.readList,
        List.takeWhile_append_of_pos hbracket, List.dropWhile_append_of_pos hbracket]
      simp only [List.singleton_append, bne_self_eq_false, Bool.false_eq_true, not_false_eq_true,
        List.takeWhile_cons_of_neg, List.dropWhile_cons_of_neg, List.append_nil,
        quotedItems_intercalate]
    rw [Call.readArgument, hlist]
    rfl

theorem argument?_render (operand : Operand) (rest : List Char) :
    Call.argument? (operand.render ++ rest) = some operand.argument := by
  rw [Call.argument?, readArgument_render, Option.map_some]

/-! ### Searches along a chain -/

/-- The arguments of a call begin without a blank. -/
theorem Link.skipBlanks_arguments (link : Link) (rest : List Char) :
    skipBlanks (link.arguments.render ++ ')' :: rest) = link.arguments.render ++ ')' :: rest := by
  rcases link with ⟨method, none | operand | ⟨operand, name⟩, hplain⟩
  · exact skipBlanks_cons_of_not_isBlank (by decide) _
  · cases operand <;> exact skipBlanks_cons_of_not_isBlank (by decide) _
  · cases operand <;> exact skipBlanks_cons_of_not_isBlank (by decide) _

/-- What a search for some methods finds along a chain. -/
def searchChain (methods : List String) (readArguments : List Char → Option α) :
    List Link → Option (String × α)
  | [] => none
  | link :: chain =>
    (if link.method ∈ methods then
      (readArguments (link.arguments.render ++ ')' :: chainText chain)).map (link.method, ·)
    else none).or (searchChain methods readArguments chain)

/-- The first name that a chain gives as an argument. -/
def searchName : List Link → Option String
  | [] => none
  | link :: chain =>
    (Call.quoted? (link.arguments.render ++ ')' :: chainText chain)).or (searchName chain)

theorem firstMatch_append_of_forall {read : List Char → Option α} {front : List Char}
    (h : ∀ c ∈ front, ∀ cs, read (c :: cs) = none) (rest : List Char) :
    firstMatch read (front ++ rest) = firstMatch read rest := by
  induction front with
  | nil => rfl
  | cons c front ih =>
    rw [List.cons_append, firstMatch_cons, h c List.mem_cons_self, Option.none_or]
    exact ih fun d hd => h d (List.mem_cons_of_mem _ hd)

theorem readMethod_cons_of_ne {c : Char} (hc : c ≠ '-') (cs : List Char) :
    Call.readMethod (c :: cs) = none := by
  have harrow : expect "->".toList (c :: cs) = none := if_neg fun h => hc h.symm
  rw [Call.readMethod, harrow]
  rfl

theorem readCall_cons_of_ne {methods : List String} {readArguments : List Char → Option α}
    {c : Char} (hc : c ≠ '-') (cs : List Char) :
    Call.readCall methods readArguments (c :: cs) = none := by
  rw [Call.readCall, readMethod_cons_of_ne hc]
  rfl

/-- No call begins in a text without an arrow. -/
theorem find?_append_of_notMem {methods : List String} {readArguments : List Char → Option α}
    {front : List Char} (h : '-' ∉ front) (rest : List Char) :
    Call.find? methods readArguments (front ++ rest) = Call.find? methods readArguments rest :=
  firstMatch_append_of_forall (fun _ hc cs => readCall_cons_of_ne (fun heq => h (heq ▸ hc)) cs) rest

theorem readNamingCall_cons_of_ne {c : Char} (hc : c ≠ '-') (cs : List Char) :
    Call.readNamingCall (c :: cs) = none := by
  rw [Call.readNamingCall, readMethod_cons_of_ne hc]
  rfl

/-- A plain method is read up to its first argument. -/
theorem readOpening_append {method : String} (hmethod : ∀ c ∈ method.toList, isNameChar c = true)
    (arguments : List Char) :
    Call.readOpening (method.toList ++ '(' :: arguments) = some (method, skipBlanks arguments) := by
  have hname : ∀ c ∈ method.toList, (!isBlank c && c != '(') = true := by
    intro c hc
    simp [not_isBlank_of_isNameChar (hmethod c hc),
      ne_of_isNameChar (hmethod c hc) (d := '(') (by decide)]
  have hread : Call.readOpening (method.toList ++ [] ++ '(' :: arguments) =
      some (method, skipBlanks arguments) := Call.readOpening_append_paren hname rfl arguments
  rwa [List.append_nil] at hread

/-- The text of a call of a method with the text of its arguments. -/
def arrowCall (method : String) (arguments : List Char) : List Char :=
  "->".toList ++ (method.toList ++ '(' :: (arguments ++ [')']))

section

variable {method : String} {arguments : List Char}

theorem readMethod_arrowCall_append (hmethod : ∀ c ∈ method.toList, isNameChar c = true)
    (rest : List Char) :
    Call.readMethod (arrowCall method arguments ++ rest) =
      some (method, skipBlanks (arguments ++ ')' :: rest)) := by
  have htext : arrowCall method arguments ++ rest =
      "->".toList ++ (method.toList ++ '(' :: (arguments ++ ')' :: rest)) := by
    simp only [arrowCall, List.append_assoc, List.cons_append, List.nil_append]
  rw [Call.readMethod, htext, expect_append, Option.bind_eq_bind, Option.bind_some]
  exact readOpening_append hmethod _

/-- Inside a call no other call begins. -/
theorem exists_arrowCall_append_eq (hmethod : ∀ c ∈ method.toList, isNameChar c = true)
    (harguments : '-' ∉ arguments) (rest : List Char) :
    ∃ inner, arrowCall method arguments ++ rest = '-' :: (inner ++ rest) ∧ '-' ∉ inner := by
  refine ⟨'>' :: (method.toList ++ '(' :: (arguments ++ [')'])), rfl, ?_⟩
  simp only [List.mem_cons, List.mem_append, List.not_mem_nil, or_false, not_or]
  exact ⟨by decide, fun hmem => absurd (hmethod _ hmem) (by decide), by decide, harguments, by decide⟩

/-- A search finds a call of its methods that stands in front, and otherwise goes on behind the call. -/
theorem find?_arrowCall_append {methods : List String} {readArguments : List Char → Option α}
    (hmethod : ∀ c ∈ method.toList, isNameChar c = true) (harguments : '-' ∉ arguments)
    (rest : List Char) :
    Call.find? methods readArguments (arrowCall method arguments ++ rest) =
      (if method ∈ methods then
        (readArguments (skipBlanks (arguments ++ ')' :: rest))).map (method, ·)
      else none).or (Call.find? methods readArguments rest) := by
  have hread : Call.readCall methods readArguments (arrowCall method arguments ++ rest) =
      if method ∈ methods then
        (readArguments (skipBlanks (arguments ++ ')' :: rest))).map (method, ·)
      else none := by
    rw [Call.readCall, readMethod_arrowCall_append hmethod, Option.bind_eq_bind, Option.bind_some]
    dsimp only
    split
    · cases readArguments (skipBlanks (arguments ++ ')' :: rest)) <;> rfl
    · rfl
  obtain ⟨inner, hinner, hdash⟩ := exists_arrowCall_append_eq hmethod harguments rest
  rw [← hread, hinner, Call.find?, firstMatch_cons]
  congr 1
  exact find?_append_of_notMem hdash rest

end

/-! ### Links of a chain -/

theorem Link.render_eq_arrowCall (link : Link) :
    link.render = arrowCall link.method link.arguments.render := by
  simp only [render, arrowCall, List.append_assoc, List.cons_append]

theorem Link.dash_notMem_arguments (link : Link) : '-' ∉ link.arguments.render := fun hmem =>
  (compositional_forall (p := (· ≠ '-')) (fun c hc => ne_of_isNameChar hc (by decide))
    (by decide)).arguments (by decide) link.arguments '-' hmem rfl

theorem find?_link (methods : List String) (readArguments : List Char → Option α) (link : Link)
    (rest : List Char) :
    Call.find? methods readArguments (link.render ++ rest) =
      (if link.method ∈ methods then
        (readArguments (link.arguments.render ++ ')' :: rest)).map (link.method, ·)
      else none).or (Call.find? methods readArguments rest) := by
  rw [link.render_eq_arrowCall,
    find?_arrowCall_append (fun _ => link.isNameChar_of_mem) link.dash_notMem_arguments,
    link.skipBlanks_arguments]

/-- A search behind a text without arrows is a search along the chain. -/
theorem find?_chain (methods : List String) (readArguments : List Char → Option α)
    {front : List Char} (hfront : '-' ∉ front) (chain : List Link) :
    Call.find? methods readArguments (front ++ chainText chain) =
      searchChain methods readArguments chain := by
  rw [find?_append_of_notMem hfront]
  induction chain with
  | nil => rfl
  | cons link chain ih =>
    rw [chainText, List.flatMap_cons, List.append_assoc, find?_link]
    change Option.or _ (Call.find? methods readArguments (chainText chain)) = _
    rw [ih]
    rfl

theorem firstName?_chain {front : List Char} (hfront : '-' ∉ front) (chain : List Link) :
    Call.firstName? (front ++ chainText chain) = searchName chain := by
  rw [Call.firstName?, firstMatch_append_of_forall
    (fun c hc cs => readNamingCall_cons_of_ne (fun heq => hfront (heq ▸ hc)) cs)]
  induction chain with
  | nil => rfl
  | cons link chain ih =>
    obtain ⟨inner, hinner, hdash⟩ := exists_arrowCall_append_eq (fun _ => link.isNameChar_of_mem)
      link.dash_notMem_arguments (chainText chain)
    rw [← link.render_eq_arrowCall] at hinner
    have hword : link.method.toList.all isWord = true :=
      List.all_eq_true.mpr fun c hc => isWord_of_isNameChar (link.isNameChar_of_mem hc)
    have hread : Call.readNamingCall (link.render ++ chainText chain) =
        Call.quoted? (link.arguments.render ++ ')' :: chainText chain) := by
      rw [Call.readNamingCall, link.render_eq_arrowCall,
        readMethod_arrowCall_append fun _ => link.isNameChar_of_mem, link.skipBlanks_arguments,
        Option.bind_eq_bind, Option.bind_some]
      exact if_pos ⟨link.isPlain.1, hword⟩
    rw [show chainText (link :: chain) = link.render ++ chainText chain from
      List.append_assoc _ _ _, searchName, ← hread, hinner, firstMatch_cons, ← ih]
    congr 1
    exact firstMatch_append_of_forall
      (fun c hc cs => readNamingCall_cons_of_ne (fun heq => hdash (heq ▸ hc)) cs) _

/-- A search for methods that a chain does not call finds nothing. -/
theorem searchChain_eq_none {methods : List String} {readArguments : List Char → Option α}
    {chain : List Link} (h : ∀ link ∈ chain, link.method ∉ methods) :
    searchChain methods readArguments chain = none := by
  induction chain with
  | nil => rfl
  | cons link chain ih =>
    rw [searchChain, if_neg (h link List.mem_cons_self), Option.none_or]
    exact ih fun link hlink => h link (List.mem_cons_of_mem _ hlink)

end MigrationPreview.Canonical
