import MigrationPreview.Proofs.Pair.Call

/-!
# Reading destructive calls

What the readers of calls find in the text of a destructive call does not depend on what follows the text.
A reader of its shape finds what the call asks for, and all other readers go on behind it.

## Main definitions

* `DestructiveShape.IsReader`: readers of the calls of one shape

## Main results

* `DestructiveCall.opening_body`: the method of a call and the text of its arguments
* `DestructiveShape.isReader_readSchemaCall`, `DestructiveShape.isReader_argument?`,
  `DestructiveShape.isReader_twoQuoted?`: the readers of all shapes
* `DestructiveShape.IsReader.firstMatch_text_append`: a search in the text of a call with something behind it
-/

namespace MigrationPreview

open Text

variable {cs : List Char}

/-! ### Reading a call -/

theorem QuotedName.readQuoted_text (quoted : QuotedName) (rest : List Char) :
    Call.readQuoted (quoted.text ++ rest) = some (quoted.name, rest) := by
  have hname : quoted.name.toList.all (!Call.isQuote ·) := by
    simpa using quoted.isName.isQuote_eq_false
  have htext : quoted.text ++ rest =
      quoted.opening :: quoted.name.toList ++ quoted.closing :: rest := by
    simp [QuotedName.text]
  rw [htext]
  exact Call.readQuoted_append_quote quoted.isQuote_opening quoted.isQuote_closing
    (by simpa using quoted.isName.ne_empty) hname rest

/-- A list is read up to its first bracket, whatever follows it. -/
theorem readList_append_bracket (cs rest : List Char) :
    ∃ behind, Call.readList ('[' :: (cs ++ ']' :: rest)) =
      some (Call.quotedItems (cs.takeWhile (· != ']')), behind) := by
  rw [Call.readList]
  by_cases hdrop : cs.dropWhile (· != ']') = []
  · have hcs : ∀ c ∈ cs, (c != ']') = true := by simpa using hdrop
    have htake : cs.takeWhile (· != ']') = cs := List.takeWhile_eq_self_iff.mpr hcs
    rw [List.dropWhile_append_of_pos hcs, List.dropWhile_cons_of_neg (by simp),
      List.takeWhile_append_of_pos hcs, List.takeWhile_cons_of_neg (by simp), List.append_nil, htake]
    exact ⟨rest, rfl⟩
  · rw [Call.dropWhile_append_of_ne_nil hdrop, Call.takeWhile_append_of_ne_nil hdrop]
    cases hbehind : cs.dropWhile (· != ']') with
    | nil => exact absurd hbehind hdrop
    | cons c behind => exact ⟨_, rfl⟩

theorem Operand.argument?_text (operand : Operand) (rest : List Char) :
    Call.argument? (operand.text ++ rest) = some operand.argument := by
  rw [Call.argument?, Call.readArgument]
  cases operand with
  | name quoted =>
    have hlist : Call.readList ((Operand.name quoted).text ++ rest) = none := by
      have hopening : quoted.opening ≠ '[' := by
        intro heq
        have hquote := quoted.isQuote_opening
        rw [heq] at hquote
        exact absurd hquote (by decide)
      rw [text, QuotedName.text, List.cons_append, Call.readList]
      intro inner heq
      exact hopening (List.cons.inj heq).1
    rw [hlist]
    exact congrArg (Option.map _) (congrArg (Option.map _) (quoted.readQuoted_text rest))
  | list items =>
    obtain ⟨behind, hread⟩ := readList_append_bracket (items.flatMap ArgumentPiece.text) rest
    have htext : (Operand.list items).text ++ rest =
        '[' :: (items.flatMap ArgumentPiece.text ++ ']' :: rest) := by
      simp [text]
    rw [htext, hread]
    rfl

theorem Subject.skipBlanks_arguments_append (subject : Subject) (rest : List Char) :
    skipBlanks (subject.arguments ++ rest) = subject.arguments ++ rest := by
  have hquoted : ∀ (quoted : QuotedName) (rest : List Char),
      skipBlanks (quoted.text ++ rest) = quoted.text ++ rest := fun quoted rest =>
    skipBlanks_cons_of_not_isBlank (Call.isBlank_of_isQuote quoted.isQuote_opening) _
  have hoperand : ∀ operand : Operand, skipBlanks (operand.text ++ rest) = operand.text ++ rest := by
    rintro (quoted | items)
    · exact hquoted quoted rest
    · exact skipBlanks_cons_of_not_isBlank (by decide) _
  cases subject with
  | table ifExists name => exact hquoted name rest
  | column operand | index operand | foreignKey operand => exact hoperand operand
  | rename source behind front target =>
    rw [arguments, List.append_assoc, List.append_assoc]
    exact hquoted source _

namespace DestructiveCall

variable (call : DestructiveCall)

theorem readOpening_methodCall (rest : List Char) :
    Call.readOpening (call.methodCall ++ rest) =
      some (call.subject.method, call.subject.arguments ++ (call.tail ++ rest)) := by
  have hmethods : ∀ m ∈ "drop" :: "dropIfExists" :: destructiveMethods, ∀ c ∈ m.toList,
      (!isBlank c && c != '(') = true := by decide
  have htext : call.methodCall ++ rest = call.subject.method.toList ++ call.front.val ++
      '(' :: (call.behind.val ++ (call.subject.arguments ++ (call.tail ++ rest))) := by
    simp [methodCall]
  rw [htext, Call.readOpening_append_paren (hmethods _ call.subject.method_mem) call.front.2,
    skipBlanks_append call.behind.2, Subject.skipBlanks_arguments_append]

/-- The method of a call is read behind its word, with the text of its arguments. -/
theorem opening_body (rest : List Char) :
    (expect call.subject.word (call.body ++ rest)).bind Call.readOpening =
      some (call.subject.method, call.subject.arguments ++ (call.tail ++ rest)) := by
  rw [body, List.append_assoc, expect_append, Option.bind_some, readOpening_methodCall]

theorem readMethod_body (h : call.shape ≠ .table) (rest : List Char) :
    Call.readMethod (call.body ++ rest) =
      some (call.subject.method, call.subject.arguments ++ (call.tail ++ rest)) := by
  have hword : call.subject.word = "->".toList := if_neg h
  rw [← call.opening_body rest, hword]
  rfl

/-- A call on the schema is not one of a method of a table. -/
theorem readMethod_body_of_table (h : call.shape = .table) (rest : List Char) :
    Call.readMethod (call.body ++ rest) = none := by
  have hword : call.subject.word = 'S' :: "chema::".toList := if_pos h
  have harrow : ∀ cs, expect "->".toList ('S' :: cs) = none := fun _ => if_neg (by decide)
  rw [Call.readMethod, body, hword, List.cons_append, List.cons_append, harrow]
  rfl

/-- A call of a method of a table is not one on the schema. -/
theorem readSchemaCall_body_of_ne (h : call.shape ≠ .table) (rest : List Char) :
    readSchemaCall (call.body ++ rest) = none := by
  have hword : call.subject.word = '-' :: ['>'] := if_neg h
  have hschema : ∀ cs, expect "Schema::".toList ('-' :: cs) = none := fun _ => if_neg (by decide)
  rw [readSchemaCall, body, hword, List.cons_append, List.cons_append, hschema]
  rfl

end DestructiveCall

/-! ### Readers of the calls of one shape -/

namespace DestructiveShape

variable {α : Type} {shape : DestructiveShape} {read : List Char → Option α}

/-- A reader that finds something only where a destructive call begins, and of these calls only in those of
one shape. What it finds does not depend on what follows the call. -/
structure IsReader (shape : DestructiveShape) (read : List Char → Option α) : Prop where
  eq_none {cs : List Char} : beginsDestructive cs = false → read cs = none
  exists_found (call : DestructiveCall) : call.shape = shape →
    ∃ found, ∀ rest, read (call.body ++ rest) = some found
  eq_none_of_ne (call : DestructiveCall) : call.shape ≠ shape → ∀ rest, read (call.body ++ rest) = none

theorem readSchemaCall_body {call : DestructiveCall} {ifExists : Bool} {name : QuotedName}
    (h : call.subject = .table ifExists name) (rest : List Char) :
    readSchemaCall (call.body ++ rest) = some (call.subject.method, name.name) := by
  have hopening := call.opening_body rest
  have hmethod : call.subject.method ∈ ["create", "table", "drop", "dropIfExists"] := by
    rw [h]
    cases ifExists <;> simp [Subject.method, Subject.shape, DestructiveShape.method]
  have hquoted : Call.quoted? (call.subject.arguments ++ (call.tail ++ rest)) = some name.name := by
    rw [h]
    exact congrArg (Option.map Prod.fst) (name.readQuoted_text _)
  rw [show call.subject.word = "Schema::".toList by rw [h]; rfl] at hopening
  obtain ⟨behind, hbehind, hread⟩ := Option.bind_eq_some_iff.mp hopening
  rw [readSchemaCall, hbehind, Option.bind_eq_bind, Option.bind_some, hread, Option.bind_eq_bind,
    Option.bind_some]
  simp only [hmethod, ↓reduceIte, hquoted, Option.bind_eq_bind, Option.bind_some, Option.pure_def]

theorem isReader_readSchemaCall : IsReader .table readSchemaCall where
  eq_none {cs} h := by
    rw [beginsDestructive, Bool.or_eq_false_iff, opensCall] at h
    rw [readSchemaCall, Option.bind_eq_bind]
    cases hexpect : expect "Schema::".toList cs with
    | none => rfl
    | some behind =>
      rw [hexpect, Option.bind_some] at h
      rw [Option.bind_some, Option.bind_eq_bind]
      cases hread : Call.readOpening behind with
      | none => rfl
      | some call =>
        rw [hread] at h
        have hmethod : call.1 ∉ ["create", "table", "drop", "dropIfExists"] := by simpa using h.1
        simp only [Option.bind_some, hmethod, ↓reduceIte]
  exists_found call hshape := by
    cases hsubject : call.subject with
    | table ifExists name => exact ⟨_, readSchemaCall_body hsubject⟩
    | column | rename | index | foreignKey =>
      rw [DestructiveCall.shape, hsubject] at hshape
      cases hshape
  eq_none_of_ne call hshape := call.readSchemaCall_body_of_ne hshape

/-- A reader of the calls of one method, whose arguments end with the text of the call. -/
theorem isReader_readCall {readArguments : List Char → Option α} (htable : shape ≠ .table)
    (hread : ∀ subject : Subject, subject.shape = shape →
      ∃ found, ∀ rest, readArguments (subject.arguments ++ rest) = some found) :
    IsReader shape (Call.readCall [shape.method] readArguments) where
  eq_none {cs} h := by
    rw [beginsDestructive, Bool.or_eq_false_iff] at h
    have harrow : (Call.readMethod cs).any (fun call => destructiveMethods.contains call.1) = false :=
      h.2
    rw [Call.readCall]
    cases hcall : Call.readMethod cs with
    | none => rfl
    | some call =>
      rw [hcall] at harrow
      have hmethod : shape.method ∈ destructiveMethods := by
        cases shape with
        | table => exact absurd rfl htable
        | column | rename | index | foreignKey => decide
      have hne : call.1 ∉ [shape.method] := by
        rw [List.mem_singleton]
        intro hname
        simp [hname, hmethod] at harrow
      simp only [Option.bind_eq_bind, Option.bind_some, hne, ↓reduceIte]
  exists_found call hcall := by
    obtain ⟨found, hfound⟩ := hread call.subject hcall
    have hname : call.subject.method = shape.method := (Subject.shape_eq_iff htable).mp hcall
    refine ⟨(shape.method, found), fun rest => ?_⟩
    rw [Call.readCall, call.readMethod_body (hcall ▸ htable) rest]
    simp only [Option.bind_eq_bind, Option.bind_some, hname, List.mem_singleton, ↓reduceIte, hfound,
      Option.pure_def]
  eq_none_of_ne call hcall rest := by
    have hne : call.subject.method ∉ [shape.method] := by
      rw [List.mem_singleton]
      exact fun hname => hcall ((Subject.shape_eq_iff htable).mpr hname)
    rw [Call.readCall]
    by_cases hschema : call.shape = .table
    · rw [call.readMethod_body_of_table hschema]
      rfl
    · rw [call.readMethod_body hschema]
      simp only [Option.bind_eq_bind, Option.bind_some, hne, ↓reduceIte]

theorem isReader_argument? (h : shape ≠ .table ∧ shape ≠ .rename) :
    IsReader shape (Call.readCall [shape.method] Call.argument?) := by
  refine isReader_readCall h.1 fun subject hsubject => ?_
  cases subject with
  | table => exact absurd hsubject.symm h.1
  | rename => exact absurd hsubject.symm h.2
  | column operand | index operand | foreignKey operand => exact ⟨_, operand.argument?_text⟩

theorem isReader_twoQuoted? : IsReader .rename (Call.readCall ["renameColumn"] Call.twoQuoted?) := by
  refine isReader_readCall (by decide) fun subject hsubject => ?_
  cases subject with
  | table | column | index | foreignKey => cases hsubject
  | rename source behind front target =>
    refine ⟨(source.name, target.name), fun rest => ?_⟩
    have htext : (Subject.rename source behind front target).arguments ++ rest =
        source.text ++ (behind.val ++ ',' :: (front.val ++ (target.text ++ rest))) := by
      simp [Subject.arguments]
    have hcomma : skipBlanks (behind.val ++ ',' :: (front.val ++ (target.text ++ rest))) =
        ',' :: (front.val ++ (target.text ++ rest)) := by
      rw [skipBlanks_append behind.2, skipBlanks_cons_of_not_isBlank (by decide)]
    have htarget : skipBlanks (front.val ++ (target.text ++ rest)) = target.text ++ rest := by
      rw [skipBlanks_append front.2]
      exact skipBlanks_cons_of_not_isBlank (Call.isBlank_of_isQuote target.isQuote_opening) _
    have hexpect : ∀ cs, expect [','] (',' :: cs) = some cs := fun _ => rfl
    simp only [Call.twoQuoted?, Call.readNext, htext, source.readQuoted_text, hcomma, hexpect, htarget,
      target.readQuoted_text, Option.bind_eq_bind, Option.bind_some, Option.pure_def]

/-! ### Searches in the text of a call -/

namespace IsReader

variable (h : IsReader shape read) (call : DestructiveCall)

include h

/-- No call begins in what a call is called on. -/
theorem firstMatch_receiver_append {receiver : List Char}
    (hreceiver : ∀ c ∈ receiver, isReceiver c = true) {c : Char}
    (hc : c = 'S' ∨ c = '-') (rest : List Char) :
    firstMatch read (receiver ++ c :: rest) = firstMatch read (c :: rest) := by
  induction receiver with
  | nil => rfl
  | cons d receiver ih =>
    have hbegins := beginsDestructive_receiver (List.cons_ne_nil d receiver) hreceiver hc rest
    rw [List.cons_append] at hbegins ⊢
    rw [List.forall_mem_cons] at hreceiver
    rw [firstMatch_cons, h.eq_none hbegins, Option.none_or, ih hreceiver.2]

/-- What a reader finds in the text of a call it finds there whatever follows, and otherwise it goes on
behind the text. -/
theorem firstMatch_text_append (rest : List Char) :
    firstMatch read (call.text ++ rest) =
      (read (call.body ++ rest)).or (firstMatch read rest) := by
  obtain ⟨c, inner, hbody, hc, hinert⟩ := call.exists_body_eq
  rw [DestructiveCall.text, List.append_assoc, hbody, List.cons_append,
    h.firstMatch_receiver_append call.isReceiver_receiver hc, firstMatch_cons,
    firstMatch_append_of_inert h.eq_none hinert]

theorem exists_firstMatch (hshape : call.shape = shape) :
    ∃ found, ∀ rest, firstMatch read (call.text ++ rest) = some found := by
  obtain ⟨found, hfound⟩ := h.exists_found call hshape
  exact ⟨found, fun rest => by rw [h.firstMatch_text_append, hfound, Option.some_or]⟩

theorem firstMatch_of_ne (hshape : call.shape ≠ shape) (rest : List Char) :
    firstMatch read (call.text ++ rest) = firstMatch read rest := by
  rw [h.firstMatch_text_append, h.eq_none_of_ne call hshape, Option.none_or]

end IsReader

end DestructiveShape

end MigrationPreview
