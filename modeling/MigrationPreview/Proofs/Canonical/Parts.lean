import MigrationPreview.Proofs.Call
import MigrationPreview.Proofs.Canonical.Syntax

/-!
# The parts of a canonical statement

A canonical statement is put together from quoted names, plain methods and a few marks. A property of
texts that holds of these parts and of every concatenation holds of the statement. The characters that
may occur, the braces that match and the signatures that are not there are all found in this way.

## Main results

* `Canonical.Compositional`: properties that hold of quoted names and of concatenations
* `Canonical.Compositional.render`, `Canonical.Compositional.bodyText`: such a property holds of a
  statement and of a body if it holds of their other parts
* `Canonical.compositional_forall`: properties of all characters
-/

namespace MigrationPreview.Canonical

open Text

/-! ### Characters of names -/

theorem isWord_of_isNameChar {c : Char} (h : isNameChar c = true) : isWord c = true := by
  simp only [isNameChar, Bool.or_eq_true] at h
  simp only [isWord, Bool.or_eq_true]
  exact .inl h

theorem not_isBlank_of_isNameChar {c : Char} (h : isNameChar c = true) : isBlank c = false := by
  by_contra hblank
  have hword := isWord_of_isBlank (by simpa using hblank)
  rw [isWord_of_isNameChar h] at hword
  simp at hword

/-- A character that is not a name character is not in a name. -/
theorem ne_of_isNameChar {c d : Char} (h : isNameChar c = true) (hd : isNameChar d = false) :
    c ≠ d := by
  rintro rfl
  rw [h] at hd
  simp at hd

namespace Name

variable (name : Name)

theorem isNameChar_of_mem {c : Char} (h : c ∈ name.chars) : isNameChar c = true :=
  List.all_eq_true.mp name.all_isNameChar c h

theorem not_isQuote_of_mem {c : Char} (h : c ∈ name.chars) : (!Call.isQuote c) = true := by
  have hc := name.isNameChar_of_mem h
  simp [Call.isQuote, ne_of_isNameChar hc (d := '\x27') (by decide),
    ne_of_isNameChar hc (d := '"') (by decide)]

end Name

/-- The method of a call is a plain name. -/
theorem Link.isNameChar_of_mem (link : Link) {c : Char} (h : c ∈ link.method.toList) :
    isNameChar c = true :=
  List.all_eq_true.mp link.isPlain.2 c h

/-! ### Rendering -/

@[simp] theorem Operand.render_one (name : Name) : (one name).render = name.quoted := rfl

@[simp] theorem Arguments.render_none : none.render = [] := rfl

@[simp] theorem Arguments.render_one (operand : Operand) : (one operand).render = operand.render :=
  rfl

@[simp] theorem Arguments.render_two (operand : Operand) (name : Name) :
    (two operand name).render = operand.render ++ separator ++ name.quoted := rfl

theorem intercalate_concat (sep last : List Char) (lines : List (List Char)) :
    sep.intercalate (lines ++ [last]) = lines.flatMap (· ++ sep) ++ last := by
  induction lines with
  | nil => exact List.intercalate_singleton
  | cons line lines ih =>
    rw [List.cons_append, List.intercalate_cons_of_ne_nil (by simp), ih, List.flatMap_cons,
      List.append_assoc (line ++ sep)]

/-- The lines of a statement, each with its line break. -/
def Statement.text (statement : Statement) : List Char := statement.lines.flatMap (· ++ ['\n'])

/-- The text of a body: its lines and what stands in front of its closing brace. -/
theorem bodyText_eq (statements : List Statement) :
    bodyText statements = ['\n'] ++ (statements.flatMap Statement.text ++ lastLine) := by
  rw [bodyText, intercalate_concat, List.flatMap_cons, List.flatMap_assoc]
  rfl

/-! ### Properties of the parts -/

/-- The characters that stand in arguments apart from quoted names. -/
def argumentMarks : List Char := [',', ' ', '[', ']']

/-- The characters that stand in a statement apart from quoted names and methods. -/
def statementMarks : List Char := BlockStatement.receiver ++ ['-', '>', ')', ';'] ++ argumentMarks

/-- The texts that are the same in all bodies. -/
def fixedParts : List (List Char) :=
  [['\n'], Statement.margin, BlockStatement.indentation, Statement.schema, Statement.callback,
    Statement.ending, lastLine]

/-- A property of texts that holds of quoted names and of every concatenation. -/
structure Compositional (P : List Char → Prop) : Prop where
  nil : P []
  append {cs ds : List Char} : P cs → P ds → P (cs ++ ds)
  quoted (name : Name) : P name.quoted

/-- A property of all characters, if it holds of those of quoted names. -/
theorem compositional_forall {p : Char → Prop} (hname : ∀ c, isNameChar c = true → p c)
    (hquote : p '\x27') : Compositional fun cs => ∀ c ∈ cs, p c where
  nil := by simp
  append hcs hds c hc := (List.mem_append.mp hc).elim (hcs c) (hds c)
  quoted name c hc := by
    simp only [Name.quoted, List.mem_append, List.mem_cons, List.not_mem_nil, or_false] at hc
    rcases hc with (rfl | hc) | rfl
    · exact hquote
    · exact hname c (name.isNameChar_of_mem hc)
    · exact hquote

namespace Compositional

variable {P : List Char → Prop} (h : Compositional P)

include h

theorem of_forall {cs : List Char} (hcs : ∀ c ∈ cs, P [c]) : P cs := by
  induction cs with
  | nil => exact h.nil
  | cons c cs ih =>
    exact h.append (hcs c List.mem_cons_self) (ih fun d hd => hcs d (List.mem_cons_of_mem _ hd))

theorem flatMap {β : Type} {f : β → List Char} {xs : List β} (hf : ∀ x ∈ xs, P (f x)) :
    P (xs.flatMap f) := by
  induction xs with
  | nil => exact h.nil
  | cons x xs ih =>
    exact h.append (hf x List.mem_cons_self) (ih fun y hy => hf y (List.mem_cons_of_mem _ hy))

theorem intercalate (hsep : P separator) (names : List Name) :
    P (separator.intercalate (names.map Name.quoted)) := by
  refine intercalate_of_append h.nil h.append hsep fun cs hcs => ?_
  obtain ⟨name, -, rfl⟩ := List.mem_map.mp hcs
  exact h.quoted name

theorem arguments (hmarks : ∀ c ∈ argumentMarks, P [c]) (arguments : Arguments) :
    P arguments.render := by
  have hsep : P separator := h.of_forall fun c hc => hmarks c (List.mem_append_left ['[', ']'] hc)
  have hoperand : ∀ operand : Operand, P operand.render := by
    rintro (name | names)
    · exact h.quoted name
    · have hopen : P ['['] := hmarks _ (by decide)
      exact h.append (h.append hopen (h.intercalate hsep names.toList)) (hmarks _ (by decide))
  cases arguments with
  | none => exact h.nil
  | one operand => exact hoperand operand
  | two operand name => exact h.append (h.append (hoperand operand) hsep) (h.quoted name)

/-- A property holds of a statement if it holds of the methods with their parentheses and of all
marks. -/
theorem render (hmethod : ∀ cs, (∀ c ∈ cs, isNameChar c = true) → P (cs ++ ['(']))
    (hmarks : ∀ c ∈ statementMarks, P [c]) (statement : BlockStatement) : P statement.render := by
  have harrow : P "->".toList := h.of_forall fun c hc => hmarks c (by revert c; decide)
  have harguments := h.arguments fun c hc => hmarks c (List.mem_append_right _ hc)
  have hlink : ∀ link : Link, P link.render := by
    intro link
    have htext : link.render =
        "->".toList ++ (link.method.toList ++ ['(']) ++ link.arguments.render ++ [')'] := by
      rw [Link.render]
      simp only [List.append_assoc, List.cons_append, List.nil_append]
    rw [htext]
    exact h.append (h.append (h.append harrow (hmethod _ fun _ => link.isNameChar_of_mem))
      (harguments link.arguments)) (hmarks _ (by decide))
  have hreceiver : P BlockStatement.receiver :=
    h.of_forall fun c hc => hmarks c (List.mem_append_left _ (List.mem_append_left _ hc))
  exact h.append hreceiver (h.append (h.flatMap fun link _ => hlink link) (hmarks _ (by decide)))

/-- A property holds of a call on the schema if it holds of what stands around the method and the
table. -/
theorem call {method : String} (hmethod : P (method.toList ++ ['('])) (hschema : P Statement.schema)
    (table : Name) {ending : List Char} (hending : P ending) :
    P (Statement.call method table ending) := by
  have htext : Statement.call method table ending =
      Statement.schema ++ (method.toList ++ ['(']) ++ table.quoted ++ ending := by
    simp only [Statement.call, List.append_assoc, List.cons_append, List.nil_append]
  rw [htext]
  exact h.append (h.append (h.append hschema hmethod) (h.quoted table)) hending

/-- A property holds of the body of a method if it holds of the parts of its lines and of a text
between braces whenever it holds of the text. -/
theorem bodyText (hmethod : ∀ cs, (∀ c ∈ cs, isNameChar c = true) → P (cs ++ ['(']))
    (hmarks : ∀ c ∈ statementMarks, P [c]) (hfixed : ∀ cs ∈ fixedParts, P cs)
    (hblock : ∀ cs, P cs → P ('\x7b' :: cs ++ ['\x7d'])) (statements : List Statement) :
    P (bodyText statements) := by
  have hbreak : P ['\n'] := hfixed _ (by simp [fixedParts])
  have hmargin : P Statement.margin := hfixed _ (by simp [fixedParts])
  have hindentation : P BlockStatement.indentation := hfixed _ (by simp [fixedParts])
  have hschema : P Statement.schema := hfixed _ (by simp [fixedParts])
  have hcallback : P Statement.callback := hfixed _ (by simp [fixedParts])
  have hending : P Statement.ending := hfixed _ (by simp [fixedParts])
  have htext : ∀ statement : Statement, P statement.text := by
    rintro (⟨create, table, statements⟩ | ⟨ifExists, table⟩)
    · have hname : ∀ c ∈ (Statement.blockMethod create).toList, isNameChar c = true := by
        cases create <;> decide
      have hlines : P ((statements.map fun statement =>
          BlockStatement.indentation ++ statement.render).flatMap (· ++ ['\n'])) := by
        refine h.flatMap fun line hline => ?_
        obtain ⟨statement, -, rfl⟩ := List.mem_map.mp hline
        exact h.append (h.append hindentation (h.render hmethod hmarks statement)) hbreak
      -- the block of the table is what stands between the two braces
      have htable := h.append (hblock _ (h.append (h.append hbreak hlines) hmargin))
        (h.append hending hbreak)
      convert h.append hmargin (h.call (hmethod _ hname) hschema table (h.append hcallback htable))
        using 1
      simp only [Statement.text, Statement.lines, Statement.call, Statement.opening,
        Statement.closing, List.flatMap_cons, List.flatMap_append, List.flatMap_nil,
        List.append_assoc, List.cons_append, List.nil_append, List.append_nil]
    · have hname : ∀ c ∈ (Statement.dropMethod ifExists).toList, isNameChar c = true := by
        cases ifExists <;> decide
      convert h.append hmargin (h.call (hmethod _ hname) hschema table (h.append hending hbreak))
        using 1
      simp only [Statement.text, Statement.lines, Statement.call, List.flatMap_cons,
        List.flatMap_nil, List.append_assoc, List.cons_append, List.append_nil]
  rw [bodyText_eq]
  exact h.append hbreak (h.append (h.flatMap fun statement _ => htext statement)
    (hfixed _ (by simp [fixedParts])))

end Compositional

/-- A statement in a block holds no character apart from those of its parts. -/
theorem notMem_render {c : Char} (hname : isNameChar c = false)
    (hmarks : c ∉ ['\x27', '('] ++ statementMarks) (statement : BlockStatement) :
    c ∉ statement.render := by
  have hcompositional : Compositional fun cs => ∀ d ∈ cs, d ≠ c :=
    compositional_forall (fun d hd => ne_of_isNameChar hd hname) fun heq => hmarks (by simp [← heq])
  have hall := hcompositional.render ?_ ?_ statement
  · exact fun hmem => hall c hmem rfl
  · intro cs hcs d hd
    rcases List.mem_append.mp hd with hd | hd
    · exact ne_of_isNameChar (hcs d hd) hname
    · obtain rfl := List.mem_singleton.mp hd
      rintro rfl
      exact hmarks (by simp)
  · intro d hd e he
    obtain rfl := List.mem_singleton.mp he
    rintro rfl
    exact hmarks (List.mem_append_right _ hd)

end MigrationPreview.Canonical
