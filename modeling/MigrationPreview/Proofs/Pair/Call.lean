import MigrationPreview.Proofs.Comment.Reader
import MigrationPreview.Proofs.Name.Reader

/-!
# Destructive calls

The calls that drop or rename something, with everything that may vary in their text: what stands in front
of them, the blanks, the kinds of quotes and what follows the arguments that count. No call may begin
within one of their names, so that no other call begins in the text of a call, whatever follows it.

## Main definitions

* `opensCall`, `beginsDestructive`: a call up to its parenthesis, and one that counts here
* `Inert`: texts in which no such call begins
* `DestructiveCall`: a call with its text and its shape

## Main results

* `DestructiveCall.exists_body_eq`: in the text of a call no other call begins
* `beginsDestructive_receiver`: nor in what stands in front of it
-/

namespace MigrationPreview

open Text

variable {cs ds : List Char} {methods : List String}

/-! ### Where calls begin -/

/-- Whether a text begins with `word`, one of the methods and a parenthesis. -/
def opensCall (word : List Char) (methods : List String) (cs : List Char) : Bool :=
  ((expect word cs).bind Call.readOpening).any fun call => methods.contains call.1

/-- The methods of a table that drop or rename something. -/
def destructiveMethods : List String := ["dropColumn", "renameColumn", "dropIndex", "dropForeign"]

/-- Whether a text begins with the opening of a call on the schema or of a destructive method. -/
def beginsDestructive (cs : List Char) : Bool :=
  opensCall "Schema::".toList ["create", "table", "drop", "dropIfExists"] cs ||
    opensCall "->".toList destructiveMethods cs

theorem opensCall_cons_of_ne {w c : Char} {word : List Char} (h : c ≠ w) (cs : List Char) :
    opensCall (w :: word) methods (c :: cs) = false := by
  rw [opensCall, expect, if_neg h.symm]
  rfl

theorem beginsDestructive_cons_of_ne {c : Char} (h : c ≠ 'S' ∧ c ≠ '-') (cs : List Char) :
    beginsDestructive (c :: cs) = false := by
  have hschema : opensCall "Schema::".toList ["create", "table", "drop", "dropIfExists"] (c :: cs) =
      false := opensCall_cons_of_ne h.1 cs
  have harrow : opensCall "->".toList destructiveMethods (c :: cs) = false :=
    opensCall_cons_of_ne h.2 cs
  rw [beginsDestructive, hschema, harrow]
  rfl

/-- A method without quotes that is read in front of a quote is read without it: the method ends before the
quote, and so does its parenthesis. -/
theorem exists_readOpening_of_append_quote {quote : Char} (hquote : Call.isQuote quote = true)
    {rest arguments : List Char} {method : String}
    (h : Call.readOpening (cs ++ quote :: rest) = some (method, arguments))
    (hplain : ∀ c ∈ method.toList, Call.isQuote c = false) :
    ∃ inner, Call.readOpening cs = some (method, inner) := by
  obtain ⟨hparen, hname⟩ := Call.paren_of_readOpening h
  rw [hname] at hplain
  have hne : quote ≠ '(' := by
    rintro rfl
    exact absurd hquote (by decide)
  by_cases hdrop : cs.dropWhile Call.inName = []
  · -- the quote would be part of the method
    have hin : ∀ c ∈ cs, Call.inName c = true := by simpa using hdrop
    have hquoteIn : Call.inName quote = true := by
      simp [Call.inName, Call.isBlank_of_isQuote hquote, hne]
    rw [List.takeWhile_append_of_pos hin, List.takeWhile_cons_of_pos hquoteIn] at hplain
    rw [hplain quote (by simp)] at hquote
    exact absurd hquote (by decide)
  rw [Call.dropWhile_append_of_ne_nil hdrop] at hparen
  rw [Call.takeWhile_append_of_ne_nil hdrop] at hname
  cases hskip : skipBlanks (cs.dropWhile Call.inName) with
  | nil =>
    -- the quote would be the parenthesis
    rw [Call.skipBlanks_append_of_eq_nil hskip,
      skipBlanks_cons_of_not_isBlank (Call.isBlank_of_isQuote hquote)] at hparen
    exact absurd (Option.some_inj.mp hparen) hne
  | cons c behind =>
    rw [Call.skipBlanks_append_of_ne_nil (by simp [hskip]), hskip] at hparen
    obtain rfl : c = '(' := Option.some_inj.mp hparen
    rw [Call.readOpening_of_paren hskip, ← hname, String.ofList_toList]
    exact ⟨_, rfl⟩

/-- What opens in front of a quote opens without it. -/
theorem opensCall_append_quote {quote : Char} {word : List Char}
    (hquote : Call.isQuote quote = true) (hword : ∀ c ∈ word, Call.isQuote c = false)
    (hmethods : ∀ m ∈ methods, ∀ c ∈ m.toList, Call.isQuote c = false)
    (h : opensCall word methods cs = false) (rest : List Char) :
    opensCall word methods (cs ++ quote :: rest) = false := by
  have hnot : ∀ c, (quote :: rest).head? = some c → c ∉ word := by
    intro c hc hmem
    rw [← Option.some_inj.mp hc] at hmem
    rw [hword quote hmem] at hquote
    exact absurd hquote (by decide)
  rw [opensCall] at h ⊢
  rw [Call.expect_append_of_notMem hnot]
  cases hexpect : expect word cs with
  | none => rfl
  | some ds =>
    rw [hexpect, Option.bind_some] at h
    rw [Option.map_some, Option.bind_some]
    cases hread : Call.readOpening (ds ++ quote :: rest) with
    | none => rfl
    | some call =>
      obtain ⟨method, arguments⟩ := call
      refine Bool.eq_false_iff.mpr fun hmethod => ?_
      have hmem : method ∈ methods := by simpa using hmethod
      obtain ⟨inner, hinner⟩ := exists_readOpening_of_append_quote hquote hread (hmethods method hmem)
      rw [hinner] at h
      simp [hmem] at h

/-- No call that begins in front of a quote goes on behind it. -/
theorem beginsDestructive_append_quote {quote : Char} (hquote : Call.isQuote quote = true)
    (h : beginsDestructive cs = false) (rest : List Char) :
    beginsDestructive (cs ++ quote :: rest) = false := by
  rw [beginsDestructive, Bool.or_eq_false_iff] at h ⊢
  exact ⟨opensCall_append_quote hquote (by decide) (by decide) h.1 rest,
    opensCall_append_quote hquote (by decide) (by decide) h.2 rest⟩

/-! ### Inert texts -/

/-- No call begins in a text, whatever follows it. -/
def Inert : List Char → Prop
  | [] => True
  | c :: cs => (∀ rest, beginsDestructive (c :: (cs ++ rest)) = false) ∧ Inert cs

theorem Inert.append (hcs : Inert cs) (hds : Inert ds) : Inert (cs ++ ds) := by
  induction cs with
  | nil => exact hds
  | cons c cs ih =>
    refine ⟨fun rest => ?_, ih hcs.2⟩
    have hinert := hcs.1 (ds ++ rest)
    rwa [← List.append_assoc] at hinert

theorem inert_of_forall (h : ∀ c ∈ cs, c ≠ 'S' ∧ c ≠ '-') : Inert cs := by
  induction cs with
  | nil => trivial
  | cons c cs ih =>
    obtain ⟨hc, hcs⟩ := List.forall_mem_cons.mp h
    exact ⟨fun rest => beginsDestructive_cons_of_ne hc _, ih hcs⟩

theorem inert_of_all_isBlank (h : cs.all isBlank = true) : Inert cs := by
  refine inert_of_forall fun c hc => ?_
  have hblank := List.all_eq_true.mp h c hc
  exact ⟨ne_of_isBlank hblank (by decide), ne_of_isBlank hblank (by decide)⟩

/-- A name with its closing quote is inert if no call begins in the name. -/
theorem inert_append_quote {quote : Char} (hquote : Call.isQuote quote = true)
    (h : ∀ ds ∈ cs.tails, beginsDestructive ds = false) : Inert (cs ++ [quote]) := by
  induction cs with
  | nil =>
    refine inert_of_forall fun c hc => ?_
    rw [List.mem_singleton.mp hc]
    constructor <;>
    · rintro rfl
      exact absurd hquote (by decide)
  | cons c cs ih =>
    rw [List.tails_cons, List.forall_mem_cons] at h
    refine ⟨fun rest => ?_, ih h.2⟩
    have hbegins := beginsDestructive_append_quote hquote h.1 rest
    rwa [show c :: cs ++ quote :: rest = c :: (cs ++ [quote] ++ rest) by simp] at hbegins

/-- A reader that finds something only where a call begins passes over an inert text. -/
theorem firstMatch_append_of_inert {α : Type} {read : List Char → Option α}
    (hread : ∀ {cs}, beginsDestructive cs = false → read cs = none) (h : Inert cs) (rest : List Char) :
    firstMatch read (cs ++ rest) = firstMatch read rest := by
  induction cs with
  | nil => rfl
  | cons c cs ih =>
    rw [List.cons_append, firstMatch_cons, hread (h.1 rest), Option.none_or, ih h.2]

/-! ### The text of destructive calls -/

/-- Some blanks, perhaps none. -/
abbrev Blanks := { cs : List Char // cs.all isBlank = true }

/-- A name in quotes, in which no call begins. -/
structure QuotedName where
  opening : Char
  name : String
  closing : Char
  isQuote_opening : Call.isQuote opening = true
  isQuote_closing : Call.isQuote closing = true
  isName : IsName name
  inert : ∀ cs ∈ name.toList.tails, beginsDestructive cs = false

/-- A name with its quotes. -/
def QuotedName.text (quoted : QuotedName) : List Char :=
  quoted.opening :: (quoted.name.toList ++ [quoted.closing])

/-- A part of the arguments of a call. -/
inductive ArgumentPiece where
  | mark (c : Char) (h : isBlank c = true ∨ c ∈ [',', '[', ']'])
  | name (quoted : QuotedName)

/-- The text of a part. -/
def ArgumentPiece.text : ArgumentPiece → List Char
  | .mark c _ => [c]
  | .name quoted => quoted.text

/-- What is dropped: something with a name, or whatever covers some columns. -/
inductive Operand where
  | name (quoted : QuotedName)
  | list (items : List ArgumentPiece)

namespace Operand

/-- The text of an operand. -/
def text : Operand → List Char
  | .name quoted => quoted.text
  | .list items => '[' :: (items.flatMap ArgumentPiece.text ++ [']'])

/-- The argument that an operand is read as. A list ends at its first bracket. -/
def argument : Operand → Call.Argument
  | .name quoted => .name quoted.name
  | .list items => .list (Call.quotedItems ((items.flatMap ArgumentPiece.text).takeWhile (· != ']')))

end Operand

/-- The shapes of call that drop or rename something. A table is dropped in the same way whether it has to
exist or not. -/
inductive DestructiveShape where
  | table
  | column
  | rename
  | index
  | foreignKey
  deriving DecidableEq

/-- The method of the calls of a shape; a table may also be dropped with `dropIfExists`. -/
def DestructiveShape.method : DestructiveShape → String
  | .table => "drop"
  | .column => "dropColumn"
  | .rename => "renameColumn"
  | .index => "dropIndex"
  | .foreignKey => "dropForeign"

/-- What a call drops or renames, and how. -/
inductive Subject where
  | table (ifExists : Bool) (name : QuotedName)
  | column (operand : Operand)
  | rename (source : QuotedName) (behind front : Blanks) (target : QuotedName)
  | index (operand : Operand)
  | foreignKey (operand : Operand)

namespace Subject

/-- The shape of the call. -/
def shape : Subject → DestructiveShape
  | .table _ _ => .table
  | .column _ => .column
  | .rename _ _ _ _ => .rename
  | .index _ => .index
  | .foreignKey _ => .foreignKey

/-- What stands in front of the method. -/
def word (subject : Subject) : List Char :=
  if subject.shape = .table then "Schema::".toList else "->".toList

/-- The method that is called. -/
def method : Subject → String
  | .table true _ => "dropIfExists"
  | subject => subject.shape.method

/-- The text of the arguments that count. -/
def arguments : Subject → List Char
  | .table _ name => name.text
  | .column operand | .index operand | .foreignKey operand => operand.text
  | .rename source behind front target =>
    source.text ++ behind.val ++ ',' :: (front.val ++ target.text)

end Subject

/-- The characters of what a call is called on. -/
def isReceiver (c : Char) : Bool := isWord c || c == '$' || c == '\\' || isBlank c

/-- A whole statement that drops or renames something, with what may vary in its text. -/
structure DestructiveCall where
  /-- The variable of the table with the blanks in front of the arrow, or the namespace of the schema. -/
  receiver : List Char
  isReceiver_receiver : ∀ c ∈ receiver, isReceiver c = true
  isBlank_receiver : ∀ c ∈ receiver.head?, isBlank c = false
  subject : Subject
  /-- The blanks in front of the parenthesis, behind it and behind the closing one. -/
  front : Blanks
  behind : Blanks
  ending : Blanks
  /-- Whatever follows the arguments that count. -/
  more : List ArgumentPiece

namespace DestructiveCall

/-- The shape of a call. -/
def shape (call : DestructiveCall) : DestructiveShape := call.subject.shape

/-- The text behind the arguments that count. -/
def tail (call : DestructiveCall) : List Char :=
  call.more.flatMap ArgumentPiece.text ++ ')' :: (call.ending.val ++ [';'])

/-- The text behind the word in front of the method. -/
def methodCall (call : DestructiveCall) : List Char :=
  call.subject.method.toList ++ call.front.val ++
    '(' :: (call.behind.val ++ call.subject.arguments ++ call.tail)

/-- The text of a call without what it is called on. -/
def body (call : DestructiveCall) : List Char := call.subject.word ++ call.methodCall

/-- The text of a call. -/
def text (call : DestructiveCall) : List Char := call.receiver ++ call.body

end DestructiveCall

/-! ### Inert parts -/

theorem QuotedName.inert_text (quoted : QuotedName) : Inert quoted.text := by
  have hopening : Inert [quoted.opening] := by
    refine inert_of_forall fun c hc => ?_
    rw [List.mem_singleton.mp hc]
    have hquote := quoted.isQuote_opening
    constructor <;>
    · intro heq
      rw [heq] at hquote
      exact absurd hquote (by decide)
  exact hopening.append (inert_append_quote quoted.isQuote_closing quoted.inert)

theorem inert_pieces (pieces : List ArgumentPiece) : Inert (pieces.flatMap ArgumentPiece.text) := by
  induction pieces with
  | nil => trivial
  | cons piece pieces ih =>
    rw [List.flatMap_cons]
    refine Inert.append ?_ ih
    cases piece with
    | name quoted => exact quoted.inert_text
    | mark c h =>
      refine inert_of_forall fun d hd => ?_
      rw [List.mem_singleton.mp hd]
      constructor <;>
      · rintro rfl
        exact absurd h (by decide)

theorem Operand.inert_text (operand : Operand) : Inert operand.text := by
  cases operand with
  | name quoted => exact quoted.inert_text
  | list items =>
    have hopening : Inert ['['] := inert_of_forall (by decide)
    exact hopening.append ((inert_pieces items).append (inert_of_forall (by decide)))

theorem Subject.method_mem (subject : Subject) :
    subject.method ∈ "drop" :: "dropIfExists" :: destructiveMethods := by
  cases subject with
  | table ifExists => cases ifExists <;> simp [method, shape, DestructiveShape.method]
  | column | rename | index | foreignKey =>
    simp [method, shape, DestructiveShape.method, destructiveMethods]

/-- Apart from tables, the method of a call gives its shape. -/
theorem Subject.shape_eq_iff {subject : Subject} {shape : DestructiveShape} (h : shape ≠ .table) :
    subject.shape = shape ↔ subject.method = shape.method := by
  cases shape with
  | table => exact absurd rfl h
  | column | rename | index | foreignKey =>
    cases subject with
    | table ifExists => cases ifExists <;> simp [method, Subject.shape, DestructiveShape.method]
    | column | rename | index | foreignKey =>
      simp [method, Subject.shape, DestructiveShape.method]

theorem Subject.inert_arguments (subject : Subject) : Inert subject.arguments := by
  cases subject with
  | table ifExists name => exact name.inert_text
  | column operand | index operand | foreignKey operand => exact operand.inert_text
  | rename source behind front target =>
    have hcomma : Inert [','] := inert_of_forall (by decide)
    exact (source.inert_text.append (inert_of_all_isBlank behind.2)).append
      (hcomma.append ((inert_of_all_isBlank front.2).append target.inert_text))

namespace DestructiveCall

variable (call : DestructiveCall)

theorem inert_methodCall : Inert call.methodCall := by
  have hmethods : ∀ m ∈ "drop" :: "dropIfExists" :: destructiveMethods, ∀ c ∈ m.toList,
      c ≠ 'S' ∧ c ≠ '-' := by decide
  have hmethod : Inert call.subject.method.toList :=
    inert_of_forall (hmethods _ call.subject.method_mem)
  have hparen : Inert ['('] := inert_of_forall (by decide)
  have hclosing : Inert [')'] := inert_of_forall (by decide)
  have htail : Inert call.tail :=
    (inert_pieces call.more).append
      (hclosing.append ((inert_of_all_isBlank call.ending.2).append (inert_of_forall (by decide))))
  exact (hmethod.append (inert_of_all_isBlank call.front.2)).append
    (hparen.append (((inert_of_all_isBlank call.behind.2).append
      call.subject.inert_arguments).append htail))

/-- Behind its first character the text of a call is inert. -/
theorem exists_body_eq : ∃ c inner, call.body = c :: inner ∧ (c = 'S' ∨ c = '-') ∧ Inert inner := by
  have hschema : Inert "chema::".toList := inert_of_forall (by decide)
  have harrow : Inert ['>'] := inert_of_forall (by decide)
  rw [body]
  cases call.subject with
  | table => exact ⟨'S', _, rfl, .inl rfl, hschema.append call.inert_methodCall⟩
  | column | rename | index | foreignKey =>
    exact ⟨'-', _, rfl, .inr rfl, harrow.append call.inert_methodCall⟩

end DestructiveCall

/-- No call begins in what a call is called on: neither a word nor a namespace holds the marks of one. -/
theorem beginsDestructive_receiver {receiver : List Char} (hne : receiver ≠ [])
    (hreceiver : ∀ c ∈ receiver, isReceiver c = true) {c : Char}
    (hc : c = 'S' ∨ c = '-') (rest : List Char) :
    beginsDestructive (receiver ++ c :: rest) = false := by
  have hcolon : ':' ∉ receiver := fun hmem => absurd (hreceiver ':' hmem) (by decide +kernel)
  cases receiver with
  | nil => exact absurd rfl hne
  | cons d receiver =>
    have hd : d ≠ '-' := by
      rintro rfl
      exact absurd (hreceiver '-' List.mem_cons_self) (by decide +kernel)
    have harrow : opensCall "->".toList destructiveMethods (d :: receiver ++ c :: rest) = false :=
      opensCall_cons_of_ne hd _
    have hexpect : expect "Schema::".toList (d :: receiver ++ c :: rest) = none := by
      cases hread : expect "Schema::".toList (d :: receiver ++ c :: rest) with
      | none => rfl
      | some behind =>
        rcases List.append_eq_append_iff.mp (eq_append_of_expect hread) with
          ⟨word, hword, hbehind⟩ | ⟨more, htext, -⟩
        · cases word with
          | nil =>
            rw [List.append_nil] at hword
            rw [← hword] at hcolon
            exact absurd hcolon (by decide)
          | cons e word =>
            -- the word goes on with the first character of the call, which stands in it only in front
            obtain rfl : c = e := (List.cons.inj hbehind).1
            have htail : "chema::".toList = receiver ++ c :: word := (List.cons.inj hword).2
            have hmem : c ∈ "chema::".toList := by simp [htail]
            rcases hc with rfl | rfl <;> exact absurd hmem (by decide)
        · rw [htext] at hcolon
          exact absurd (List.mem_append_left more (by decide)) hcolon
    rw [beginsDestructive, harrow, opensCall, hexpect]
    rfl

end MigrationPreview
