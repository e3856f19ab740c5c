import Mathlib.Data.List.Perm.Basic
import MigrationPreview.Destructive
import MigrationPreview.Proofs.Comment.Line
import MigrationPreview.Proofs.Pair.Reader
import MigrationPreview.Proofs.Walk

/-!
# Destructive calls on one line

What a line asks for is searched for shape by shape, and of each shape only the first call counts. Two
destructive calls on one line therefore ask for the same as on two lines if their shapes differ. If the
shapes are the same, the second call is as good as not there.

Which destructive operations the lines of a body ask for depends on the trimmed lines alone: the tables that
they open, and the calls on each of them.

## Main definitions

* `destructiveDrafts`: the destructive drafts of a line, shape by shape
* `destructiveOfLines`: the destructive drafts of the lines of a body
* `destructiveOf`: the destructive ones among some operations, whatever their lines

## Main results

* `destructiveOf_operationsOfLines`: the walk over a body gives the destructive drafts of its lines
* `perm_destructiveDrafts`, `destructiveDrafts_eq`: two calls on one line
* `MethodBody.destructiveOf_joined`: two lines of a body put on one line
-/

namespace MigrationPreview

open Text

variable {table : Option String} {rest : List Char} {shape : DestructiveShape}

/-! ### Drafts by shape -/

namespace DestructiveShape

/-- All shapes, in the order in which they are looked for. -/
def all : List DestructiveShape := [.table, .column, .rename, .index, .foreignKey]

/-- What a line asks for in calls of one shape. -/
def drafts : DestructiveShape → Option String → List Char → List Draft
  | .table, _, line => (tableDraft? line).toList.filter (·.action = .drop)
  | .column, some table, line => columnDrops table line
  | .rename, some table, line => (columnRename? table line).toList
  | .index, some table, line => (indexDrop? table line).toList
  | .foreignKey, some table, line => (foreignKeyDrop? table line).toList
  | _, none, _ => []

/-- All searches for calls of a shape find the same in two texts. -/
def SameCalls (shape : DestructiveShape) (x y : List Char) : Prop :=
  ∀ ⦃α : Type⦄ ⦃read : List Char → Option α⦄, shape.IsReader read →
    firstMatch read x = firstMatch read y

variable {x y : List Char}

theorem SameCalls.drafts_eq (h : shape.SameCalls x y) (table : Option String) :
    shape.drafts table x = shape.drafts table y := by
  cases shape with
  | table =>
    rw [drafts, drafts, tableDraft?, tableDraft?, schemaCall?, schemaCall?, h isReader_readSchemaCall]
  | column =>
    have hcall : Call.find? ["dropColumn"] Call.argument? x = Call.find? ["dropColumn"] Call.argument? y :=
      h (isReader_argument? (by decide))
    cases table with
    | none => rfl
    | some table => rw [drafts, drafts, columnDrops, columnDrops, hcall]
  | rename =>
    have hcall : Call.find? ["renameColumn"] Call.twoQuoted? x =
        Call.find? ["renameColumn"] Call.twoQuoted? y := h isReader_twoQuoted?
    cases table with
    | none => rfl
    | some table => rw [drafts, drafts, columnRename?, columnRename?, hcall]
  | index =>
    have hcall : Call.find? ["dropIndex"] Call.argument? x = Call.find? ["dropIndex"] Call.argument? y :=
      h (isReader_argument? (by decide))
    cases table with
    | none => rfl
    | some table => rw [drafts, drafts, indexDrop?, indexDrop?, hcall]
  | foreignKey =>
    have hcall : Call.find? ["dropForeign"] Call.argument? x =
        Call.find? ["dropForeign"] Call.argument? y := h (isReader_argument? (by decide))
    cases table with
    | none => rfl
    | some table => rw [drafts, drafts, foreignKeyDrop?, foreignKeyDrop?, hcall]

theorem drafts_nil (shape : DestructiveShape) (table : Option String) : shape.drafts table [] = [] := by
  cases shape <;> cases table <;> rfl

/-- Behind a call of its own shape a search finds nothing more. -/
theorem drafts_text_append {call : DestructiveCall} (h : call.shape = shape) (table : Option String)
    (rest : List Char) : shape.drafts table (call.text ++ rest) = shape.drafts table call.text := by
  refine SameCalls.drafts_eq (fun α read hread => ?_) table
  obtain ⟨found, hfound⟩ := hread.exists_firstMatch call h
  rw [hfound, ← List.append_nil call.text, hfound]

/-- Behind a call of another shape a search goes on. -/
theorem drafts_text_append_of_ne {call : DestructiveCall} (h : call.shape ≠ shape)
    (table : Option String) (rest : List Char) :
    shape.drafts table (call.text ++ rest) = shape.drafts table rest :=
  SameCalls.drafts_eq (fun _ _ hread => hread.firstMatch_of_ne call h rest) table

theorem drafts_text_of_ne {call : DestructiveCall} (h : call.shape ≠ shape) (table : Option String) :
    shape.drafts table call.text = [] := by
  rw [← List.append_nil call.text, drafts_text_append_of_ne h, drafts_nil]

theorem drafts_append_of_blank {blanks : List Char} (h : blanks.all isBlank) (table : Option String)
    (rest : List Char) : shape.drafts table (blanks ++ rest) = shape.drafts table rest :=
  SameCalls.drafts_eq
    (fun _ _ hread => firstMatch_append_of_inert hread.eq_none (inert_of_all_isBlank h) rest) table

variable {first second : DestructiveCall} {blanks : List Char}

/-- Two calls of different shapes ask for what each of them asks for. -/
theorem drafts_pair (h : first.shape ≠ second.shape) (hblanks : blanks.all isBlank)
    (shape : DestructiveShape) (table : Option String) :
    shape.drafts table (first.text ++ (blanks ++ second.text)) =
      shape.drafts table first.text ++ shape.drafts table second.text := by
  by_cases hfirst : first.shape = shape
  · have hsecond : second.shape ≠ shape := fun heq => h (hfirst.trans heq.symm)
    rw [drafts_text_append hfirst, drafts_text_of_ne hsecond, List.append_nil]
  · rw [drafts_text_append_of_ne hfirst, drafts_append_of_blank hblanks, drafts_text_of_ne hfirst,
      List.nil_append]

/-- Two calls of one shape ask for what the first one asks for. -/
theorem drafts_pair_of_eq (h : first.shape = second.shape) (hblanks : blanks.all isBlank)
    (shape : DestructiveShape) (table : Option String) :
    shape.drafts table (first.text ++ (blanks ++ second.text)) = shape.drafts table first.text := by
  by_cases hfirst : first.shape = shape
  · exact drafts_text_append hfirst table _
  · rw [drafts_text_append_of_ne hfirst, drafts_append_of_blank hblanks,
      drafts_text_of_ne (h ▸ hfirst), drafts_text_of_ne hfirst]

end DestructiveShape

/-! ### Destructive drafts of a line -/

/-- What a line asks for in destructive calls. -/
def destructiveDrafts (table : Option String) (line : List Char) : List Draft :=
  DestructiveShape.all.flatMap (·.drafts table line)

variable {first second : DestructiveCall} {blanks : List Char}

/-- Two calls of different shapes on one line ask for the same as on two lines. -/
theorem perm_destructiveDrafts (h : first.shape ≠ second.shape) (hblanks : blanks.all isBlank)
    (table : Option String) :
    (destructiveDrafts table (first.text ++ (blanks ++ second.text))).Perm
      (destructiveDrafts table first.text ++ destructiveDrafts table second.text) := by
  rw [destructiveDrafts, destructiveDrafts, destructiveDrafts]
  simp only [DestructiveShape.drafts_pair h hblanks]
  exact (List.flatMap_append_perm _ _ _).symm

/-- Two calls of one shape on one line ask for what the first one asks for. -/
theorem destructiveDrafts_eq (h : first.shape = second.shape) (hblanks : blanks.all isBlank)
    (table : Option String) :
    destructiveDrafts table (first.text ++ (blanks ++ second.text)) =
      destructiveDrafts table first.text := by
  simp only [destructiveDrafts, DestructiveShape.drafts_pair_of_eq h hblanks]

/-- Whether a draft is destructive. -/
def Draft.isDestructive (draft : Draft) : Bool := (draft.toOperation .up 0).isDestructive

/-- Whether drafts are destructive depends on their kind and action alone. -/
theorem filter_isDestructive_eq (kind : ObjectKind) (action : Action) {drafts : List Draft}
    (h : ∀ draft ∈ drafts, draft.kind = kind ∧ draft.action = action) :
    drafts.filter (·.isDestructive) =
      if Draft.isDestructive ⟨kind, action, default⟩ then drafts else [] := by
  have hsame : ∀ draft ∈ drafts,
      draft.isDestructive = Draft.isDestructive ⟨kind, action, default⟩ := by
    intro draft hdraft
    obtain ⟨rfl, rfl⟩ := h draft hdraft
    rfl
  split
  · next hdestructive =>
    exact List.filter_eq_self.mpr fun draft hdraft => (hsame draft hdraft).trans hdestructive
  · next hharmless =>
    exact List.filter_eq_nil_iff.mpr fun draft hdraft => by rwa [hsame draft hdraft]

/-- What the shapes of call ask for within the block of a table. -/
theorem kind_action_of_mem (table : String) (line : List Char) (window : List (List Char)) :
    (∀ draft ∈ (columnModify? table line).toList, draft.kind = .column ∧ draft.action = .modify) ∧
      (∀ draft ∈ (columnAdd? table line).toList, draft.kind = .column ∧ draft.action = .add) ∧
      (∀ draft ∈ columnDrops table line, draft.kind = .column ∧ draft.action = .drop) ∧
      (∀ draft ∈ (columnRename? table line).toList, draft.kind = .column ∧ draft.action = .rename) ∧
      (∀ draft ∈ (indexAdd? table line).toList, draft.kind = .index ∧ draft.action = .add) ∧
      (∀ draft ∈ (indexDrop? table line).toList, draft.kind = .index ∧ draft.action = .drop) ∧
      (∀ draft ∈ (foreignKeyAdd? table line window).toList,
        draft.kind = .foreignKey ∧ draft.action = .add) ∧
      (∀ draft ∈ (foreignKeyDrop? table line).toList,
        draft.kind = .foreignKey ∧ draft.action = .drop) ∧
      ∀ kind, ∀ draft ∈ (settingChange? kind table line).toList,
        draft.kind = kind ∧ draft.action = .change := by
  simp only [Option.mem_toList, columnModify?, columnAdd?, columnDrops, columnRename?, indexAdd?,
    indexDrop?, foreignKeyAdd?, foreignKeyDrop?, settingChange?, Option.bind_eq_bind,
    Option.bind_eq_some_iff, Option.pure_def]
  refine ⟨?_, ?_, ?_, ?_, ?_, ?_, ?_, ?_, ?_⟩ <;> grind

/-- The destructive ones among the drafts of a line. -/
theorem filter_isDestructive_drafts (line : Line) :
    line.drafts.filter (·.isDestructive) = destructiveDrafts line.table line.text := by
  have htable : (tableDraft? line.text).toList.filter (·.isDestructive) =
      DestructiveShape.table.drafts line.table line.text := by
    refine List.filter_congr fun draft hdraft => ?_
    obtain ⟨call, -, h⟩ := Option.bind_eq_some_iff.mp (Option.mem_toList.mp hdraft)
    obtain rfl := Option.some_inj.mp h
    rw [Draft.isDestructive, Draft.toOperation, Operation.isDestructive]
    grind
  obtain ⟨text, context, window⟩ := line
  cases context with
  | none =>
    simp only [Line.drafts, List.append_nil, htable, destructiveDrafts, DestructiveShape.all,
      DestructiveShape.drafts, List.flatMap_cons, List.flatMap_nil]
  | some table =>
    obtain ⟨hmodified, hadded, hdropped, hrenamed, hindexed, hindexDropped, hreferenced,
      hforeignDropped, hsetting⟩ := kind_action_of_mem table text window
    have hnone : ∀ (p : Prop) [Decidable p] (drafts : List Draft),
        drafts.filter (·.isDestructive) = [] →
          (if p then drafts else []).filter (·.isDestructive) = [] := by
      intro p _ drafts h
      split
      · exact h
      · rfl
    have hmodify := filter_isDestructive_eq .column .modify hmodified
    have hadd := filter_isDestructive_eq .column .add hadded
    have hindex := filter_isDestructive_eq .index .add hindexed
    simp only [Line.drafts, Line.draftsIn, List.filter_append, htable, hmodify,
      hnone _ _ hadd, hnone _ _ hindex,
      filter_isDestructive_eq .column .drop hdropped,
      filter_isDestructive_eq .column .rename hrenamed,
      filter_isDestructive_eq .index .drop hindexDropped,
      filter_isDestructive_eq .foreignKey .add hreferenced,
      filter_isDestructive_eq .foreignKey .drop hforeignDropped,
      filter_isDestructive_eq .engine .change (hsetting .engine),
      filter_isDestructive_eq .charset .change (hsetting .charset),
      filter_isDestructive_eq .collation .change (hsetting .collation)]
    simp [Draft.isDestructive, Draft.toOperation, Operation.isDestructive, destructiveDrafts,
      DestructiveShape.all, DestructiveShape.drafts]

/-! ### The walk over a body -/

/-- An operation as if it stood on no line. -/
def Operation.withoutLine (op : Operation) : Operation := { op with line := 0 }

/-- The destructive ones among some operations, whatever their lines. -/
def destructiveOf (ops : List Operation) : List Operation :=
  (ops.filter (·.isDestructive)).map Operation.withoutLine

/-- What the lines of a body ask for in destructive calls, from a line in the block of `table` on. -/
def destructiveOfLines : Option String → List (List Char) → List Draft
  | _, [] => []
  | table, raw :: rest =>
    let text := trim raw
    if isPassedOver text then destructiveOfLines table rest
    else
      let table := openedTable? text <|> table
      destructiveDrafts table text ++ destructiveOfLines table rest

theorem destructiveOfLines_of_isPassedOver {raw : List Char} (h : isPassedOver (trim raw) = true)
    (table : Option String) (lines : List (List Char)) :
    destructiveOfLines table (raw :: lines) = destructiveOfLines table lines := if_pos h

/-- The step over a line that is read and opens no block. -/
theorem destructiveOfLines_cons {raw text : List Char} (htext : trim raw = text)
    (hread : isPassedOver text = false) (hopened : openedTable? text = none) (table : Option String)
    (lines : List (List Char)) :
    destructiveOfLines table (raw :: lines) =
      destructiveDrafts table text ++ destructiveOfLines table lines := by
  rw [destructiveOfLines, htext]
  simp [hread, hopened]

/-- The walk over a body gives the destructive drafts of its lines, whatever their numbers. -/
theorem destructiveOf_operationsOfLines (direction : Direction) (table : Option String) (number : Nat)
    (lines : List (List Char)) :
    destructiveOf (operationsOfLines direction table number lines) =
      (destructiveOfLines table lines).map (·.toOperation direction 0) := by
  have hline : ∀ (line : Line) (number : Nat),
      destructiveOf (line.drafts.map (·.toOperation direction number)) =
        (destructiveDrafts line.table line.text).map (·.toOperation direction 0) := by
    intro line number
    rw [destructiveOf, List.filter_map, List.map_map, ← filter_isDestructive_drafts]
    rfl
  induction lines generalizing table number with
  | nil => rfl
  | cons raw lines ih =>
    cases hpassed : isPassedOver (trim raw) with
    | true =>
      rw [operationsOfLines_of_isPassedOver hpassed, destructiveOfLines_of_isPassedOver hpassed, ih]
    | false =>
      rw [operationsOfLines_of_read rfl (.inl hpassed), destructiveOf, List.filter_append,
        List.map_append, ← destructiveOf, ← destructiveOf, hline, ih, ← List.map_append,
        destructiveOfLines]
      simp [hpassed]

/-- Bodies that go on in the same way ask for the same if they do so from some line on. -/
theorem perm_destructiveOfLines_append {lines lines' : List (List Char)}
    (h : ∀ table, (destructiveOfLines table lines).Perm (destructiveOfLines table lines'))
    (before : List (List Char)) (table : Option String) :
    (destructiveOfLines table (before ++ lines)).Perm (destructiveOfLines table (before ++ lines')) := by
  induction before generalizing table with
  | nil => exact h table
  | cons raw before ih =>
    rw [List.cons_append, List.cons_append, destructiveOfLines, destructiveOfLines]
    dsimp only
    split
    · exact ih table
    · exact (ih _).append_left _

/-! ### Two calls on one line -/

namespace DestructiveCall

variable (call : DestructiveCall)

theorem exists_text_eq : ∃ c inner, call.text = c :: inner ∧ isBlank c = false ∧
    (isReceiver c = true ∨ c = '-') := by
  obtain ⟨c, inner, hbody, hc, -⟩ := call.exists_body_eq
  have hreceiver := call.isReceiver_receiver
  have hblank := call.isBlank_receiver
  rw [text, hbody]
  cases hcs : call.receiver with
  | nil =>
    refine ⟨c, inner, rfl, ?_⟩
    rcases hc with rfl | rfl
    · exact ⟨by decide, .inl (by decide +kernel)⟩
    · exact ⟨by decide, .inr rfl⟩
  | cons d receiver =>
    rw [hcs] at hreceiver hblank
    exact ⟨d, _, rfl, hblank d rfl, .inl (hreceiver d List.mem_cons_self)⟩

theorem isBlank_head {c : Char} (hc : c ∈ call.text.head?) : isBlank c = false := by
  obtain ⟨d, inner, htext, hd, -⟩ := call.exists_text_eq
  obtain rfl : d = c := by simpa [htext] using hc
  exact hd

theorem isBlank_getLast {c : Char} (hc : c ∈ call.text.getLast?) : isBlank c = false := by
  obtain rfl : ';' = c := by
    simpa [text, body, methodCall, tail, List.getLast?_append, List.getLast?_cons] using hc
  decide

theorem isPassedOver_text_append (rest : List Char) : isPassedOver (call.text ++ rest) = false := by
  obtain ⟨c, inner, htext, -, hc⟩ := call.exists_text_eq
  have hne : c ≠ '/' ∧ c ≠ '*' ∧ c ≠ '#' := by
    refine ⟨?_, ?_, ?_⟩ <;>
    · rintro rfl
      revert hc
      decide +kernel
  rw [htext, List.cons_append]
  unfold isPassedOver
  split <;> simp_all

/-- A destructive call opens no block. -/
theorem openedTable?_text_append {rest : List Char} (h : openedTable? rest = none) :
    openedTable? (call.text ++ rest) = none := by
  rw [openedTable?, schemaCall?]
  cases hsubject : call.subject with
  | table ifExists name =>
    have hmethod : call.subject.method ≠ "create" ∧ call.subject.method ≠ "table" := by
      rw [hsubject]
      cases ifExists <;> simp [Subject.method, Subject.shape, DestructiveShape.method]
    rw [DestructiveShape.isReader_readSchemaCall.firstMatch_text_append,
      DestructiveShape.readSchemaCall_body hsubject, Option.some_or]
    simp [hmethod]
  | column | rename | index | foreignKey =>
    have hshape : call.shape ≠ .table := by
      rw [shape, hsubject]
      exact DestructiveShape.noConfusion
    rw [DestructiveShape.isReader_readSchemaCall.firstMatch_of_ne call hshape]
    exact h

theorem openedTable?_text : openedTable? call.text = none := by
  rw [← List.append_nil call.text]
  exact call.openedTable?_text_append rfl

theorem isPassedOver_text : isPassedOver call.text = false := by
  rw [← List.append_nil call.text]
  exact call.isPassedOver_text_append []

end DestructiveCall

/-- Two lines put on one line, with a blank between them, are the two calls with blanks between them. -/
theorem exists_trim_joined {raw raw' : List Char} (hfirst : trim raw = first.text)
    (hsecond : trim raw' = second.text) :
    ∃ blanks : List Char, blanks.all isBlank ∧
      trim (raw ++ ' ' :: raw') = first.text ++ (blanks ++ second.text) := by
  obtain ⟨front, behind, hfront, hbehind, hraw⟩ := exists_trim_append_blanks raw
  obtain ⟨front', behind', hfront', hbehind', hraw'⟩ := exists_trim_append_blanks raw'
  rw [hfirst] at hraw
  rw [hsecond] at hraw'
  refine ⟨behind ++ ' ' :: front', ?_, ?_⟩
  · rw [List.all_append, List.all_cons, hbehind, hfront']
    decide
  · have htext : raw ++ ' ' :: raw' =
        front ++ (first.text ++ (behind ++ ' ' :: front' ++ second.text)) ++ behind' := by
      rw [hraw, hraw']
      simp only [List.append_assoc, List.cons_append]
    rw [htext, trim_append_blanks hbehind', trim_append hfront]
    · intro c hc
      obtain ⟨d, inner, heq, -⟩ := first.exists_text_eq
      refine first.isBlank_head ?_
      rw [heq] at hc ⊢
      exact hc
    · intro c hc
      obtain ⟨d, inner, heq, -⟩ := second.exists_text_eq
      refine second.isBlank_getLast ?_
      rwa [← List.append_assoc, List.getLast?_append_of_ne_nil _ (by simp [heq])] at hc

/-- A line with two calls asks for what both of them ask for on lines of their own, if their shapes differ,
and otherwise for what the first one asks for. It opens no block either. -/
theorem destructiveOfLines_joined {raw raw' : List Char} (hfirst : trim raw = first.text)
    (hsecond : trim raw' = second.text) (table : Option String) (after : List (List Char)) :
    (first.shape ≠ second.shape → (destructiveOfLines table ((raw ++ ' ' :: raw') :: after)).Perm
      (destructiveOfLines table (raw :: raw' :: after))) ∧
    (first.shape = second.shape → destructiveOfLines table ((raw ++ ' ' :: raw') :: after) =
      destructiveOfLines table (raw :: after)) := by
  obtain ⟨blanks, hblanks, hjoined⟩ := exists_trim_joined hfirst hsecond
  have hopened : openedTable? (blanks ++ second.text) = none := by
    rw [openedTable?, schemaCall?, firstMatch_append_of_inert
      DestructiveShape.isReader_readSchemaCall.eq_none (inert_of_all_isBlank hblanks)]
    exact second.openedTable?_text
  rw [destructiveOfLines_cons hjoined (first.isPassedOver_text_append _)
      (first.openedTable?_text_append hopened),
    destructiveOfLines_cons hfirst first.isPassedOver_text first.openedTable?_text,
    destructiveOfLines_cons hfirst first.isPassedOver_text first.openedTable?_text,
    destructiveOfLines_cons hsecond second.isPassedOver_text second.openedTable?_text]
  constructor
  · intro hshape
    have hperm := (perm_destructiveDrafts hshape hblanks table).append_right
      (destructiveOfLines table after)
    rwa [List.append_assoc (destructiveDrafts table first.text)] at hperm
  · intro hshape
    rw [destructiveDrafts_eq hshape hblanks]

namespace MethodBody

variable {body joined alone : MethodBody} {before after : List (List Char)} {raw raw' : List Char}

/-- Two destructive calls of different shapes ask for the same on one line as on two. If they are of one
shape, the second one is lost when they are put on one line: the first match of a shape is all that is
looked for. -/
theorem destructiveOf_joined (first second : DestructiveCall) (direction : Direction)
    (hbody : body.text.splitOn '\n' = before ++ raw :: raw' :: after)
    (hfirst : trim raw = first.text) (hsecond : trim raw' = second.text)
    (hjoined : joined.text.splitOn '\n' = before ++ (raw ++ ' ' :: raw') :: after)
    (halone : alone.text.splitOn '\n' = before ++ raw :: after) :
    (first.shape ≠ second.shape → (destructiveOf (joined.operations direction)).Perm
      (destructiveOf (body.operations direction))) ∧
    (first.shape = second.shape → (destructiveOf (joined.operations direction)).Perm
      (destructiveOf (alone.operations direction))) := by
  rw [operations, operations, operations, hbody, hjoined, halone, destructiveOf_operationsOfLines,
    destructiveOf_operationsOfLines, destructiveOf_operationsOfLines]
  constructor
  · intro hshape
    exact (perm_destructiveOfLines_append (fun table =>
      (destructiveOfLines_joined hfirst hsecond table after).1 hshape) before none).map _
  · intro hshape
    exact (perm_destructiveOfLines_append (fun table =>
      .of_eq ((destructiveOfLines_joined hfirst hsecond table after).2 hshape)) before none).map _

end MethodBody

/-- A call of a subject on the variable `$t`, or on the schema, without any blanks. -/
def Subject.plain (subject : Subject) : DestructiveCall where
  receiver := if subject.shape = .table then [] else ['$', 't']
  isReceiver_receiver c hc := by
    split at hc
    · simp at hc
    · revert c
      decide +kernel
  isBlank_receiver c hc := by
    split at hc
    · simp at hc
    · obtain rfl : '$' = c := by simpa using hc
      decide
  subject := subject
  front := ⟨[], rfl⟩
  behind := ⟨[], rfl⟩
  ending := ⟨[], rfl⟩
  more := []

namespace QuotedName

/-- The name `users` in single quotes. -/
def users : QuotedName :=
  ⟨'\x27', "users", '\x27', rfl, rfl, ⟨by decide, by decide⟩, by decide +kernel⟩

/-- The name `posts` in double quotes. -/
def posts : QuotedName :=
  ⟨'"', "posts", '"', rfl, rfl, ⟨by decide, by decide⟩, by decide +kernel⟩

end QuotedName

namespace MethodBody

/-- A body of the given lines. -/
def ofLines (lines : List String) : MethodBody :=
  ⟨['\n'].intercalate (lines.map String.toList), 0, 1, false⟩

/-- A column and an index are dropped on one line as on two, also with blanks in front of an arrow. -/
theorem destructiveOf_joined_of_ne :
    let opening := "Schema::table('tags', function ($t) \x7b"
    let column := "  $t->dropColumn(['users']);"
    let index := "$t  ->dropIndex(\"posts\");"
    let joined := ofLines [opening, column ++ " " ++ index, "\x7d);"]
    let body := ofLines [opening, column, index, "\x7d);"]
    (destructiveOf (joined.operations .up)).length = 2 ∧
      (destructiveOf (joined.operations .up)).Perm (destructiveOf (body.operations .up)) := by
  intro opening column index joined body
  refine ⟨by decide +kernel, ?_⟩
  have hjoined : joined.text.splitOn '\n' =
      [opening.toList] ++ (column.toList ++ ' ' :: index.toList) :: ["\x7d);".toList] := by
    decide +kernel
  have halone : (ofLines [opening, column, "\x7d);"]).text.splitOn '\n' =
      [opening.toList] ++ column.toList :: ["\x7d);".toList] := by
    decide +kernel
  let dropsIndex : DestructiveCall :=
    { Subject.plain (.index (.name .posts)) with
      receiver := ['$', 't', ' ', ' ']
      isReceiver_receiver := by decide +kernel
      isBlank_receiver := by
        rintro c hc
        obtain rfl : '$' = c := Option.some_inj.mp hc
        decide }
  exact (destructiveOf_joined (Subject.plain (.column (.list [.name .users]))) dropsIndex .up
    (by decide +kernel) (by decide +kernel) (by decide +kernel) hjoined halone).1 (by decide)

/-- A table that is dropped behind another one on the same line stays unnoticed. -/
theorem not_destructiveOf_joined : ¬ ∀ (first second : DestructiveCall) (body joined : MethodBody)
    (before after : List (List Char)) (raw raw' : List Char) (direction : Direction),
    body.text.splitOn '\n' = before ++ raw :: raw' :: after →
    trim raw = first.text → trim raw' = second.text →
    joined.text.splitOn '\n' = before ++ (raw ++ ' ' :: raw') :: after →
    (destructiveOf (joined.operations direction)).Perm (destructiveOf (body.operations direction)) := by
  intro h
  let drop (table : QuotedName) := Subject.plain (.table false table)
  let body : MethodBody := ofLines ["Schema::drop('users');", "Schema::drop(\"posts\");"]
  let joined : MethodBody := ofLines ["Schema::drop('users'); Schema::drop(\"posts\");"]
  have hperm := h (drop .users) (drop .posts) body joined [] [] (drop .users).text (drop .posts).text
    .up (by decide +kernel) (by decide +kernel) (by decide +kernel) (by decide +kernel)
  have hbody : (destructiveOf (body.operations .up)).length = 2 := by decide +kernel
  have hjoined : (destructiveOf (joined.operations .up)).length = 1 := by decide +kernel
  have hlength := hperm.length_eq
  rw [hbody, hjoined] at hlength
  exact absurd hlength (by decide)

/-- A name in which a call begins may be continued by what follows on the line, here to the name of an index
that is dropped. -/
example :
    let joined := ofLines ["Schema::table('tags', function ($t) \x7b",
      "$t->dropColumn('a->dropIndex('); $t->dropForeign('b');"]
    (destructiveOf (joined.operations .up)).map (·.details.name) =
      [none, some "); $t->dropForeign(", some "b"] := by
  decide +kernel

end MethodBody

end MigrationPreview
