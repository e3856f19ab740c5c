import Mathlib.Data.List.Forall2
import MigrationPreview.Proofs.Canonical.Source
import MigrationPreview.Proofs.Details

/-!
# Methods are read on their own

What is read of a method is fixed by the text of its body, up to the number of the line on which the body
begins: neither the other method nor the text around the two has any influence. In particular, lines in
front of a migration that do not hold the word `public` move all operations down and change nothing else.

The comparison of two bodies goes through the numbers of a walk: a walk that begins `n` lines further down
gives the same operations `n` lines further down.

## Main definitions

* `Operation.lowered`: an operation some lines further down
* `Operation.IsMovedTo`: two operations that differ by a given number of lines

## Main results

* `operationsOfLines_add`: the walk over the lines of a body, begun further down
* `MethodBody.find?_append`: the bodies behind lines without signatures
* `methods_isolated`: each direction is read in isolation
-/

namespace MigrationPreview

open Text

variable {direction : Direction} {source : List Char} {n : Nat}

/-! ### Operations further down -/

/-- The operation `n` lines further down. -/
def Operation.lowered (n : Nat) (op : Operation) : Operation := { op with line := op.line + n }

/-- The second operation is the first one, moved by a number of lines that may be negative. -/
structure Operation.IsMovedTo (distance : Int) (op op' : Operation) : Prop where
  eq : op' = { op with line := op'.line }
  line : (op'.line : Int) = op.line + distance

theorem Operation.isMovedTo_lowered (op : Operation) (n n' : Nat) :
    (op.lowered n).IsMovedTo (n' - n) (op.lowered n') where
  eq := rfl
  line := by
    simp only [lowered]
    omega

/-- A walk that begins further down gives the same operations further down. The table is handed on from
line to line in the same way in both walks, and the window of a line does not tell its number. -/
theorem operationsOfLines_add (table : Option String) (number n : Nat) (lines : List (List Char)) :
    operationsOfLines direction table (number + n) lines =
      (operationsOfLines direction table number lines).map (·.lowered n) := by
  induction lines generalizing table number with
  | nil => rfl
  | cons raw rest ih =>
    rw [operationsOfLines_cons, operationsOfLines_cons, List.map_append, Nat.add_right_comm, ih,
      List.append_left_inj]
    split
    · rfl
    · rw [List.map_map]
      rfl

/-- The operations of a body are those of its text, numbered from the line on which it begins. -/
theorem MethodBody.operations_eq (body : MethodBody) :
    body.operations direction =
      (operationsOfLines direction none 0 (body.text.splitOn '\n')).map (·.lowered body.startLine) := by
  rw [operations, ← operationsOfLines_add, Nat.zero_add]

/-- Bodies with the same text have the same operations, as far apart as the bodies are. -/
theorem MethodBody.forall₂_isMovedTo {body body' : MethodBody} (h : body.text = body'.text) :
    List.Forall₂ (Operation.IsMovedTo (body'.startLine - body.startLine)) (body.operations direction)
      (body'.operations direction) := by
  rw [operations_eq, operations_eq, h, List.forall₂_map_left_iff, List.forall₂_map_right_iff,
    List.forall₂_same]
  exact fun op _ => op.isMovedTo_lowered body.startLine body'.startLine

/-! ### Lines in front of a migration -/

/-- No signature begins in lines that do not hold the word `public`, whatever follows them. -/
theorem quiet_of_endsLine {pre : List Char} (hpre : EndsLine pre)
    (hpublic : ¬ "public".toList <:+: pre) : Canonical.Quiet pre := by
  induction pre with
  | nil => trivial
  | cons c pre ih =>
    refine ⟨fun rest => ?_, ?_⟩
    · cases hread : readSpaced Canonical.firstWord (c :: (pre ++ rest)) with
      | none => rfl
      | some behind =>
        obtain ⟨blanks, -, -, htext⟩ := eq_append_of_readSpaced hread
        rw [← List.cons_append, List.append_assoc] at htext
        rcases List.append_eq_append_iff.mp htext with ⟨more, hword, -⟩ | ⟨more, hword, -⟩
        · -- the line break at the end would have to be a letter of the word
          obtain hnil | ⟨front, hfront⟩ := hpre
          · cases hnil
          · have hbreak : '\n' ∈ Canonical.firstWord := by
              rw [hword, hfront]
              simp
            exact absurd hbreak (by decide)
        · exact absurd ⟨[], more, hword.symm⟩ hpublic
    · cases pre with
      | nil => trivial
      | cons d pre =>
        exact ih (hpre.of_cons (List.cons_ne_nil d pre)) fun h =>
          hpublic (h.trans (List.suffix_cons c (d :: pre)).isInfix)

/-- The bodies behind lines in which no signature begins are the bodies without these lines, moved. -/
theorem MethodBody.find?_append {pre : List Char} (h : Canonical.Quiet pre) :
    find? direction (pre ++ source) = (find? direction source).map fun body =>
      { body with
        offset := pre.length + body.offset
        startLine := body.startLine + pre.count '\n' } := by
  have hfirst := Canonical.firstMatch_append_of_quiet h direction.name.toList source
  cases hbody : find? direction source with
  | none =>
    rw [find?, hfirst, firstMatch_eq_none_of_find? hbody]
    rfl
  | some body =>
    obtain ⟨before, behind, hsource, hbehind, hoffset, hline, hend⟩ := find?_eq_some_iff.mp hbody
    rw [hsource, ← List.append_assoc] at hfirst ⊢
    rw [hsource] at hbehind
    refine find?_eq_some_iff.mpr ⟨pre ++ before, behind, rfl, hfirst.trans hbehind, ?_, ?_, hend⟩
    · simp only [List.length_append, hoffset]
    · simp only [List.count_append, hline]
      omega

theorem operationsIn_append {pre : List Char} (h : Canonical.Quiet pre) :
    operationsIn direction (pre ++ source) =
      (operationsIn direction source).map (·.lowered (pre.count '\n')) := by
  rw [operationsIn, operationsIn, MethodBody.find?_append h]
  cases MethodBody.find? direction source with
  | none => rfl
  | some body => exact operationsOfLines_add none body.startLine _ _

/-! ### The index by line -/

namespace SortedMap

variable {ν : Type} {f : Option ν → ν}

/-- The entries of a map, all under keys that are greater by `n`. -/
def lowerEntries (n : Nat) (entries : List (Nat × ν)) : List (Nat × ν) :=
  entries.map fun e => (e.1 + n, e.2)

theorem alterEntries_lowerEntries (key n : Nat) (entries : List (Nat × ν)) :
    alterEntries (key + n) f (lowerEntries n entries) = lowerEntries n (alterEntries key f entries) := by
  induction entries with
  | nil => rfl
  | cons e rest ih =>
    have hcompare : compare (key + n) (e.1 + n) = compare key e.1 := by
      simp only [Nat.compare_eq_ite_lt, Nat.add_lt_add_iff_right]
    obtain ⟨k, v⟩ := e
    simp only [lowerEntries, List.map_cons, alterEntries, hcompare] at ih ⊢
    cases compare key k with
    | lt => rfl
    | eq => rfl
    | gt => rw [ih, List.map_cons]

end SortedMap

namespace Script

/-- The step of the construction puts the short form of an operation under its line; where all lines are
greater by `n`, so are the keys. -/
theorem entries_foldl_lowered {index index' : SortedMap Nat (List Operation.Summary)}
    (h : index'.entries = SortedMap.lowerEntries n index.entries) (ops : List Operation) :
    ((ops.map (·.lowered n)).foldl (fun index op => index.alter op.line fun known =>
        known.getD [] ++ [op.summary]) index').entries =
      SortedMap.lowerEntries n (ops.foldl (fun index op => index.alter op.line fun known =>
        known.getD [] ++ [op.summary]) index).entries := by
  induction ops generalizing index index' with
  | nil => exact h
  | cons op ops ih =>
    rw [List.map_cons, List.foldl_cons, List.foldl_cons]
    refine ih ?_
    simp only [SortedMap.alter, h]
    exact SortedMap.alterEntries_lowerEntries op.line n index.entries

theorem entries_indexByLine_lowered (n : Nat) (ops : List Operation) :
    (indexByLine (ops.map (·.lowered n))).entries =
      SortedMap.lowerEntries n (indexByLine ops).entries :=
  entries_foldl_lowered rfl ops

end Script

/-! ### Isolation -/

/-- Each direction is read in isolation. If the method of a direction has the same body in two sources,
they have the same operations in this direction, moved by as many lines as the bodies are apart; and without
a method there are no operations. In particular, lines in front of a migration that do not hold the word
`public` increase every line number by their number, in the operations and in the index by line. -/
theorem methods_isolated :
    (∀ (direction : Direction) (source source' : String) (body body' : MethodBody),
      MethodBody.find? direction source.toList = some body →
      MethodBody.find? direction source'.toList = some body' → body.text = body'.text →
      List.Forall₂ (Operation.IsMovedTo (body'.startLine - body.startLine))
        ((Script.parse source).operationsFor direction)
        ((Script.parse source').operationsFor direction)) ∧
    (∀ (direction : Direction) (source : String), MethodBody.find? direction source.toList = none →
      (Script.parse source).operationsFor direction = []) ∧
    ∀ pre source : String, EndsLine pre.toList → ¬ "public".toList <:+: pre.toList →
      let n := pre.toList.count '\n'
      (Script.parse (pre ++ source)).operations =
        (Script.parse source).operations.map (fun op => { op with line := op.line + n }) ∧
      (Script.parse (pre ++ source)).lineIndex.entries =
        (Script.parse source).lineIndex.entries.map fun e => (e.1 + n, e.2) := by
  refine ⟨fun direction source source' body body' hbody hbody' htext => ?_,
    fun direction source hnone => ?_, fun pre source hpre hpublic => ?_⟩
  · rw [operationsFor_parse, operationsFor_parse, operationsIn, operationsIn, hbody, hbody']
    exact MethodBody.forall₂_isMovedTo htext
  · rw [operationsFor_parse, operationsIn, hnone]
  · have hoperations : (Script.parse (pre ++ source)).operations =
        (Script.parse source).operations.map (·.lowered (pre.toList.count '\n')) := by
      have hquiet := quiet_of_endsLine hpre hpublic
      simp only [Script.parse, Script.ofOperations, String.toList_append, operationsIn_append hquiet,
        List.map_append]
    refine ⟨hoperations, ?_⟩
    have hindex : ∀ source : String,
        (Script.parse source).lineIndex = Script.indexByLine (Script.parse source).operations :=
      fun _ => rfl
    rw [hindex, hindex, hoperations]
    exact Script.entries_indexByLine_lowered _ _

/-- The body of a method that drops a column. -/
def droppingBody : List String :=
  ["", "  Schema::table('users', function (Blueprint $table) \x7b", "   $table->dropColumn('name');",
    "  \x7d);", " "]

/-- A migration with some lines in its `up` and a `down` that drops a column. -/
def droppingBack (up : List String) : List Char :=
  let lines := ["class M \x7b", " public function up() \x7b"] ++ up ++
    [" \x7d", " public function down() \x7b" ++ "\n".intercalate droppingBody ++ "\x7d", "\x7d"]
  ['\n'].intercalate (lines.map String.toList)

/-- The table of the block in `up` is not that of `down`, whose operations only move by the two lines of the
block; and two lines in front of the class move all operations. -/
theorem methods_isolated_of_block :
    let source := String.ofList (droppingBack [])
    let source' := String.ofList (droppingBack ["  Schema::table('posts', function () \x7b", "  \x7d);"])
    (∃ body body', MethodBody.find? .down source.toList = some body ∧
      MethodBody.find? .down source'.toList = some body' ∧ body.text = body'.text ∧
      List.Forall₂ (Operation.IsMovedTo 2) ((Script.parse source).operationsFor .down)
        ((Script.parse source').operationsFor .down)) ∧
    MethodBody.find? .down "class M".toList = none ∧
    (Script.parse "class M").operationsFor .down = [] ∧
    EndsLine "<?php\n\n".toList ∧ ¬ "public".toList <:+: "<?php\n\n".toList ∧
    (Script.parse ("<?php\n\n" ++ source)).operations =
      (Script.parse source).operations.map fun op => { op with line := op.line + 2 } := by
  intro source source'
  have hbody : (MethodBody.find? .down source.toList).map (fun body => (body.text, body.startLine)) =
      some (("\n".intercalate droppingBody).toList, 4) := by
    rw [String.toList_ofList]
    decide +kernel
  have hbody' : (MethodBody.find? .down source'.toList).map (fun body => (body.text, body.startLine)) =
      some (("\n".intercalate droppingBody).toList, 6) := by
    rw [String.toList_ofList]
    decide +kernel
  obtain ⟨body, hfind, htext⟩ := Option.map_eq_some_iff.mp hbody
  obtain ⟨body', hfind', htext'⟩ := Option.map_eq_some_iff.mp hbody'
  obtain ⟨htext, hline⟩ := Prod.mk.inj htext
  obtain ⟨htext', hline'⟩ := Prod.mk.inj htext'
  have hsame : body.text = body'.text := htext.trans htext'.symm
  have hnone : MethodBody.find? .down "class M".toList = none := by decide +kernel
  have hends : EndsLine "<?php\n\n".toList := .inr ⟨"<?php\n".toList, by decide⟩
  have hpublic : ¬ "public".toList <:+: "<?php\n\n".toList := by decide
  obtain ⟨hmoved, hempty, hfront⟩ := methods_isolated
  have hdown := hmoved .down source source' body body' hfind hfind' hsame
  rw [hline, hline'] at hdown
  exact ⟨⟨body, body', hfind, hfind', hsame, hdown⟩, hnone, hempty .down "class M" hnone, hends, hpublic,
    (hfront "<?php\n\n" source hends hpublic).1⟩

end MigrationPreview
