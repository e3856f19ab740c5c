import MigrationPreview.Proofs.Comment.Draft
import MigrationPreview.Proofs.Walk

/-!
# Lines of a body with and without their comments

A body is read line by line. A line is passed over as a whole if it begins as a comment, and is otherwise
read as a whole, with the comments on it. So the lines of a body ask for the same once comments are blank
if each comment is set apart from the code: no code stands on a line that begins as a comment, and on all
other lines, and on the lines that complete a foreign key, comments and calls do not mix.

## Main definitions

* `Marked.lines`: the lines of a marked text
* `Marked.LinesApart`: on all lines the comments are set apart from the code

## Main results

* `operationsOfLines_congr`: lines whose comments are set apart have the same operations without them
-/

namespace MigrationPreview

open Text

/-! ### Lines of a marked text -/

theorem splitOnP_map {α β : Type} {f : α → β} {p : β → Bool} {q : α → Bool} {xs : List α}
    (h : ∀ x ∈ xs, p (f x) = q x) : (xs.map f).splitOnP p = (xs.splitOnP q).map (List.map f) := by
  induction xs with
  | nil => rfl
  | cons x xs ih =>
    rw [List.map_cons, List.splitOnP_cons_eq_if_modifyHead, List.splitOnP_cons_eq_if_modifyHead,
      h x (by simp), ih fun y hy => h y (by simp [hy])]
    split
    · rfl
    · cases xs.splitOnP q <;> rfl

theorem isInfix_of_mem_splitOnP {α : Type} {p : α → Bool} {xs part : List α}
    (h : part ∈ xs.splitOnP p) : part <:+: xs := by
  -- the first part is also a prefix, so it may be continued at the front
  have hparts : (∀ part ∈ xs.splitOnP p, part <:+: xs) ∧ ∀ part ∈ (xs.splitOnP p).head?, part <+: xs := by
    clear h
    induction xs with
    | nil => simp
    | cons x xs ih =>
      rw [List.splitOnP_cons_eq_if_modifyHead]
      split
      · refine ⟨fun part hpart => ?_, fun part hpart => ?_⟩
        · rcases List.mem_cons.mp hpart with rfl | hpart
          · exact List.nil_infix
          · exact (ih.1 part hpart).trans (List.suffix_cons x xs).isInfix
        · obtain rfl : [] = part := Option.some_inj.mp hpart
          exact List.nil_prefix
      · cases hsplit : xs.splitOnP p with
        | nil => exact absurd hsplit (List.splitOnP_ne_nil p xs)
        | cons first parts =>
          rw [hsplit] at ih
          have hfirst : x :: first <+: x :: xs :=
            List.cons_prefix_cons.mpr ⟨rfl, ih.2 first rfl⟩
          refine ⟨fun part hpart => ?_, fun part hpart => ?_⟩
          · rcases List.mem_cons.mp hpart with rfl | hpart
            · exact hfirst.isInfix
            · exact (ih.1 part (by simp [hpart])).trans (List.suffix_cons x xs).isInfix
          · obtain rfl : x :: first = part := Option.some_inj.mp hpart
            exact hfirst
  exact hparts.1 part h

namespace Marked

/-- The lines of a marked text. -/
def lines (marked : Marked) : List Marked := marked.splitOnP (·.1 == '\n')

theorem text_lines (marked : Marked) : marked.lines.map text = marked.text.splitOn '\n' :=
  (splitOnP_map (p := (· == '\n')) fun _ _ => rfl).symm

theorem code_lines {marked : Marked} (h : ('\n', true) ∉ marked) :
    marked.lines.map code = marked.code.splitOn '\n' := by
  refine (splitOnP_map fun x hx => ?_).symm
  obtain ⟨c, flag⟩ := x
  cases flag with
  | false => rfl
  | true =>
    have hc : c ≠ '\n' := fun heq => h (heq ▸ hx)
    simp [hc]

theorem isChain_of_mem_lines {marked line : Marked} (hchain : marked.IsChain Begun)
    (hline : line ∈ marked.lines) : line.IsChain Begun :=
  hchain.infix (isInfix_of_mem_splitOnP hline)

end Marked

/-! ### Foreign keys -/

theorem statementLines_eq_take (window : List (List Char)) :
    statementLines window = window.take (statementLines window).length :=
  List.prefix_iff_eq_take.mp ((List.take_prefix _ _).trans (List.take_prefix _ _))

/-- The lines of a statement from the first one that holds a call of `references`. -/
def referencesLines (window : List (List Char)) : List (List Char) :=
  (statementLines window).dropWhile fun line => !Text.contains "references(".toList line

theorem referencesChain?_eq (window : List (List Char)) : referencesChain? window =
    if (referencesLines window).isEmpty then none
    else some ([' '].intercalate (referencesLines window)) := by
  rw [referencesChain?, referencesLines]
  cases (statementLines window).dropWhile fun line => !Text.contains "references(".toList line <;> rfl

namespace Marked

/-- The marked lines of a statement from the first one that holds a call of `references`. -/
def references (window : List Marked) : List Marked :=
  (window.take (statementLines (window.map text)).length).dropWhile fun line =>
    !Text.contains "references(".toList line.text

theorem text_references (window : List Marked) :
    (references window).map text = referencesLines (window.map text) := by
  have htake : (window.take (statementLines (window.map text)).length).map text =
      statementLines (window.map text) := by
    rw [List.map_take, ← statementLines_eq_take]
  rw [referencesLines, ← htake, List.dropWhile_map]
  rfl

/-- The lines of a statement, joined by spaces. -/
def joined (lines : List Marked) : Marked := [(' ', false)].intercalate lines

theorem map_joined {f : Char × Bool → Char} (hf : f (' ', false) = ' ') (lines : List Marked) :
    (joined lines).map f = [' '].intercalate (lines.map (List.map f)) := by
  rw [joined]
  induction lines with
  | nil => rfl
  | cons line lines ih =>
    cases lines with
    | nil => simp
    | cons line' lines =>
      rw [List.intercalate_cons_cons, List.map_append, List.map_append, ih]
      simp [hf]

theorem isChain_joined {lines : List Marked} (h : ∀ line ∈ lines, line.IsChain Begun) :
    (joined lines).IsChain Begun := by
  rw [joined]
  induction lines with
  | nil => exact List.isChain_nil
  | cons line lines ih =>
    cases lines with
    | nil => simpa using h
    | cons line' lines =>
      have hrest := ih fun other hother => h other (List.mem_cons_of_mem _ hother)
      rw [List.intercalate_cons_cons, List.append_assoc]
      refine (h line (by simp)).append (hrest.cons fun _ _ _ _ => .inl (by decide)) ?_
      -- the space in between is not marked
      intro x _ y hy _ hmarked
      rw [← Option.some_inj.mp hy] at hmarked
      simp at hmarked

/-- Whether the comments of a statement are set apart: its lines from the first one that holds a call of
`references` are the same without comments, and on them comments and calls do not mix. -/
def ReferencesApart (window : List Marked) : Bool :=
  referencesLines (window.map code) == (references window).map code &&
    (joined (references window)).SetApart []

theorem rel_referencesChain? {window : List Marked}
    (hchain : ∀ line ∈ window, line.IsChain Begun) (hapart : ReferencesApart window = true) :
    Option.Rel SameCalls (referencesChain? (window.map text)) (referencesChain? (window.map code)) := by
  simp only [ReferencesApart, Bool.and_eq_true, beq_iff_eq] at hapart
  obtain ⟨hcode, hset⟩ := hapart
  rw [referencesChain?_eq, referencesChain?_eq, hcode, ← text_references, List.isEmpty_map,
    List.isEmpty_map]
  split
  · exact .none
  · have hlines : ∀ line ∈ references window, line.IsChain Begun := fun line hline =>
      hchain line (List.mem_of_mem_take (List.dropWhile_subset _ hline))
    have hsame := sameCalls_of_setApart (isChain_joined hlines) hset
    rw [text, code, map_joined rfl, map_joined rfl] at hsame
    exact .some hsame

end Marked

/-! ### Lines of a body -/

namespace Marked

/-- Whether the comments of the first line of a window are set apart from its code: nothing but a comment
stands on a line that begins as one; on any other line comments and calls do not mix, and if a foreign key
begins on it, they do not mix on the lines of its statement either. -/
def LineApart (line : Marked) (window : List Marked) : Bool :=
  if isPassedOver (trim line.text) then isPassedOver (trim line.code)
  else
    line.SetApart [] && (!isPassedOver (trim line.code) || (trim line.code).isEmpty) &&
      (!beginsForeignKey (trim line.text) || ReferencesApart window)

/-- Whether on all lines of a body the comments are set apart from the code. -/
def LinesApart : List Marked → Bool
  | [] => true
  | line :: rest => LineApart line (line :: rest) && LinesApart rest

end Marked

theorem map_withoutDefinition_toOperation (direction : Direction) (number : Nat) (drafts : List Draft) :
    (drafts.map (·.toOperation direction number)).map Operation.withoutDefinition =
      (drafts.map Draft.withoutDefinition).map (·.toOperation direction number) := by
  rw [List.map_map, List.map_map]
  rfl

open Marked in
/-- Lines whose comments are set apart have the same operations without them, definitions apart. -/
theorem operationsOfLines_congr (direction : Direction) {lines : List Marked}
    (hchain : ∀ line ∈ lines, line.IsChain Begun) (hapart : LinesApart lines = true)
    (table : Option String) (number : Nat) :
    (operationsOfLines direction table number (lines.map text)).map Operation.withoutDefinition =
      (operationsOfLines direction table number (lines.map code)).map
        Operation.withoutDefinition := by
  induction lines generalizing table number with
  | nil => rfl
  | cons line rest ih =>
    rw [LinesApart, Bool.and_eq_true] at hapart
    obtain ⟨hline, hrest⟩ := hapart
    have ih := ih (fun other hother => hchain other (List.mem_cons_of_mem _ hother)) hrest
    rw [LineApart] at hline
    rw [List.map_cons, List.map_cons]
    split at hline
    · next htext =>
      rw [operationsOfLines_of_isPassedOver htext, operationsOfLines_of_isPassedOver hline]
      exact ih table (number + 1)
    · next htext =>
      simp only [Bool.and_eq_true, Bool.or_eq_true, Bool.not_eq_true', List.isEmpty_iff] at hline
      obtain ⟨⟨hset, hcode⟩, hforeign⟩ := hline
      have hsame := sameCalls_trim (hchain line (by simp)) hset
      have hdrafts : ∀ table, (Line.drafts ⟨trim line.text, table, (line :: rest).map text⟩).map
            Draft.withoutDefinition =
          (Line.drafts ⟨trim line.code, table, (line :: rest).map code⟩).map
            Draft.withoutDefinition := fun table =>
        drafts_congr hsame rfl fun hbegins => rel_referencesChain? hchain <|
          hforeign.resolve_left (by rw [hbegins]; decide)
      rw [operationsOfLines_of_read rfl (.inl (Bool.eq_false_iff.mpr htext)),
        operationsOfLines_of_read rfl hcode,
        List.map_append, List.map_append, map_withoutDefinition_toOperation,
        map_withoutDefinition_toOperation, openedTable?_congr hsame, ← List.map_cons, ← List.map_cons,
        hdrafts, ih]

end MigrationPreview
