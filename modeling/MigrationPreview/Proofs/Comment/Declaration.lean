import MigrationPreview.Proofs.Comment.Signature

/-!
# Declarations with and without comments

A body that no brace closes ends before the first line that begins the declaration of a method, and blank
lines in front of this line do not belong to the body either. With blanks in place of the comments there are
more blank lines. So a comment in front of a declaration is part of the body, but the blanks in its place are
not: without its comments the body is shorter by blank lines. If no comment is in a declaration, it is not
shorter by anything else.

## Main definitions

* `readDeclarationLine`: a declaration that begins on the first line of a text
* `Marked.DeclarationsApart`: no declaration that begins a line has a comment in it

## Main results

* `exists_beforeDeclaration_code`: without comments the text before the first declaration lacks blank lines only
-/

namespace MigrationPreview

open Text

variable {cs rest blanks : List Char}

/-! ### Declarations of a line -/

/-- Reads the declaration of a method that begins on the first line, up to its parameter list. -/
def readDeclarationLine (cs : List Char) : Option (List Char) :=
  if (cs.takeWhile (· != '\n')).all isBlank then none else readDeclaration cs

theorem readDeclaration_append (hblanks : blanks.all isBlank) (cs : List Char) :
    readDeclaration (blanks ++ cs) = readDeclaration cs := by
  rw [readDeclaration, readDeclaration, skipBlanks_append hblanks]

theorem readDeclaration_of_blank (hblanks : blanks.all isBlank) : readDeclaration blanks = none := by
  rw [← List.append_nil blanks, readDeclaration_append hblanks]
  rfl

/-- A declaration behind the beginning of a line begins one of the lines, and all is blank in front of it. -/
theorem exists_readDeclarationLine (h : (readDeclaration cs).isSome) :
    ∃ blanks line, cs = blanks ++ line ∧ blanks.all isBlank ∧ EndsLine blanks ∧
      (readDeclarationLine line).isSome := by
  induction hlength : cs.length using Nat.strong_induction_on generalizing cs with
  | h n ih =>
    subst hlength
    by_cases hblank : (cs.takeWhile (· != '\n')).all isBlank
    · -- the first line is blank, so there is another one
      have hsplit := List.takeWhile_append_dropWhile (p := (· != '\n')) (l := cs)
      have hbreak := List.head?_dropWhile_not (· != '\n') cs
      generalize cs.takeWhile (· != '\n') = first at hblank hsplit
      generalize cs.dropWhile (· != '\n') = others at hsplit hbreak
      cases others with
      | nil =>
        rw [List.append_nil] at hsplit
        rw [← hsplit, readDeclaration_of_blank hblank] at h
        cases h
      | cons c others =>
        obtain rfl : c = '\n' := by simpa using hbreak
        have hfirst : (first ++ ['\n']).all isBlank := by
          rw [List.all_append, hblank]
          decide
        have hcs : cs = first ++ ['\n'] ++ others := by simpa using hsplit.symm
        rw [hcs, readDeclaration_append hfirst] at h
        obtain ⟨blanks, line, rfl, hblanks, hends, hline⟩ := ih others.length (by simp [hcs]; omega) h rfl
        refine ⟨first ++ ['\n'] ++ blanks, line, by rw [hcs]; simp only [List.append_assoc], ?_, .inr ?_, hline⟩
        · rw [List.all_append, hfirst, hblanks]
          rfl
        · rcases hends with rfl | ⟨front, rfl⟩
          · exact ⟨first, List.append_nil _⟩
          · exact ⟨first ++ ['\n'] ++ front, (List.append_assoc ..).symm⟩
    · refine ⟨[], cs, rfl, rfl, .inl rfl, ?_⟩
      rwa [readDeclarationLine, if_neg hblank]

theorem isSome_readDeclaration_of_line (h : (readDeclarationLine cs).isSome) :
    (readDeclaration cs).isSome := by
  rw [readDeclarationLine] at h
  split at h
  · cases h
  · exact h

theorem IsDeclaration.exists_not_isBlank {declaration : List Char} (h : IsDeclaration declaration) :
    ∃ c ∈ declaration, isBlank c = false := by
  obtain ⟨indent, modifiers, blanks, name, blanks', -, -, -, -, -, -, -, rfl⟩ := h
  exact ⟨'(', by simp, by decide⟩

/-- A declaration that begins a line does so in every text that begins with it. -/
theorem isPrefixReader_readDeclarationLine : IsPrefixReader readDeclarationLine := by
  intro cs rest h
  rw [readDeclarationLine] at h
  split at h
  · cases h
  next hline =>
  obtain ⟨declaration, hdeclaration, rfl⟩ := exists_isDeclaration_of_readDeclaration h
  obtain ⟨c, hmem, hc⟩ := hdeclaration.exists_not_isBlank
  refine ⟨declaration, List.ne_nil_of_mem hmem, rfl, fun behind => ⟨behind, List.suffix_rfl, ?_⟩⟩
  have hfirst : ¬ ((declaration ++ behind).takeWhile (· != '\n')).all isBlank := by
    rw [List.takeWhile_append] at hline ⊢
    split
    · rw [List.all_append, Bool.and_eq_true]
      rintro ⟨hall, -⟩
      rw [List.all_eq_true.mp hall c hmem] at hc
      cases hc
    · next hbreak => rwa [if_neg hbreak] at hline
  rw [readDeclarationLine, if_neg hfirst]
  exact hdeclaration.readDeclaration_eq behind

/-! ### Declarations and comments -/

namespace Marked

/-- Whether no declaration that begins a line, be it with the comments or with blanks in their place, has a
comment in it. The flag tells whether the text begins a line. -/
def DeclarationsApart : Bool → Marked → Bool
  | _, [] => true
  | lineStart, x :: marked =>
    (!lineStart || ReadsApart readDeclarationLine (x :: marked)) && DeclarationsApart (x.1 == '\n') marked

theorem readsApart_of_declarationsApart {lineStart : Bool} {front marked : Marked}
    (h : DeclarationsApart lineStart (front ++ marked) = true) (hmarked : marked ≠ [])
    (hfront : EndsLine front.text) (hstart : front = [] → lineStart = true) :
    marked.ReadsApart readDeclarationLine = true := by
  induction front generalizing lineStart with
  | nil =>
    obtain ⟨x, marked, rfl⟩ := List.exists_cons_of_ne_nil hmarked
    rw [List.nil_append, DeclarationsApart, Bool.and_eq_true, hstart rfl] at h
    simpa using h.1
  | cons x front ih =>
    rw [List.cons_append, DeclarationsApart, Bool.and_eq_true] at h
    cases front with
    | nil =>
      obtain hnil | ⟨init, hinit⟩ := hfront
      · cases hnil
      · have hbreak : x.1 = '\n' := by simpa using congrArg List.getLast? hinit
        exact ih h.2 (.inl rfl) fun _ => by rw [hbreak]; rfl
    | cons y front => exact ih h.2 (hfront.of_cons (by simp)) (by simp)

/-- A declaration apart from comments is one with them and without them. -/
theorem isSome_readDeclarationLine_code {marked : Marked}
    (h : marked.ReadsApart readDeclarationLine = true) :
    (readDeclarationLine marked.code).isSome = (readDeclarationLine marked.text).isSome := by
  have hlength := map_length_code isPrefixReader_readDeclarationLine h
  simpa only [Option.isSome_map] using congrArg Option.isSome hlength

theorem code_of_blank {marked : Marked} (h : marked.text.all isBlank) : marked.code.all isBlank := by
  simp only [text, code, List.all_map, List.all_eq_true, Function.comp_apply] at h ⊢
  intro x hx
  split
  · decide
  · exact h x hx

theorem endsLine_text {marked : Marked} (h : EndsLine marked.code) : EndsLine marked.text := by
  obtain hnil | ⟨init, hinit⟩ := h
  · rw [code, List.map_eq_nil_iff] at hnil
    exact .inl (congrArg text hnil)
  · obtain ⟨front, last, rfl, -, hlast⟩ := List.map_eq_append_iff.mp hinit
    obtain ⟨⟨c, flag⟩, rfl, hc⟩ := List.map_eq_singleton_iff.mp hlast
    cases flag with
    | false => exact .inr ⟨text front, by rw [text_append, ← hc]; rfl⟩
    | true =>
      rw [if_pos rfl] at hc
      exact absurd hc (by decide)

/-- A declaration that stands behind blank lines with comments stands behind blank lines without them. -/
theorem isSome_readDeclaration_code {marked : Marked} (h : marked.DeclarationsApart true = true)
    (htext : (readDeclaration marked.text).isSome) : (readDeclaration marked.code).isSome := by
  obtain ⟨blanks, line, hsplit, hblanks, hends, hline⟩ := exists_readDeclarationLine htext
  obtain ⟨front, others, rfl, rfl, rfl⟩ := List.map_eq_append_iff.mp hsplit
  have hothers : others ≠ [] := by
    rintro rfl
    cases hline
  have hapart := readsApart_of_declarationsApart h hothers hends fun _ => rfl
  rw [code_append, readDeclaration_append (code_of_blank hblanks)]
  refine isSome_readDeclaration_of_line ?_
  rwa [isSome_readDeclarationLine_code hapart]

/-- A declaration that stands behind blank lines without comments stands behind blank lines with them, apart
from the comments in front of it. -/
theorem exists_readDeclaration_text {marked : Marked} (h : marked.DeclarationsApart true = true)
    (hcode : (readDeclaration marked.code).isSome) :
    ∃ front others : Marked, marked = front ++ others ∧ front.code.all isBlank ∧ EndsLine front.text ∧
      (readDeclaration others.text).isSome := by
  obtain ⟨blanks, line, hsplit, hblanks, hends, hline⟩ := exists_readDeclarationLine hcode
  obtain ⟨front, others, rfl, rfl, rfl⟩ := List.map_eq_append_iff.mp hsplit
  have hothers : others ≠ [] := by
    rintro rfl
    cases hline
  have hapart := readsApart_of_declarationsApart h hothers (endsLine_text hends) fun _ => rfl
  refine ⟨front, others, rfl, hblanks, endsLine_text hends, isSome_readDeclaration_of_line ?_⟩
  rwa [← isSome_readDeclarationLine_code hapart]

end Marked

/-! ### The text before a declaration -/

open Marked in
/-- Without comments the text before the first declaration lacks nothing but blank lines. -/
theorem exists_beforeDeclaration_code {lineStart : Bool} {marked : Marked}
    (hbreak : ('\n', true) ∉ marked) (h : marked.DeclarationsApart lineStart = true) :
    ∃ blanks : List Char, blanks.all isBlank ∧
      code (marked.take (beforeDeclaration lineStart marked.text).length) =
        beforeDeclaration lineStart marked.code ++ blanks ∧
      (blanks = [] ∨ EndsLine (beforeDeclaration lineStart marked.code) ∧
        (beforeDeclaration lineStart marked.code = [] → lineStart = true)) := by
  induction marked generalizing lineStart with
  | nil => exact ⟨[], rfl, rfl, .inl rfl⟩
  | cons x marked ih =>
    have hnext : DeclarationsApart (x.1 == '\n') marked = true := by
      rw [DeclarationsApart, Bool.and_eq_true] at h
      exact h.2
    obtain ⟨c, flag⟩ := x
    have hchar : ((if flag then ' ' else c) == '\n') = (c == '\n') := by
      cases flag with
      | false => rfl
      | true =>
        have hc : c ≠ '\n' := fun heq => hbreak (by rw [heq]; exact List.mem_cons_self)
        rw [beq_false_of_ne hc]
        rfl
    rw [text_cons, code_cons, beforeDeclaration, beforeDeclaration, hchar, ← text_cons, ← code_cons]
    by_cases htext : (lineStart && (readDeclaration (text ((c, flag) :: marked))).isSome) = true
    · -- the text ends here, and so does the code
      obtain ⟨rfl, hdeclaration⟩ := Bool.and_eq_true_iff.mp htext
      rw [if_pos htext, if_pos (by rw [isSome_readDeclaration_code h hdeclaration]; rfl)]
      exact ⟨[], rfl, rfl, .inl rfl⟩
    by_cases hcode : (lineStart && (readDeclaration (code ((c, flag) :: marked))).isSome) = true
    · -- the code ends here, and the text behind the comments in front of the declaration at the latest
      obtain ⟨rfl, hdeclaration⟩ := Bool.and_eq_true_iff.mp hcode
      obtain ⟨front, others, hsplit, hblanks, hends, hothers⟩ := exists_readDeclaration_text h hdeclaration
      have hle := length_beforeDeclaration_le hends (fun _ => rfl) hothers
      rw [← text_append, ← hsplit, text_cons, beforeDeclaration, ← text_cons, if_neg htext,
        length_text] at hle
      rw [if_neg htext, if_pos hcode, hsplit, List.take_append_of_le_length hle, code_take]
      exact ⟨_, List.all_eq_true.mpr fun d hd => List.all_eq_true.mp hblanks d (List.mem_of_mem_take hd), rfl,
        .inr ⟨.inl rfl, fun _ => rfl⟩⟩
    · obtain ⟨blanks, hblanks, hrest, hends⟩ := ih (fun hmem => hbreak (List.mem_cons_of_mem _ hmem)) hnext
      rw [if_neg htext, if_neg hcode, List.length_cons, List.take_succ_cons, code_cons, hrest]
      obtain hnone | ⟨hends, hstart⟩ := hends
      · exact ⟨blanks, hblanks, rfl, .inl hnone⟩
      refine ⟨blanks, hblanks, rfl, .inr ⟨?_, fun hnil => absurd hnil (List.cons_ne_nil _ _)⟩⟩
      obtain hnil | ⟨front, hfront⟩ := hends
      · -- a line begins behind the first character, so this is a line break
        have hc : (if flag then ' ' else c) = '\n' := beq_iff_eq.mp (hchar.trans (hstart hnil))
        rw [hnil]
        exact .inr ⟨[], by rw [← hc]; rfl⟩
      · rw [hfront]
        exact .inr ⟨_ :: front, rfl⟩

end MigrationPreview
