import MigrationPreview.Proofs.Body
import MigrationPreview.Proofs.Canonical.Parts

/-!
# Scanning a canonical method

In the body of a canonical method every brace has its counterpart, quotes only stand around names, and
there is no comment. So the scanner that looks for the closing brace passes over the body as a whole.

## Main results

* `Canonical.Balanced`: texts that the scanner passes over
* `Canonical.balanced_bodyText`: the body of a method is such a text
-/

namespace MigrationPreview.Canonical

open Text

variable {cs ds : List Char}

/-! ### Balanced texts -/

/-- A text that the scanner enters and leaves in code, with all its braces matched. -/
def Balanced (cs : List Char) : Prop :=
  ∀ depth rest,
    beforeClosing .code depth (cs ++ rest) = (beforeClosing .code depth rest).map (cs ++ ·)

theorem balanced_nil : Balanced [] := by
  intro depth rest
  simp

theorem Balanced.append (hcs : Balanced cs) (hds : Balanced ds) : Balanced (cs ++ ds) := by
  intro depth rest
  rw [List.append_assoc, hcs, hds, Option.map_map]
  congr 1
  funext text
  simp

/-- The characters that the scanner looks at. -/
def scannedMarks : List Char := ['#', '/', '\x7b', '\x7d', '"', '\x27']

theorem balanced_singleton {c : Char} (h : c ∉ scannedMarks) : Balanced [c] := by
  intro depth rest
  simp only [scannedMarks, List.mem_cons, List.not_mem_nil, or_false, not_or] at h
  obtain ⟨hhash, hslash, hopen, hclose, hdouble, hsingle⟩ := h
  have hnext : Lexical.next .code c = .code := if_neg (by simp [hdouble, hsingle])
  have hplain : Lexical.code.Plain c rest := fun _ => ⟨hhash, hopen, hclose, fun hc => absurd hc hslash⟩
  rw [List.singleton_append, beforeClosing_cons depth hplain, hnext]
  rfl

/-- A text between braces is balanced if it is so without them. -/
theorem Balanced.block (hcs : Balanced cs) : Balanced ('\x7b' :: cs ++ ['\x7d']) := by
  intro depth rest
  have hopen : ∀ cs, beforeClosing .code depth ('\x7b' :: cs) =
      (beforeClosing .code (depth + 1) cs).map ('\x7b' :: ·) := fun _ => rfl
  have hclose : beforeClosing .code (depth + 1) ('\x7d' :: rest) =
      (beforeClosing .code depth rest).map ('\x7d' :: ·) := rfl
  rw [List.append_assoc, List.cons_append, hopen, hcs, List.singleton_append, hclose,
    Option.map_map, Option.map_map]
  congr 1
  funext text
  simp

/-- A name in quotes is passed over. -/
theorem balanced_quoted (name : Name) : Balanced name.quoted := by
  intro depth rest
  have hname : ∀ cs : List Char, (∀ c ∈ cs, isNameChar c = true) →
      beforeClosing (.literal '\x27' false) depth (cs ++ '\x27' :: rest) =
        (beforeClosing .code depth rest).map (cs ++ '\x27' :: ·) := by
    intro cs hcs
    induction cs with
    | nil => rfl
    | cons c cs ih =>
      have hc := hcs c List.mem_cons_self
      have hnext : Lexical.next (.literal '\x27' false) c = .literal '\x27' false := by
        rw [Lexical.next, if_neg (ne_of_isNameChar hc (by decide)),
          if_neg (ne_of_isNameChar hc (by decide))]
      rw [List.cons_append, beforeClosing_cons depth (Lexical.plain_of_ne_code (by simp)), hnext,
        ih fun d hd => hcs d (List.mem_cons_of_mem _ hd), Option.map_map]
      rfl
  have hquote : ∀ cs, beforeClosing .code depth ('\x27' :: cs) =
      (beforeClosing (.literal '\x27' false) depth cs).map ('\x27' :: ·) := fun _ => rfl
  rw [Name.quoted, List.cons_append, List.cons_append, List.append_assoc, List.singleton_append,
    hquote, hname name.chars fun _ => name.isNameChar_of_mem, Option.map_map]
  congr 1
  funext text
  simp

theorem compositional_balanced : Compositional Balanced where
  nil := balanced_nil
  append := Balanced.append
  quoted := balanced_quoted

/-! ### Bodies -/

theorem balanced_of_forall (h : ∀ c ∈ cs, c ∉ scannedMarks) : Balanced cs :=
  compositional_balanced.of_forall fun c hc => balanced_singleton (h c hc)

theorem balanced_method (h : ∀ c ∈ cs, isNameChar c = true) : Balanced (cs ++ ['(']) := by
  have hmarks : ∀ c ∈ scannedMarks, isNameChar c = false := by decide
  refine balanced_of_forall fun c hc hmark => ?_
  rcases List.mem_append.mp hc with hc | hc
  · exact absurd (h c hc) (by simp [hmarks c hmark])
  · obtain rfl := List.mem_singleton.mp hc
    exact absurd hmark (by decide)

/-- The body of a method is passed over by the scanner. -/
theorem balanced_bodyText (statements : List Statement) : Balanced (bodyText statements) := by
  have hmarks : ∀ c ∈ statementMarks, c ∉ scannedMarks := by decide
  have hfixed : ∀ cs ∈ fixedParts, ∀ c ∈ cs, c ∉ scannedMarks := by decide
  exact compositional_balanced.bodyText (fun _ => balanced_method)
    (fun c hc => balanced_singleton (hmarks c hc)) (fun cs hcs => balanced_of_forall (hfixed cs hcs))
    (fun _ => Balanced.block) statements

end MigrationPreview.Canonical
