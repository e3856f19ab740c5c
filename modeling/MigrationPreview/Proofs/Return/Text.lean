import Mathlib.Data.List.Forall2
import MigrationPreview.Proofs.Related
import MigrationPreview.Proofs.Text

/-!
# Carriage returns in a text

A carriage return is a blank, so in front of another blank it makes hardly a difference: where blanks are
skipped one more is skipped, and a run of characters that no blank belongs to ends where it did. Two texts
that differ in such carriage returns are related here, and what is read of the one is related to what is
read of the other.

## Main definitions

* `Text.Returned`: a text with carriage returns in front of some of its separators
* `Text.withReturns`, `Text.withoutReturns`: a carriage return in front of every line break, and none at all

## Main results

* `Text.Returned.skipBlanks_cases`: behind the blanks both texts go on with the same character
* `Text.Returned.expect`, `Text.Returned.firstMatch`: a word and a search in both texts
* `Text.forall₂_splitOn`: the lines of both texts
-/

namespace MigrationPreview.Text

variable {α β γ δ : Type} {separator : Char} {cs ds cs' ds' : List Char}

/-! ### Texts with carriage returns -/

/-- The second text is the first one with carriage returns in front of some of its separators, which are
blank. -/
inductive Returned (separator : Char) : List Char → List Char → Prop where
  | nil : Returned separator [] []
  | cons (c : Char) {cs ds : List Char} (h : Returned separator cs ds) :
      Returned separator (c :: cs) (c :: ds)
  | insert {cs ds : List Char} (hblank : isBlank separator = true) (h : Returned separator cs ds) :
      Returned separator (separator :: cs) ('\r' :: separator :: ds)

/-- A text with a carriage return in front of every line break. -/
def withReturns (cs : List Char) : List Char :=
  cs.flatMap fun c => if c = '\n' then ['\r', '\n'] else [c]

/-- A text without its carriage returns. -/
def withoutReturns (s : String) : String := String.ofList (s.toList.filter (· != '\r'))

theorem returned_withReturns (cs : List Char) : Returned '\n' cs (withReturns cs) := by
  induction cs with
  | nil => exact .nil
  | cons c cs ih =>
    rw [withReturns, List.flatMap_cons]
    split
    · next hc =>
      rw [hc]
      exact .insert (by decide) ih
    · exact .cons c ih

namespace Returned

theorem refl (cs : List Char) : Returned separator cs cs := by
  induction cs with
  | nil => exact .nil
  | cons c cs ih => exact .cons c ih

theorem append (h : Returned separator cs ds) (h' : Returned separator cs' ds') :
    Returned separator (cs ++ cs') (ds ++ ds') := by
  induction h with
  | nil => exact h'
  | cons c _ ih => exact .cons c ih
  | insert hblank _ ih => exact .insert hblank ih

theorem filter_eq (h : Returned separator cs ds) :
    ds.filter (· != '\r') = cs.filter (· != '\r') := by
  induction h with
  | nil => rfl
  | cons c _ ih => rw [List.filter_cons, List.filter_cons, ih]
  | insert _ _ ih =>
    rw [List.filter_cons_of_neg (by simp), List.filter_cons, List.filter_cons, ih]

theorem withoutReturns_eq (h : Returned separator cs ds) :
    withoutReturns (String.ofList ds) = withoutReturns (String.ofList cs) := by
  rw [withoutReturns, withoutReturns, String.toList_ofList, String.toList_ofList, h.filter_eq]

/-- There are as many line breaks in both texts. -/
theorem count_eq (h : Returned separator cs ds) : ds.count '\n' = cs.count '\n' := by
  induction h with
  | nil => rfl
  | cons c _ ih => rw [List.count_cons, List.count_cons, ih]
  | insert _ _ ih =>
    rw [List.count_cons_of_ne (by decide), List.count_cons, List.count_cons, ih]

theorem eq_nil_iff (h : Returned separator cs ds) : ds = [] ↔ cs = [] := by
  cases h <;> simp

/-! ### Runs of characters -/

variable {p : Char → Bool}

/-- A run to which all blanks belong goes on over the same characters, and ends with the same one. -/
theorem dropWhile_cases (hp : ∀ c, isBlank c = true → p c = true) (h : Returned separator cs ds) :
    (cs.dropWhile p = [] ∧ ds.dropWhile p = []) ∨
      ∃ c cs' ds', p c = false ∧ cs.dropWhile p = c :: cs' ∧ ds.dropWhile p = c :: ds' ∧
        Returned separator cs' ds' := by
  induction h with
  | nil => exact .inl ⟨rfl, rfl⟩
  | cons c h ih =>
    cases hc : p c with
    | true => rwa [List.dropWhile_cons_of_pos hc, List.dropWhile_cons_of_pos hc]
    | false =>
      have hneg : ¬ p c = true := by simp [hc]
      rw [List.dropWhile_cons_of_neg hneg, List.dropWhile_cons_of_neg hneg]
      exact .inr ⟨c, _, _, hc, rfl, rfl, h⟩
  | insert hblank _ ih =>
    have hreturn : p '\r' = true := hp '\r' (by decide)
    rwa [List.dropWhile_cons_of_pos (hp _ hblank), List.dropWhile_cons_of_pos hreturn,
      List.dropWhile_cons_of_pos (hp _ hblank)]

theorem takeWhile (hp : ∀ c, isBlank c = true → p c = true) (h : Returned separator cs ds) :
    Returned separator (cs.takeWhile p) (ds.takeWhile p) := by
  induction h with
  | nil => exact .nil
  | cons c h ih =>
    cases hc : p c with
    | true =>
      rw [List.takeWhile_cons_of_pos hc, List.takeWhile_cons_of_pos hc]
      exact .cons c ih
    | false =>
      have hneg : ¬ p c = true := by simp [hc]
      rw [List.takeWhile_cons_of_neg hneg, List.takeWhile_cons_of_neg hneg]
      exact .nil
  | insert hblank _ ih =>
    have hreturn : p '\r' = true := hp '\r' (by decide)
    rw [List.takeWhile_cons_of_pos (hp _ hblank), List.takeWhile_cons_of_pos hreturn,
      List.takeWhile_cons_of_pos (hp _ hblank)]
    exact .insert hblank ih

/-- A run to which no blank belongs is the same in both texts. -/
theorem takeWhile_eq (hp : ∀ c, isBlank c = true → p c = false) (h : Returned separator cs ds) :
    ds.takeWhile p = cs.takeWhile p := by
  induction h with
  | nil => rfl
  | cons c h ih => rw [List.takeWhile_cons, List.takeWhile_cons, ih]
  | insert hblank _ ih =>
    rw [List.takeWhile_cons_of_neg (by simp [hp '\r' (by decide)]),
      List.takeWhile_cons_of_neg (by simp [hp _ hblank])]

theorem dropWhile (hp : ∀ c, isBlank c = true → p c = false) (h : Returned separator cs ds) :
    Returned separator (cs.dropWhile p) (ds.dropWhile p) := by
  induction h with
  | nil => exact .nil
  | cons c h ih =>
    rw [List.dropWhile_cons, List.dropWhile_cons]
    split
    · exact ih
    · exact .cons c h
  | insert hblank h ih =>
    rw [List.dropWhile_cons_of_neg (by simp [hp _ hblank]),
      List.dropWhile_cons_of_neg (by simp [hp '\r' (by decide)])]
    exact .insert hblank h

/-- Behind the blanks both texts go on with the same character. -/
theorem skipBlanks_cases (h : Returned separator cs ds) :
    (skipBlanks cs = [] ∧ skipBlanks ds = []) ∨
      ∃ c cs' ds', isBlank c = false ∧ skipBlanks cs = c :: cs' ∧ skipBlanks ds = c :: ds' ∧
        Returned separator cs' ds' :=
  dropWhile_cases (fun _ hc => hc) h

theorem skipBlanks (h : Returned separator cs ds) :
    Returned separator (skipBlanks cs) (skipBlanks ds) := by
  rcases h.skipBlanks_cases with ⟨hcs, hds⟩ | ⟨c, cs', ds', -, hcs, hds, h'⟩
  · rw [hcs, hds]
    exact .nil
  · rw [hcs, hds]
    exact .cons c h'

/-! ### Words and searches -/

/-- A word without blanks begins both texts or neither. -/
theorem expect {word : List Char} (hword : ∀ c ∈ word, isBlank c = false)
    (h : Returned separator cs ds) :
    Option.Rel (Returned separator) (expect word cs) (Text.expect word ds) := by
  induction word generalizing cs ds with
  | nil => exact .some h
  | cons w word ih =>
    obtain ⟨hw, hword⟩ := List.forall_mem_cons.mp hword
    cases h with
    | nil => exact .none
    | cons c h =>
      rw [Text.expect, Text.expect]
      split
      · exact ih hword h
      · exact .none
    | insert hblank h =>
      have hreturn : w ≠ '\r' := (ne_of_isBlank (by decide) hw).symm
      have hseparator : w ≠ separator := (ne_of_isBlank hblank hw).symm
      rw [Text.expect, Text.expect, if_neg hreturn, if_neg hseparator]
      exact .none

/-- A search whose reader finds nothing at a carriage return finds the same in both texts. -/
theorem firstMatch {P : α → β → Prop} {read : List Char → Option α} {read' : List Char → Option β}
    (hread : ∀ {cs ds}, Returned separator cs ds → Option.Rel P (read cs) (read' ds))
    (hreturn : ∀ ds, read' ('\r' :: ds) = none) (h : Returned separator cs ds) :
    Option.Rel P (firstMatch read cs) (Text.firstMatch read' ds) := by
  have step : ∀ {c cs ds}, Returned separator (c :: cs) (c :: ds) →
      Option.Rel P (Text.firstMatch read cs) (Text.firstMatch read' ds) →
      Option.Rel P (Text.firstMatch read (c :: cs)) (Text.firstMatch read' (c :: ds)) := by
    intro c cs ds h hrest
    rw [firstMatch_cons, firstMatch_cons]
    rcases rel_cases (hread h) with ⟨hcs, hds⟩ | ⟨a, b, hcs, hds, hab⟩
    · rw [hcs, hds]
      exact hrest
    · rw [hcs, hds]
      exact .some hab
  induction h with
  | nil => exact hread .nil
  | cons c h ih => exact step (.cons c h) ih
  | insert hblank h ih =>
    rw [firstMatch_cons (c := '\r'), hreturn, Option.none_or]
    exact step (.cons _ h) ih

end Returned

/-! ### Lines -/

/-- The second line is the first one, perhaps with a carriage return behind it. -/
def EndsAlike (line line' : List Char) : Prop := line' = line ∨ line' = line ++ ['\r']

/-- The lines of both texts end alike. -/
theorem forall₂_splitOn (h : Returned '\n' cs ds) :
    List.Forall₂ EndsAlike (cs.splitOn '\n') (ds.splitOn '\n') := by
  induction h with
  | nil => exact .cons (.inl rfl) .nil
  | cons c _ ih =>
    rw [List.splitOn_cons_eq_if_modifyHead, List.splitOn_cons_eq_if_modifyHead]
    split
    · exact .cons (.inl rfl) ih
    · generalize List.splitOn '\n' _ = lines at ih ⊢
      generalize List.splitOn '\n' _ = lines' at ih ⊢
      cases ih with
      | nil => exact .nil
      | cons hline hlines => exact .cons (hline.imp (congrArg (c :: ·)) (congrArg (c :: ·))) hlines
  | insert _ _ ih =>
    rw [List.splitOn_cons_eq_if_modifyHead, List.splitOn_cons_eq_if_modifyHead,
      List.splitOn_cons_eq_if_modifyHead]
    exact .cons (.inr rfl) ih

namespace EndsAlike

variable {line line' : List Char}

theorem trim_eq (h : EndsAlike line line') : trim line' = trim line := by
  rcases h with rfl | rfl
  · rfl
  · exact trim_append_blanks (by decide) line

/-- Both lines hold the same words. -/
theorem contains_eq {word : List Char} (hword : '\r' ∉ word) (h : EndsAlike line line') :
    contains word line' = contains word line := by
  rcases h with rfl | rfl
  · rfl
  · rw [Bool.eq_iff_iff, contains_iff_isInfix, contains_iff_isInfix, List.infix_concat_iff,
      List.suffix_concat_iff]
    refine ⟨?_, .inr⟩
    rintro ((rfl | ⟨front, rfl, -⟩) | hinfix)
    · exact List.nil_infix
    · simp at hword
    · exact hinfix

theorem contains_semicolon (h : EndsAlike line line') : line'.contains ';' = line.contains ';' := by
  rcases h with rfl | rfl
  · rfl
  · rw [List.contains_append]
    simp

end EndsAlike

end MigrationPreview.Text
