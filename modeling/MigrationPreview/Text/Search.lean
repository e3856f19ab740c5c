/-!
# Finding a shape in a text

A *reader* looks at the beginning of a text and either recognises a shape there, returning what it
found and usually the text behind it, or gives up. The functions here look for a shape further in.

## Main definitions

* `Text.expect`: the reader of one fixed word
* `Text.firstMatch`: what a reader finds at the leftmost place where it succeeds
* `Text.contains`: whether a word occurs in a text
-/

namespace MigrationPreview.Text

/-- The text behind `word`, if the text begins with it. -/
def expect : List Char → List Char → Option (List Char)
  | [], cs => some cs
  | _ :: _, [] => none
  | w :: ws, c :: cs => if w = c then expect ws cs else none

/-- What `read` finds at the leftmost place of the text, its end included, where it succeeds. -/
def firstMatch {α : Type} (read : List Char → Option α) : List Char → Option α
  | [] => read []
  | c :: cs =>
    match read (c :: cs) with
    | some found => some found
    | none => firstMatch read cs

/-- Whether `word` occurs in the text. -/
def contains (word cs : List Char) : Bool := (firstMatch (expect word) cs).isSome

theorem expect_append (ws cs : List Char) : expect ws (ws ++ cs) = some cs := by
  induction ws with
  | nil => rfl
  | cons w ws ih => simp [expect, ih]

theorem eq_append_of_expect {ws cs rest : List Char} (h : expect ws cs = some rest) :
    cs = ws ++ rest := by
  induction ws generalizing cs with
  | nil => simpa [expect] using h
  | cons w ws ih =>
    cases cs with
    | nil => simp [expect] at h
    | cons c cs =>
      simp only [expect] at h
      split at h
      · next hw => simp [hw, ih h]
      · simp at h

end MigrationPreview.Text
