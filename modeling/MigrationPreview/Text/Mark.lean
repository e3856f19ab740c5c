import MigrationPreview.Text.MarkTable
import MigrationPreview.Text.Table

/-!
# Marks

Marks belong to the letter before them. Several marks on one letter have a canonical order, which
their combining classes determine; a character of class zero begins a new letter.

## Main definitions

* `Text.isNonspacing`, `Text.isMark`: whether a character is a mark
* `Text.combiningClass`: the canonical combining class
* `Text.ordered`: a text with its marks in canonical order
-/

namespace MigrationPreview.Text

/-- Whether a character is a mark that takes no room of its own. -/
def isNonspacing (c : Char) : Bool := inRanges nonspacingRanges c.toNat

/-- Whether a character is a mark. -/
def isMark (c : Char) : Bool := isNonspacing c || inRanges spacingRanges c.toNat

/-- The canonical combining class of a character. -/
def combiningClass (c : Char) : Nat :=
  ((combiningRuns.find? fun (first, last, _) => first ≤ c.toNat && c.toNat ≤ last).map
    fun (_, _, k) => k).getD 0

/-- Puts a character in front of an ordered text. It moves behind the marks of lower classes. -/
def insertOrdered (c : Char) : List Char → List Char
  | [] => [c]
  | d :: ds =>
    if 0 < combiningClass d ∧ combiningClass d < combiningClass c then d :: insertOrdered c ds
    else c :: d :: ds

/-- A text with its marks in canonical order. Marks of the same class keep their order. -/
def ordered (cs : List Char) : List Char := cs.foldr insertOrdered []

end MigrationPreview.Text
