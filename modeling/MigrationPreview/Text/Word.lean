import MigrationPreview.Text.Table
import MigrationPreview.Text.WordTable

/-!
# Word characters

Method names consist of *word characters*: letters, marks, digits and connecting punctuation.

## Main definitions

* `Text.isWord`: whether a character may stand in a word
-/

namespace MigrationPreview.Text

/-- Whether a character may stand in a word: an ASCII letter, digit or underscore, or a character
of `wordRanges`. -/
def isWord (c : Char) : Bool :=
  c.isAlphanum || c == '_' || inRanges wordRanges c.toNat

end MigrationPreview.Text
