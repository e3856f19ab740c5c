import MigrationPreview.Text.AlphanumericTable
import MigrationPreview.Text.Table

/-!
# Letters and numbers

The characters that names of variables and of log channels begin with. Digits of all scripts count,
and so do fractions and superscripts; connecting punctuation does not.

## Main definitions

* `Text.isAlphanumeric`: whether a character is a letter or a number
-/

namespace MigrationPreview.Text

/-- Whether a character is a letter or a number: an ASCII letter or digit, or a character of
`alphanumericRanges`. -/
def isAlphanumeric (c : Char) : Bool := c.isAlphanum || inRanges alphanumericRanges c.toNat

end MigrationPreview.Text
