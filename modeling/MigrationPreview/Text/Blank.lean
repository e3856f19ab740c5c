/-!
# Blank characters

A character is *blank* when it has the Unicode property `White_Space`. Migration sources, dialect
names and time stamps all skip blanks in this sense.

## Main definitions

* `Text.isBlank`: the property itself
* `Text.skipBlanks`: a text without its leading blanks
* `Text.trim`: a text without its leading and trailing blanks
-/

namespace MigrationPreview.Text

/-- Whether a character has the Unicode property `White_Space`. -/
def isBlank (c : Char) : Bool :=
  let n := c.toNat
  (0x09 ≤ n && n ≤ 0x0D) || n == 0x20 || n == 0x85 || n == 0xA0 || n == 0x1680 ||
    (0x2000 ≤ n && n ≤ 0x200A) || n == 0x2028 || n == 0x2029 || n == 0x202F || n == 0x205F ||
    n == 0x3000

/-- A text without its leading blanks. -/
def skipBlanks (cs : List Char) : List Char := cs.dropWhile isBlank

/-- A text without its trailing blanks. -/
def trimEnd (cs : List Char) : List Char := (cs.reverse.dropWhile isBlank).reverse

/-- A text without its leading and trailing blanks. -/
def trim (cs : List Char) : List Char := trimEnd (skipBlanks cs)

/-- `trim` on strings. -/
def trimString (s : String) : String := String.ofList (trim s.toList)

end MigrationPreview.Text
