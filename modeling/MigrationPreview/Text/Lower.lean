import MigrationPreview.Text.LowerTable
import MigrationPreview.Text.Table

/-!
# Lower case

The full lower-case mapping of Unicode. Every character is mapped on its own, with two exceptions:
the dotted capital I becomes two characters, and a capital sigma becomes the final sigma where it
ends a word.

## Main definitions

* `Text.lowerChar`: the mapping of one character
* `Text.lowercase`: the mapping of a text
-/

namespace MigrationPreview.Text

/-- The simple lower-case mapping of one character. -/
def lowerChar (c : Char) : Char :=
  if c.toNat < 0x80 then c.toLower
  else
    match shifted? lowerRuns c.toNat with
    | some n => Char.ofNat n
    | none => c

/-- Whether a character is cased: a lower-case, upper-case or title-case letter. -/
def isCased (c : Char) : Bool := c.isAlpha || inRanges casedRanges c.toNat

/-- Whether a character is skipped when the surroundings of a sigma are examined. -/
def isCaseIgnorable (c : Char) : Bool :=
  c == '\x27' || c == '.' || c == ':' || c == '^' || c == '\x60' ||
    inRanges caseIgnorableRanges c.toNat

/-- Whether the first character that is not case-ignorable exists and is cased. -/
def startsCased (cs : List Char) : Bool :=
  match cs.dropWhile isCaseIgnorable with
  | [] => false
  | c :: _ => isCased c

/-- The lower case of the text `cs` that stands behind `before`, which is given in reverse: a
capital sigma is final when a cased character precedes it and none follows. -/
def lowercaseAfter (before : List Char) : List Char → List Char
  | [] => []
  | c :: cs =>
    let lowered :=
      if c = 'Σ' then if startsCased before && !startsCased cs then ['ς'] else ['σ']
      else if c = 'İ' then ['i', '\u0307']
      else [lowerChar c]
    lowered ++ lowercaseAfter (c :: before) cs

/-- The lower case of a text. -/
def lowercase (cs : List Char) : List Char := lowercaseAfter [] cs

/-- `lowercase` on strings. -/
def lowercaseString (s : String) : String := String.ofList (lowercase s.toList)

end MigrationPreview.Text
