import MigrationPreview.Text.Composition
import MigrationPreview.Url.LabelTable
import MigrationPreview.Url.Punycode

/-!
# Labels of domains

The parts of a domain between its dots. A label must not begin with a mark, and it may hold the two
invisible joiners only where they change how their neighbours look. As soon as one label of a domain
holds characters that are written from right to left, all labels must have a clear direction, after
RFC 5893.

## Main definitions

* `Url.Direction`, `Url.hasClearDirection`: the rule about directions
* `Url.joinersFit`: the rule about joiners
* `Url.isWellFormedLabel`: both rules about single labels
-/

namespace MigrationPreview.Url

open Text

/-! ### Direction -/

/-- How a character is placed in a line. -/
inductive Direction where
  | leftToRight
  | rightToLeft
  | europeanNumber
  | arabicNumber
  /-- A mark, which follows the character before it. -/
  | mark
  | neutral
  deriving DecidableEq

/-- The direction of a character. -/
def Direction.of (c : Char) : Direction :=
  let n := c.toNat
  if isNonspacing c && !directedMarks.contains n then .mark
  else if inRanges europeanNumberRanges n then .europeanNumber
  else if inRanges arabicNumberRanges n then .arabicNumber
  else if inRanges neutralRanges n then .neutral
  else if inRanges rightToLeftRanges n then .rightToLeft
  else .leftToRight

/-- Whether a character makes the direction of labels matter. -/
def isRightToLeft (c : Char) : Bool :=
  match Direction.of c with
  | .rightToLeft | .arabicNumber => true
  | _ => false

/-- Whether a label has a clear direction. It begins with a letter, which sets the direction, and
ends, marks aside, with a letter or number; letters of the other direction do not occur in it, nor
do numbers of both kinds in a label from right to left. -/
def hasClearDirection (label : List Char) : Bool :=
  let directions := label.map Direction.of
  let last := (directions.reverse.dropWhile (· = .mark)).head?
  match directions.head? with
  | none => true
  | some .leftToRight =>
    !directions.any [.rightToLeft, .arabicNumber].contains &&
      last.any [.leftToRight, .europeanNumber].contains
  | some .rightToLeft =>
    !directions.contains .leftToRight &&
      !(directions.contains .europeanNumber && directions.contains .arabicNumber) &&
      last.any [.rightToLeft, .europeanNumber, .arabicNumber].contains
  | some _ => false

/-! ### Joiners -/

/-- Whether a character has no shape of its own that others could join. -/
def isTransparent (c : Char) : Bool := isNonspacing c || c.toNat = 0x1E94B

/-- Whether a text begins, transparent characters aside, with one of the characters. -/
def startsWithJoining (ranges : List (Nat × Nat)) (cs : List Char) : Bool :=
  (cs.dropWhile isTransparent).head?.any fun c =>
    inRanges joinsBothRanges c.toNat || inRanges ranges c.toNat

/-- The combining class of the marks that silence the vowel of a consonant. -/
def viramaClass : Nat := 9

/-- Whether all joiners in a text fit in. Both joiners may follow a mark that silences a vowel; the
non-joiner may also separate letters that would be joined. The first argument is what stands before
the text, in reverse. -/
def joinersFit (before : List Char) : List Char → Bool
  | [] => true
  | c :: cs =>
    let fits :=
      if c = '\u200C' ∨ c = '\u200D' then
        before.head?.any (combiningClass · = viramaClass) ||
          (c = '\u200C' && startsWithJoining joinsBehindRanges before &&
            startsWithJoining joinsBeforeRanges cs)
      else true
    fits && joinersFit (c :: before) cs

/-! ### Single labels -/

/-- The greatest length of a label with characters beyond ASCII. -/
def maximalLabelLength : Nat := 1000

/-- Whether characters make up a label. Any ASCII characters do. -/
def isWellFormedLabel (label : List Char) : Bool :=
  !label.head?.any isMark && joinersFit [] label &&
    (label.all (·.toNat < 128) || label.length ≤ maximalLabelLength)

end MigrationPreview.Url
