import MigrationPreview.Url.DomainTable
import MigrationPreview.Url.Label

/-!
# Domains

The ASCII form of a domain. Characters are replaced by those that they stand for, and the result is
composed and cut into labels at its dots; a label with other characters than those of ASCII is
written in Punycode behind a marker. A label that is marked already must be the form of one.

## Main definitions

* `Url.replacement?`: what a character stands for
* `Url.readLabel?`: the characters of a label
* `Url.asciiDomain?`: the ASCII form of a domain
-/

namespace MigrationPreview.Url

open Text

/-! ### Characters -/

/-- The text that a character of the tables stands for. -/
def tabulatedReplacement? (n : Nat) : Option (List Char) :=
  if inRanges ignoredRanges n then some []
  else
    ((shifted? replacedRuns n).map fun m => [Char.ofNat m]) <|>
      (replacedLetters.findSome? fun (first, letters) =>
        if first ≤ n then letters.toList[n - first]?.map ([·]) else none) <|>
      (replacedByTexts.findSome? fun (first, texts) =>
        if first ≤ n then texts[n - first]?.map String.toList else none)

/-- The text that a character of a domain stands for, if it may be written in one. -/
def replacement? (c : Char) : Option (List Char) :=
  if inRanges permittedRanges c.toNat then some ((tabulatedReplacement? c.toNat).getD [c])
  else none

/-! ### Labels -/

/-- The greatest length of the form of a label. -/
def maximalFormLength : Nat := 2000

/-- The characters of a label, which may be given by their form. A form stands for characters that
need it: at least one is beyond ASCII, none is replaced, and they are composed. -/
def readLabel? (label : List Char) : Option (List Char) :=
  match label with
  | 'x' :: 'n' :: '-' :: '-' :: form =>
    if form.isEmpty ∨ form.getLast? = some '-' ∨ maximalFormLength < form.length then none
    else
      (Punycode.decode? form).filter fun cs =>
        cs.all (fun c => replacement? c = some [c]) && composed cs == cs
  | _ => some label

/-- The ASCII form of a label. -/
def asciiLabel (label : List Char) : List Char :=
  if label.all (·.toNat < 128) then label else "xn--".toList ++ Punycode.encode label

/-! ### Domains -/

/-- The ASCII form of a domain, if all of its labels are well-formed. -/
def asciiDomain? (cs : List Char) : Option (List Char) := do
  let replaced ← cs.mapM replacement?
  let labels ← ((composed replaced.flatten).splitOn '.').mapM readLabel?
  let directed := !labels.any (·.any isRightToLeft) || labels.all hasClearDirection
  if directed && labels.all isWellFormedLabel then
    return ['.'].intercalate (labels.map asciiLabel)
  else none

end MigrationPreview.Url
