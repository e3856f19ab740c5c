import MigrationPreview.Text.CompositionTable
import MigrationPreview.Text.Mark

/-!
# Composed form

The normal form in which a letter and its marks are one character where there is such a character. A
text is decomposed, its marks are ordered, and each letter is composed with the marks that no mark of
the same or a higher class separates from it.

Characters that decompose but are never the result of a composition are left alone. Texts in which
they occur have to replace them first.

## Main definitions

* `Text.composition?`: the character that two characters compose to
* `Text.decomposed`, `Text.composed`: the normal forms of a text
-/

namespace MigrationPreview.Text

/-! ### Hangul -/

/-- The syllable that a leading consonant and a vowel, or a syllable and a trailing consonant,
compose to. -/
def hangulComposition? (a b : Nat) : Option Nat :=
  if 0x1100 ≤ a ∧ a < 0x1113 ∧ 0x1161 ≤ b ∧ b < 0x1176 then
    some (0xAC00 + ((a - 0x1100) * 21 + (b - 0x1161)) * 28)
  else if 0xAC00 ≤ a ∧ a < 0xD7A4 ∧ (a - 0xAC00) % 28 = 0 ∧ 0x11A8 ≤ b ∧ b < 0x11C3 then
    some (a + (b - 0x11A7))
  else none

/-- The consonants and the vowel of a syllable. -/
def hangulDecomposition? (n : Nat) : Option (List Nat) :=
  if 0xAC00 ≤ n ∧ n < 0xD7A4 then
    let syllable := n - 0xAC00
    let opening := [0x1100 + syllable / 28 / 21, 0x1161 + syllable / 28 % 21]
    some (if syllable % 28 = 0 then opening else opening ++ [0x11A7 + syllable % 28])
  else none

/-! ### Single characters -/

/-- The character that two characters compose to. -/
def composition? (a b : Char) : Option Char :=
  (((compositions.lookup b.toNat).bind (·.lookup a.toNat)).or
    (hangulComposition? a.toNat b.toNat)).map Char.ofNat

/-- The two characters that a character is composed of, by the table. -/
def parts? (c : Char) : Option (Char × Char) :=
  compositions.findSome? fun (second, pairs) =>
    (pairs.find? (·.2 = c.toNat)).map fun (first, _) => (Char.ofNat first, Char.ofNat second)

/-- The characters that a character is composed of. A character of the table is taken apart at most
`fuel` times, and none needs more than three. -/
def decomposeChar : Nat → Char → List Char
  | 0, c => [c]
  | fuel + 1, c =>
    match hangulDecomposition? c.toNat, parts? c with
    | some ns, _ => ns.map Char.ofNat
    | none, some (first, second) => decomposeChar fuel first ++ [second]
    | none, none => [c]

/-! ### Texts -/

/-- A text taken apart, with its marks in order. -/
def decomposed (cs : List Char) : List Char := ordered (cs.flatMap (decomposeChar 3))

/-- Composes what follows a letter. The marks that stay behind it are given in reverse. -/
def composeBehind (letter : Char) (marks : List Char) : List Char → List Char
  | [] => letter :: marks.reverse
  | c :: cs =>
    let adjacent := match marks with
      | [] => true
      | m :: _ => combiningClass m < combiningClass c
    match if adjacent then composition? letter c else none with
    | some d => composeBehind d marks cs
    | none =>
      if combiningClass c = 0 then letter :: marks.reverse ++ composeBehind c [] cs
      else composeBehind letter (c :: marks) cs

/-- The composed form of a text. -/
def composed (cs : List Char) : List Char :=
  let taken := decomposed cs
  let leading := taken.takeWhile (0 < combiningClass ·)
  match taken.drop leading.length with
  | [] => leading
  | letter :: rest => leading ++ composeBehind letter [] rest

end MigrationPreview.Text
