/-!
# Tables of characters

Properties and mappings of characters are given by tables of runs: neighbouring characters with the
same property, or with images that lie as far apart as they do.

## Main definitions

* `Text.inRanges`: membership in a table of ranges
* `Text.ShiftRun`, `Text.shifted?`: a table of mappings
-/

namespace MigrationPreview.Text

/-- Whether `n` lies in one of the ranges, ends included. -/
def inRanges (ranges : List (Nat × Nat)) (n : Nat) : Bool :=
  ranges.any fun range => range.1 ≤ n && n ≤ range.2

/-- A run of characters that are mapped alike: every `step`-th character from `first` to `last`
is mapped to the character as far behind `target` as it is behind `first`. -/
structure ShiftRun where
  first : Nat
  last : Nat
  step : Nat
  target : Nat

/-- The image of a character that the run maps. -/
def ShiftRun.image? (run : ShiftRun) (n : Nat) : Option Nat :=
  if run.first ≤ n ∧ n ≤ run.last ∧ (n - run.first) % run.step = 0 then
    some (run.target + (n - run.first))
  else none

/-- The image of a character that one of the runs maps. -/
def shifted? (runs : List ShiftRun) (n : Nat) : Option Nat := runs.findSome? (·.image? n)

end MigrationPreview.Text
