import MigrationPreview.Json.Form

/-!
# Risk levels

How much can be lost, in four levels. The risk of several things is the highest of theirs.
-/

namespace MigrationPreview

/-- A risk level. -/
inductive RiskLevel where
  | low
  | medium
  | high
  | critical
  deriving DecidableEq, Inhabited

instance : Enumerated RiskLevel where
  all := [.low, .medium, .high, .critical]
  name
    | .low => "low"
    | .medium => "medium"
    | .high => "high"
    | .critical => "critical"

namespace RiskLevel

/-- The name of a level. -/
abbrev name (r : RiskLevel) : String := Enumerated.name r

/-- The place of a level in their order. -/
def rank : RiskLevel → Nat
  | low => 0
  | medium => 1
  | high => 2
  | critical => 3

instance : LE RiskLevel := ⟨fun a b => a.rank ≤ b.rank⟩

instance (a b : RiskLevel) : Decidable (a ≤ b) := inferInstanceAs (Decidable (a.rank ≤ b.rank))

/-- The higher of two levels. -/
def max (a b : RiskLevel) : RiskLevel := if a ≤ b then b else a

/-- The highest of some levels, and `low` if there are none. -/
def highest (levels : List RiskLevel) : RiskLevel := levels.foldl max low

/-- The highest of some levels, if there is one. -/
def highest? : List RiskLevel → Option RiskLevel
  | [] => none
  | levels => some (highest levels)

end RiskLevel

end MigrationPreview
