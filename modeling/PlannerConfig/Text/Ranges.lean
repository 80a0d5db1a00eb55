/-!
Sets of code points given by ascending ranges. The search stops at the first range that starts
beyond the code point looked for.
-/
namespace PlannerConfig.Text

/-- Membership in a list of ascending, disjoint ranges `(first, last)`. -/
def inRanges : List (Nat × Nat) → Nat → Bool
  | [], _ => false
  | (first, last) :: rest, n => if n < first then false else n ≤ last || inRanges rest n

end PlannerConfig.Text
