import PlannerConfig.Choice

/-!
Releases. A parameter is marked with the release that introduced it; parameters whose history is
not known are marked `na`, which comes before every release.
-/
namespace PlannerConfig

inductive Version
  | na
  | v1_5
  | v2_0
  | v2_1
  | v2_2
  | v2_3
  deriving DecidableEq, Repr

namespace Version

def text : Version → String
  | na => "na"
  | v1_5 => "1.5"
  | v2_0 => "2.0"
  | v2_1 => "2.1"
  | v2_2 => "2.2"
  | v2_3 => "2.3"

def name : Version → String
  | na => "NA"
  | v1_5 => "V1_5"
  | v2_0 => "V2_0"
  | v2_1 => "V2_1"
  | v2_2 => "V2_2"
  | v2_3 => "V2_3"

instance : Choice Version where
  enumeration := ⟨"ConfigVersion", [na, v1_5, v2_0, v2_1, v2_2, v2_3], fun v => ⟨v.name, v.text⟩⟩
  mem_members := by intro v; cases v <;> decide

/-- The place in the order of releases. -/
def rank : Version → Nat
  | na => 0
  | v1_5 => 1
  | v2_0 => 2
  | v2_1 => 3
  | v2_2 => 4
  | v2_3 => 5

instance : LT Version := ⟨fun v w => v.rank < w.rank⟩

instance : LE Version := ⟨fun v w => v.rank ≤ w.rank⟩

instance (v w : Version) : Decidable (v < w) := inferInstanceAs (Decidable (v.rank < w.rank))

instance (v w : Version) : Decidable (v ≤ w) := inferInstanceAs (Decidable (v.rank ≤ w.rank))

/-- Whether this is a release. -/
def isTracked (v : Version) : Bool := v ≠ na

def sort (vs : List Version) : List Version := vs.mergeSort fun v w => v ≤ w

end Version

end PlannerConfig
