import PlannerConfig.Choice

/-!
Optional features. A group of parameters may be read only when its feature is on.
-/
namespace PlannerConfig

inductive Feature
  | dataOverlay
  | flexRouting
  | sandboxApi
  deriving DecidableEq, Repr

namespace Feature

/-- The name of the feature in documents. -/
def text : Feature → String
  | dataOverlay => "DataOverlay"
  | flexRouting => "FlexRouting"
  | sandboxApi => "SandboxAPI"

def name : Feature → String
  | dataOverlay => "DATA_OVERLAY"
  | flexRouting => "FLEX_ROUTING"
  | sandboxApi => "SANDBOX_API"

instance : Choice Feature where
  enumeration := ⟨"Feature", [dataOverlay, flexRouting, sandboxApi], fun f => ⟨f.name, f.text⟩⟩
  mem_members := by intro f; cases f <;> decide

end Feature

/-- The features that are on. -/
abbrev FeatureSet := ChoiceSet Feature

def FeatureSet.isOn (features : FeatureSet) (f : Feature) : Bool := f ∈ features

end PlannerConfig
