import PlannerConfig.Form

/-!
Flags that switch features on: an object with a truth value for each feature.
-/
namespace PlannerConfig

/-- What is said of the flag of a feature. -/
def Feature.note : Feature → Note
  | dataOverlay => {
      summary := "Enable the data overlay sandbox for routing."
      since := .v2_1 }
  | flexRouting => {
      summary := "Enable routing with flexible (on-demand) transit."
      since := .v2_0 }
  | sandboxApi => {
      summary := "Enable the experimental sandbox API endpoints."
      since := .v2_2 }

namespace FeatureSet

/-- The features of a list whose flags are on. -/
def flags : List Feature → Form FeatureSet (List Feature)
  | [] => pure []
  | f :: fs =>
    (fun on rest => if on then f :: rest else rest)
      <$> .boolean f.text (·.isOn f) f.note
      <*> flags fs

def form : Form FeatureSet FeatureSet := ChoiceSet.ofList <$> flags (Choice.all Feature)

end FeatureSet

end PlannerConfig
