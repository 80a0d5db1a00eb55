import PlannerConfig.Build
import PlannerConfig.Unknown

/-!
Mapping whole documents. If `strict`, values that nobody read fail the pass.
-/
namespace PlannerConfig

/-- Maps a build configuration. -/
def BuildConfig.load (document : Document) (features : FeatureSet) (strict : Bool)
    (source : Option String) : Pass BuildConfig := do
  let root := Node.root document source
  Pass.tell (.mappingBuild source)
  let config ← (BuildConfig.form features).read {} root
  let _ ← Pass.checkUnknown root strict
  return config

/-- The key of the default request in a router configuration. -/
def routingDefaultsKey : String := "routingDefaults"

/-- Maps the default request of a router configuration. What else there is does not matter. -/
def RouteRequest.loadDefaults (document : Document) (features : FeatureSet) (strict : Bool)
    (source : Option String) : Pass RouteRequest := do
  let root := Node.root document source
  let request ← (RouteRequest.defaultForm features routingDefaultsKey).read {} root
  let _ ← Pass.checkUnknown (root.child routingDefaultsKey) strict
  return request

end PlannerConfig
