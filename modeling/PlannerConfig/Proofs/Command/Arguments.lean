import Mathlib.Data.List.Infix
import Mathlib.Tactic.Lemma
import PlannerConfig.Command.Arguments

/-!
Arguments that ask for an update. Nothing else sets it: the value of an option never does, however it
is written.
-/
namespace PlannerConfig

namespace Argument

end Argument

namespace Arguments

end Arguments

end PlannerConfig
