import PlannerConfig.Proofs.Command.Arguments
import PlannerConfig.Proofs.Command.Unmarked
import PlannerConfig.Proofs.Load
import PlannerConfig.Proofs.Reference.Template

/-!
Keeping a committed reference up to date. A check that only looks changes nothing, and one that updates
changes the reference alone; after an update the same check finds nothing to say. A template that is
wrong costs nothing, but a surrogate in what is to be written costs the committed text. The command
renders none.
-/
namespace PlannerConfig

open PlannerConfig.Text

section

variable (template output : FilePath) (table details : String) (s : Workspace)

end

namespace Command

end Command

section bare

end bare

section committed

end committed

end PlannerConfig
