import PlannerConfig.Command.Basic
import PlannerConfig.Proofs.Reference.Snapshot

/-!
The command. What it is to check is decided by its directories and by the example. The reference that
it writes is never the example, so what it is to check is the same after an update as before.
-/
namespace PlannerConfig

open PlannerConfig.Text

/-- The document in a file. -/
def Files.document (f : Files) (path : FilePath) : Except LoadError Document :=
  match FileFormat.ofSuffix? path.suffix with
  | none => throw (.unsupported path)
  | some n => do
    let bytes ← (f.read path).mapError .file
    match n.read bytes with
    | .error e => throw (.unreadable path e)
    | .ok document => if document.isObject then return document else throw (.notAnObject path)

namespace Files

variable {f g : Files} {path : FilePath} {d : Document}

end Files

namespace Command

section runs

variable {arguments : List String} {a : Arguments} (s : Workspace)

end runs

section plan

variable {f g : Files} {templates docs : Directory} {p : Plan}

end plan

end Command

end PlannerConfig
