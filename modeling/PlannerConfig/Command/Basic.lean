import PlannerConfig.Command.Arguments
import PlannerConfig.Command.Project
import PlannerConfig.Load
import PlannerConfig.Reference.Details
import PlannerConfig.Reference.Snapshot

/-!
The command that keeps the reference of the build configuration up to date. It maps an example with
every feature on, so that all parameters are registered, and checks the reference made from them
against the committed one or brings it up to date.
-/
namespace PlannerConfig

/-- Why the command ends without a verdict. -/
inductive CommandError
  | stop (s : Stop)
  | load (e : LoadError)
  | mapping (f : Failure)
  | noDirectory
  | snapshot (e : SnapshotError)
  deriving DecidableEq, Repr

namespace Command

/-- What is said of an option that gives no directory. -/
def noDirectoryText : String := "unsupported operand type(s) for /: 'list' and 'str'"

/-- What the reference of the build configuration leaves to other documents. -/
def skip : Skip where
  references := [
    ("dataOverlay", "/docs/sandbox/DataOverlay.md"),
    ("transferRequests", "/docs/RouteRequest.md")]

/-- The heading level of the outermost parameters. -/
def headingLevel : Int := 3

/-- The catalog of the example with every feature on. -/
def exampleCatalog : Work CommandError Catalog := do
  let document ← ExceptT.adapt .load (loadConfig Project.examplePath)
  let (result, state) :=
    Pass.run (BuildConfig.load document (.full Feature) false (some Project.exampleName))
  modify fun s => { s with events := s.events ++ state.events }
  match result with
  | .ok _ => return state.catalog
  | .error f => throw (.mapping f)

/-- The file for the reference in a directory; `standard` is that of the project. -/
def referenceIn (standard : FilePath) (d : Directory) : Work CommandError FilePath :=
  match d with
  | .ofProject => return standard.child Project.referenceName
  | .given path => return path.child Project.referenceName
  | .ofMark => throw .noDirectory

/-- Whether the reference was up to date. -/
def check (a : Arguments) : Work CommandError Bool := do
  let output ← referenceIn Project.docs a.docs
  let catalog ← exampleCatalog
  let table := catalog.summaryTable skip
  let details := catalog.detailList skip headingLevel
  let template ← referenceIn Project.templates a.templates
  let (result, state) :=
    (checkDocumentation template output table details a.update).runFrom (← get)
  set state
  match result with
  | .ok _ =>
    Work.tell (.upToDate output.text)
    return true
  | .error (.drift d) =>
    Work.tell (if a.update then .updated output.text else .drifted d.message)
    return false
  | .error e => throw (.snapshot e)

/-- Goes through the command with its arguments and gives its exit code: one if the reference is out
of date and was not updated. -/
def run (arguments : List String) : Work CommandError Nat := do
  let a ←
    match Arguments.parse arguments with
    | .ok a => pure a
    | .error s => throw (.stop s)
  let upToDate ← check a
  return if upToDate || a.update then 0 else 1

end Command

end PlannerConfig
