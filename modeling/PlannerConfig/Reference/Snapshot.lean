import PlannerConfig.Diff.Unified
import PlannerConfig.Files.Load
import PlannerConfig.Reference.Template

/-!
Keeping a committed reference up to date: it is generated from its template and compared with what
was committed, byte for byte.
-/
namespace PlannerConfig

/-- A committed text that differs from the generated one. -/
structure Drift where
  name : String
  difference : String
  deriving DecidableEq, Repr

def Drift.message (d : Drift) : String :=
  "Generated documentation differs from " ++ d.name
    ++ ". Regenerate it and commit the result.\n" ++ d.difference

/-- Compares a generated text with the committed one. -/
def verify (name committed generated : String) : Except Drift Unit :=
  if generated = committed then return ()
  else
    throw ⟨name,
      Diff.unified (name ++ " (committed)") (name ++ " (generated)") committed generated⟩

inductive SnapshotError
  | file (e : FileError)
  | template (e : TemplateError)
  | drift (d : Drift)
  deriving DecidableEq, Repr

def SnapshotError.message : SnapshotError → String
  | file e => e.message
  | template e => e.message
  | drift d => d.message

/-- The text that was committed, nothing if there is none. -/
def Files.committed (f : Files) (path : FilePath) : Except FileError String := do
  if ← f.hasPath path then f.readText path else return ""

/-- Generates a reference and compares it with the committed one. With `update` it is written
first; that it was out of date is an error all the same. -/
def checkDocumentation (template output : FilePath) (table details : String) (update : Bool) :
    Work SnapshotError String := do
  let committed ← Work.ask .file (·.committed output)
  let source ← Work.ask .file (·.readText template)
  let generated ← Work.ask .template fun _ => fillTemplate source table details
  if update then
    Work.writeText .file output generated
    Work.tell (.wrote output.text)
  Work.ask .drift fun _ => verify output.text committed generated
  return generated

end PlannerConfig
