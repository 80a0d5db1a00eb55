import PlannerConfig.Text.Blank

/-!
Paths that the reference leaves out, each with the document that describes it instead.
-/
namespace PlannerConfig

structure Skip where
  references : List (String × String) := []
  deriving DecidableEq, Repr

namespace Skip

def none : Skip := {}

/-- What is said of an odd number of texts. -/
def oddText : String := "SkipNodes.of expects pairs of (path, reference)"

/-- Paths and references in turn. The last reference of a path counts. -/
def pairs? : List String → Option (List (String × String))
  | [] => some []
  | path :: reference :: rest => (pairs? rest).map (· ++ [(path, reference)])
  | [_] => Option.none

def ofList? (texts : List String) : Option Skip := (pairs? texts).map Skip.mk

/-- The document that describes a path instead. -/
def reference? (s : Skip) (path : String) : Option String := s.references.lookup path

def isSkipped (s : Skip) (path : String) : Bool := (s.reference? path).isSome

end Skip

end PlannerConfig
