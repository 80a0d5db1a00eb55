import PlannerConfig.Reference.Outline

/-!
The reference as data for tools.
-/
namespace PlannerConfig

structure ExportedParameter where
  path : String
  type : String
  required : Bool
  default : Option String
  since : String
  summary : String
  description : Option String
  deriving DecidableEq, Repr

structure ExportedReference where
  path : String
  reference : String
  deriving DecidableEq, Repr

structure Export where
  parameters : List ExportedParameter
  skipped : List ExportedReference
  deriving DecidableEq, Repr

namespace Item

def exportedReference? (i : Item) : Option ExportedReference :=
  i.reference.map fun reference => ⟨i.display, reference⟩

def exportedParameter? (i : Item) : Option ExportedParameter :=
  if i.reference.isSome then none
  else
    i.place.leaf?.map fun r =>
      { path := i.display
        type := r.typeName
        required := r.isRequired
        default := nonempty? r.defaultText
        since := r.since.text
        summary := r.summary
        description := r.description }

end Item

def Catalog.exported (c : Catalog) (skip : Skip) : Export where
  parameters := (c.outline skip).filterMap Item.exportedParameter?
  skipped := (c.outline skip).filterMap Item.exportedReference?

end PlannerConfig
