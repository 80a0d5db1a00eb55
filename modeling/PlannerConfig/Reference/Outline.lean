import PlannerConfig.Catalog.Basic
import PlannerConfig.Reference.Skip

/-!
The outline of the reference: the entries that it shows, in the order of the catalog. Nothing is
shown beneath a skipped entry but its reference.
-/
namespace PlannerConfig

/-- An entry of the reference. Its display path marks lists with brackets. -/
structure Item where
  place : Place
  display : String
  parent : String
  reference : Option String

namespace Item

def depth (i : Item) : Nat := i.place.depth

def name (i : Item) : String := i.place.name

def record? (i : Item) : Option Record := i.place.entry.record

def isLeaf (i : Item) : Bool := i.place.entry.isLeaf

end Item

namespace Entry

/-- The display path of a child. -/
def displayUnder (parent name : String) (e : Entry) : String :=
  (if parent = "" then name else parent ++ "." ++ name) ++ if e.isList then "[]" else ""

mutual

/-- The items beneath an entry. -/
def outline (skip : Skip) (depth : Nat) (path : List String) (parent : String) : Entry → List Item
  | ⟨_, children⟩ => outlineAll skip depth path parent children

def outlineAll (skip : Skip) (depth : Nat) (path : List String) (parent : String) :
    List (String × Entry) → List Item
  | [] => []
  | (name, e) :: rest =>
    let here := path ++ [name]
    let item : Item :=
      { place := ⟨depth, here, e⟩
        display := e.displayUnder parent name
        parent
        reference := skip.reference? (dotted here) }
    let beneath :=
      if item.reference.isSome || e.isLeaf then []
      else e.outline skip (depth + 1) here item.display
    (if e.hasLeaves then item :: beneath else []) ++ outlineAll skip depth path parent rest

end

end Entry

/-- The items of the reference of a catalog. -/
def Catalog.outline (c : Catalog) (skip : Skip) : List Item := c.root.outline skip 0 [] ""

end PlannerConfig
