import PlannerConfig.Document.Basic

/-!
Layering documents. An object laid over an object is merged key by key; anything else, arrays and
null included, takes the place of what was there.
-/
namespace PlannerConfig.Document

mutual

/-- The fields of an object laid over those of another. -/
def mergeFields (base : List (String × Document)) :
    List (String × Document) → List (String × Document)
  | [] => base
  | (key, value) :: rest =>
    mergeFields (setField key (layOver (base.lookup key) value) base) rest

/-- A value laid over another, or over nothing. -/
def layOver : Option Document → Document → Document
  | some (object base), object fields => object (mergeFields base fields)
  | _, value => value

end

/-- The second document laid over the first. -/
def merge (base layer : Document) : Document := layOver (some base) layer

/-- Documents laid one over the other in order, from the empty object. -/
def mergeAll (layers : List Document) : Document := layers.foldl merge (object [])

end PlannerConfig.Document
