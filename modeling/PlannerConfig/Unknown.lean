import PlannerConfig.Pass

/-!
Values of a document that nobody read, usually under misspelled keys. A value counts as read if it
was consumed itself or lies in one that was.
-/
namespace PlannerConfig

open PlannerConfig.Text

mutual

/-- The paths of the scalars in a document that are not consumed, in document order. `path` is the
path of the document. -/
def unread (consumed : Path → Bool) (path : Path) : Document → List Path
  | .null => []
  | .array items => if consumed path then [] else unreadItems consumed path 0 items
  | .object fields => if consumed path then [] else unreadFields consumed path fields
  | _ => if consumed path || path.isEmpty then [] else [path]

def unreadItems (consumed : Path → Bool) (path : Path) (index : Nat) : List Document → List Path
  | [] => []
  | item :: items =>
    unread consumed (path ++ [.index index]) item ++ unreadItems consumed path (index + 1) items

def unreadFields (consumed : Path → Bool) (path : Path) : List (String × Document) → List Path
  | [] => []
  | (key, value) :: fields =>
    unread consumed (path ++ [.key key]) value ++ unreadFields consumed path fields

end

/-- The paths of the unread values at a node as messages show them. -/
def Catalog.unknown (c : Catalog) (n : Node) : List String :=
  match n.value with
  | none => []
  | some d => (unread c.isConsumed n.path d).map Path.text

/-- Gives the unread values at a node and tells of them. If `strict`, there must be none. -/
def Pass.checkUnknown (n : Node) (strict : Bool) : Pass (List String) := do
  let paths := (← get).catalog.unknown n
  if !paths.isEmpty then
    if strict then throw (.unknown paths n.source)
    Pass.tell (.unknownIgnored paths n.source)
  return paths

end PlannerConfig
