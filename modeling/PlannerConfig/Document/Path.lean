import PlannerConfig.Document.Basic

/-!
Paths into a document. A concrete path has keys and indexes; the keys alone name a parameter.
-/
namespace PlannerConfig

inductive Step
  | key (name : String)
  | index (i : Int)
  deriving DecidableEq, Repr

/-- The way from the root of a document to a place in it. -/
abbrev Path := List Step

namespace Path

/-- One more step at the end of a path's text: a key comes after a point unless nothing has been
written yet, an index stands in brackets. -/
def extendText (text : String) : Step → String
  | .key name => if text = "" then name else text ++ "." ++ name
  | .index i => text ++ "[" ++ toString i ++ "]"

/-- The path as messages show it, such as `transferRequests[1].walkSpeed`. -/
def text (path : Path) : String := path.foldl extendText ""

/-- The keys of a path without its indexes. -/
def keys (path : Path) : List String :=
  path.filterMap fun
    | .key name => some name
    | .index _ => none

@[simp] theorem keys_nil : keys [] = [] := rfl

@[simp] theorem keys_append (p q : Path) : keys (p ++ q) = keys p ++ keys q :=
  List.filterMap_append

@[simp] theorem keys_key (name : String) : keys [.key name] = [name] := rfl

@[simp] theorem keys_index (i : Int) : keys [.index i] = [] := rfl

/-- Order step by step: indexes by number and before keys, keys by code point, and a path before
those that go on from it. -/
def le : Path → Path → Bool
  | [], _ => true
  | _ :: _, [] => false
  | .index i :: p, .index j :: q => i < j || i == j && le p q
  | .index _ :: _, .key _ :: _ => true
  | .key _ :: _, .index _ :: _ => false
  | .key j :: p, .key k :: q => j < k || j == k && le p q

end Path

end PlannerConfig
