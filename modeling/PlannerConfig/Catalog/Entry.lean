import PlannerConfig.Document.Basic
import PlannerConfig.Parameter.Record

/-!
The tree of parameters. An entry with the record of a parameter is a leaf; other entries are groups,
with or without a record of their own. Children stand in the order in which they were first named.
-/
namespace PlannerConfig

structure Entry where
  record : Option Record := none
  children : List (String × Entry) := []

namespace Entry

/-- Whether this is a parameter and not a group. -/
def isLeaf (e : Entry) : Bool := e.record.any (!·.isGroup)

/-- Whether this is a group with one part for each element of an array. -/
def isList (e : Entry) : Bool := e.record.any (·.valueType == .objectList)

def summary? (e : Entry) : Option String := e.record.map Record.summary

mutual

/-- Whether there is a parameter at this entry or beneath it. -/
def hasLeaves : Entry → Bool
  | ⟨record, children⟩ => (⟨record, children⟩ : Entry).isLeaf || anyHasLeaves children

def anyHasLeaves : List (String × Entry) → Bool
  | [] => false
  | (_, e) :: rest => e.hasLeaves || anyHasLeaves rest

end

def child? (name : String) (e : Entry) : Option Entry := e.children.lookup name

/-- The entry that a path leads to. -/
def find? : List String → Entry → Option Entry
  | [], e => some e
  | name :: rest, e => (e.child? name).bind (find? rest)

@[simp] theorem find?_nil (e : Entry) : e.find? [] = some e := rfl

@[simp] theorem find?_cons (name : String) (rest : List String) (e : Entry) :
    e.find? (name :: rest) = (e.child? name).bind (find? rest) := rfl

theorem find?_append (p q : List String) (e : Entry) :
    e.find? (p ++ q) = (e.find? p).bind (find? q) := by
  induction p generalizing e with
  | nil => rfl
  | cons name rest ih => cases h : e.child? name <;> simp [h, ih]

/-- The entry with the entry at a path replaced; entries that are missing on the way are made. -/
def update (f : Entry → Entry) : List String → Entry → Entry
  | [], e => f e
  | name :: rest, e =>
    { e with children := setField name (update f rest ((e.child? name).getD {})) e.children }

@[simp] theorem find?_update_self (f : Entry → Entry) (path : List String) (e : Entry) :
    (e.update f path).find? path = some (f ((e.find? path).getD {})) := by
  induction path generalizing e with
  | nil => rfl
  | cons name rest ih =>
    have absent : (({} : Entry).find? rest).getD {} = {} := by
      cases rest <;> simp [child?]
    rw [find?_cons, find?_cons]
    have : (e.update f (name :: rest)).child? name
        = some (((e.child? name).getD {}).update f rest) := by simp [update, child?]
    rw [this]
    cases e.child? name <;> simp [ih, absent]

/-- The first parameter on the way to a path, its end apart. -/
def leafAbove? : List String → Entry → Option Record
  | name :: next :: rest, e =>
    match e.child? name with
    | none => none
    | some c => if c.isLeaf then c.record else leafAbove? (next :: rest) c
  | _, _ => none

end Entry

/-- An entry with its path and the number of groups around it. -/
structure Place where
  depth : Nat
  path : List String
  entry : Entry

namespace Place

def name (p : Place) : String := p.path.getLast?.getD ""

/-- The record of a place that is a parameter. -/
def leaf? (p : Place) : Option Record := if p.entry.isLeaf then p.entry.record else none

end Place

namespace Entry

mutual

/-- The places beneath an entry, depth first. Groups without parameters are left out, and nothing
lies beneath a parameter. -/
def walk (depth : Nat) (path : List String) : Entry → List Place
  | ⟨_, children⟩ => walkAll depth path children

def walkAll (depth : Nat) (path : List String) : List (String × Entry) → List Place
  | [] => []
  | (name, e) :: rest =>
    let here : Place := ⟨depth, path ++ [name], e⟩
    let beneath :=
      if e.isLeaf then [here]
      else if e.hasLeaves then here :: e.walk (depth + 1) here.path
      else []
    beneath ++ walkAll depth path rest

end

end Entry

end PlannerConfig
