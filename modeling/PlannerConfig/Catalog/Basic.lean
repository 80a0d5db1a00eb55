import PlannerConfig.Catalog.Entry
import PlannerConfig.Document.Path

/-!
The catalog of a mapping pass: the parameters that were read, in the order of reading, and the
places of the document whose values were consumed.
-/
namespace PlannerConfig

/-- Two entries for one path: the summaries of the one that is there and of the one refused. -/
structure Conflict where
  path : List String
  existing : String
  duplicate : String
  deriving DecidableEq, Repr

/-- A path as it is looked up: its names, or a text with points between them. -/
inductive Address
  | names (path : List String)
  | text (written : String)
  deriving DecidableEq, Repr

def Address.path : Address → List String
  | .names path => path
  | .text written => undotted written

structure Catalog where
  root : Entry := {}
  consumed : List Path := []

namespace Catalog

def find? (c : Catalog) (path : List String) : Option Entry := c.root.find? path

/-- The record of the parameter or group at a path. -/
def get? (c : Catalog) (path : List String) : Option Record := (c.find? path).bind Entry.record

/-- Whether a parameter is registered at a path. -/
def contains (c : Catalog) (path : List String) : Bool := (c.find? path).any Entry.isLeaf

/-- The record at an address. -/
def lookup? (c : Catalog) (address : Address) : Option Record := c.get? address.path

/-- Whether an address is that of a parameter. -/
def has (c : Catalog) (address : Address) : Bool := c.contains address.path

/-- Sets the record at its path. -/
def put (c : Catalog) (r : Record) : Catalog :=
  { c with root := c.root.update (fun e => { e with record := some r }) r.path }

@[simp] theorem get?_put_self (c : Catalog) (r : Record) : (c.put r).get? r.path = some r := by
  simp [get?, find?, put]

/-- What keeps a parameter from its path: a parameter above it, or parameters beneath it. -/
def conflict? (c : Catalog) (r : Record) : Option Conflict :=
  match c.root.leafAbove? r.path with
  | some above => some ⟨r.path, above.summary, r.summary⟩
  | none =>
    match c.find? r.path with
    | none => none
    | some e =>
      if Entry.anyHasLeaves e.children then
        some ⟨r.path, e.summary?.getD "<object>", r.summary⟩
      else none

/-- Registers a parameter. A parameter that is read again takes the place of the one before. -/
def register (c : Catalog) (r : Record) : Except Conflict Catalog :=
  match c.conflict? r with
  | some conflict => throw conflict
  | none => return c.put r

def isConsumed (c : Catalog) (path : Path) : Bool := c.consumed.contains path

/-- Notes that the value at a path was read. -/
def consume (c : Catalog) (path : Path) : Catalog :=
  if c.isConsumed path then c else { c with consumed := c.consumed ++ [path] }

@[simp] theorem isConsumed_consume {c : Catalog} {p q : Path} :
    (c.consume p).isConsumed q ↔ q = p ∨ c.isConsumed q := by
  unfold consume
  split <;> simp_all [isConsumed, or_comm]

/-- All places with parameters at or beneath them, depth first. -/
def walk (c : Catalog) : List Place := c.root.walk 0 []

/-- The parameters, depth first. -/
def leaves (c : Catalog) : List Record := c.walk.filterMap Place.leaf?

/-- The number of parameters. -/
def size (c : Catalog) : Nat := c.leaves.length

/-- The consumed paths in ascending order. -/
def consumedPaths (c : Catalog) : List Path := c.consumed.mergeSort Path.le

end Catalog

end PlannerConfig
