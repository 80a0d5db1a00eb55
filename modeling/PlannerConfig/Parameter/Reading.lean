import PlannerConfig.Parameter.Kind
import PlannerConfig.Pass

/-!
Reading one parameter. Each reading registers the parameter in the catalog, then gives the default
if the document has no value, and otherwise notes the value as consumed and coerces it. A value
that does not fit fails the pass; it is never replaced by the default.
-/
namespace PlannerConfig

/-- A parameter about to be read: its place in the document and what is said of it. -/
structure Parameter where
  node : Node
  note : Note

/-- The parameter under a key of a node. -/
def Node.parameter (n : Node) (name : String) (note : Note) : Parameter := ⟨n.child name, note⟩

namespace Parameter

variable {α κ : Type} (p : Parameter)

def misdeclared (cause : Misdeclaration) : Pass α := throw (.misdeclared p.node.path cause)

/-- The record of the parameter, as far as it does not depend on its kind. -/
def record (type : ValueType) (default : Value) : Pass Record :=
  match Record.ofNote? p.node.docPath type default p.note with
  | some r => return r
  | none => p.misdeclared .noSummary

/-- The value of a node as the coercion of a type gives it. -/
def coerceAt (n : Node) (expected : String) (coerce : Coercion α) : Pass α :=
  match coerce n.value with
  | .ok a => return a
  | .error (.because reason) => throw (.ofMismatch n.path expected n.value reason)
  | .error (.fault text) => throw (.fault text)

/-- Reads a parameter that has a value of its own. Without a default the value must be there. -/
def scalar (kind : Kind α) (default : Option α) : Pass α := do
  let record ← p.record kind.type (default.elim .required kind.toValue)
  Pass.register { record with enumType := kind.enumType, displayDefault := kind.displayDefault }
  if p.node.isMissing then
    match default with
    | some a => return a
    | none => throw (.missing p.node.path)
  else
    Pass.consume p.node
    coerceAt p.node kind.type.text kind.coerce

/-- The entry of a map under one key. -/
def entryAt (keys : Enumeration κ) (kind : Kind α) (n : Node) (key : String) : Pass (κ × α) := do
  let field := n.child key
  match keys.find? key with
  | none =>
    throw (.ofMismatch field.path ValueType.enum.text (some (.text key)) keys.notAMemberText)
  | some k => return (k, ← coerceAt field kind.type.text kind.coerce)

/-- Reads an object whose keys spell members; `none` if it is missing. Of two keys that spell one
member the later counts. -/
def entries [BEq κ] (keys : Enumeration κ) (kind : Kind α) (default : Value) :
    Pass (Option (List (κ × α))) := do
  let record ← p.record .enumMap default
  Pass.register { record with enumType := some keys.type, detailType := some kind.type.text }
  if p.node.isMissing then return none
  else if !p.node.isObject then
    throw (.ofMismatch p.node.path ("enum map of " ++ kind.type.text) p.node.value)
  else
    Pass.consume p.node
    let read ← p.node.keys.mapM (entryAt keys kind p.node)
    return some (read.foldl (fun map (k, a) => setField k a map) [])

/-- Reads an object whose keys spell members. -/
def enumMap [BEq κ] (keys : Enumeration κ) (kind : Kind α) (default : List (κ × α)) :
    Pass (List (κ × α)) := do
  let shown := Value.ofEntries (fun k => .member (keys.member k)) kind.toValue default
  return (← p.entries keys kind shown).getD default

/-- Registers a group and gives its node, which must be an object if it is there. -/
def object : Pass Node := do
  Pass.registerGroup (← p.record .object .ungiven)
  if p.node.isMissing || p.node.isObject then return p.node
  else throw (.ofMismatch p.node.path ValueType.object.docName p.node.value)

/-- Registers a group and gives the nodes of its elements, which must be objects. -/
def objectList : Pass (List Node) := do
  Pass.registerGroup (← p.record .objectList .ungiven)
  if p.node.isMissing then return []
  else if !p.node.isArray then
    throw (.ofMismatch p.node.path ValueType.objectList.docName p.node.value)
  else
    p.node.elements.forM fun element =>
      unless element.isObject do
        throw (.ofMismatch element.path ValueType.object.docName element.value)
    return p.node.elements

end Parameter

end PlannerConfig
