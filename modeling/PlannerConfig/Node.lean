import PlannerConfig.Document.Path
import PlannerConfig.Document.Text

/-!
A place in a document: the value that is there, if any, and the path from the root. A null counts
as no value. What is not in the document is a place without a value, so that any parameter may be
asked for.
-/
namespace PlannerConfig

open PlannerConfig.Text

structure Node where
  value : Option Document
  path : Path := []
  source : Option String := none

/-- A value that counts as one. -/
def Document.present? : Document → Option Document
  | null => none
  | d => some d

namespace Node

/-- The root of a document; `source` names it in messages. -/
def root (document : Document) (source : Option String := none) : Node :=
  ⟨document.present?, [], source⟩

def isMissing (n : Node) : Bool := n.value.isNone

def isObject (n : Node) : Bool := n.value.any Document.isObject

def isArray (n : Node) : Bool := n.value.any Document.isArray

def keys (n : Node) : List String := (n.value.map Document.keys).getD []

/-- The number of fields or elements; zero for anything else. -/
def size (n : Node) : Nat := (n.value.map Document.size).getD 0

/-- Missing, or an object without fields. -/
def isEmpty (n : Node) : Bool := n.isMissing || n.isObject && n.size == 0

/-- The place under a key. -/
def child (name : String) (n : Node) : Node :=
  { n with
    value := (n.value.bind (Document.get? name)).bind Document.present?
    path := n.path ++ [.key name] }

/-- The place at an index. -/
def childAt (index : Int) (n : Node) : Node :=
  { n with
    value := (n.value.bind (Document.getAt? index)).bind Document.present?
    path := n.path ++ [.index index] }

/-- The places of the elements of an array. -/
def elements (n : Node) : List Node := (List.range n.size).map fun (i : Nat) => n.childAt i

/-- The path with its indexes as messages show it. -/
def pathText (n : Node) : String := n.path.text

/-- The path in the catalog, without indexes. -/
def docPath (n : Node) : List String := n.path.keys

/-- Whether the value is anything but an empty or zero one. -/
def isTruthy (n : Node) : Bool :=
  match n.value with
  | none => false
  | some .null => false
  | some (.bool b) => b
  | some (.int i) => i != 0
  | some (.float x) => x != 0
  | some (.text s) => s != ""
  | some (.array items) => !items.isEmpty
  | some (.object fields) => !fields.isEmpty
  | some _ => true

/-- The node as it is shown to developers; `none` if an integer is too long to write. -/
def literal? (n : Node) : Option String :=
  (match n.value with
    | none => some "MISSING"
    | some d => d.literal?).map fun value =>
    "ConfigNode(path=" ++ quoted n.pathText ++ ", value=" ++ value ++ ")"

end Node

end PlannerConfig
