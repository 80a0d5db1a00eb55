import PlannerConfig.Feature
import PlannerConfig.Parameter.ValueType
import PlannerConfig.Text.Margin
import PlannerConfig.Value
import PlannerConfig.Version

/-!
What is known of a parameter and shown in the documentation.
-/
namespace PlannerConfig

open PlannerConfig.Text

/-- What is said of a parameter where it is read. Blanks of the summary do not matter, nor does the
margin of the description. -/
structure Note where
  summary : String := ""
  since : Version := .na
  description : String := ""
  feature : Option Feature := none
  deriving DecidableEq, Repr

/-- A parameter of the catalog. Groups have the default `ungiven`; a parameter that must be given
has the default `required`. -/
structure Record where
  path : List String
  valueType : ValueType
  summary : String
  default : Value := .ungiven
  since : Version := .na
  description : Option String := none
  enumType : Option EnumType := none
  detailType : Option String := none
  displayDefault : Option String := none
  feature : Option Feature := none

/-- A path with points between its names. -/
def dotted (path : List String) : String := join "." path

/-- The names between the points of a text. -/
def undotted (text : String) : List String := splitOnChar '.' text

/-- A text that says something. -/
def nonempty? (s : String) : Option String := if s = "" then none else some s

theorem nonempty?_eq_some {s t : String} : nonempty? s = some t ↔ s ≠ "" ∧ s = t := by
  simp [nonempty?]

namespace Record

def name (r : Record) : String := r.path.getLast?.getD ""

def dottedPath (r : Record) : String := dotted r.path

def isRequired (r : Record) : Bool :=
  match r.default with
  | .required => true
  | _ => false

/-- Whether other parameters lie beneath. -/
def isGroup (r : Record) : Bool := r.valueType.isGroup

/-- The type as the documentation shows it. -/
def typeName (r : Record) : String :=
  match r.detailType.bind nonempty? with
  | some detail => r.valueType.docName ++ " of " ++ detail
  | none => r.valueType.docName

/-- The default as the documentation shows it. -/
def defaultText (r : Record) : String :=
  match r.displayDefault with
  | some hint => Value.enquote hint
  | none => r.default.display

/-- The labels of the values or keys that are allowed; none for other types. -/
def enumValues (r : Record) : List String := (r.enumType.map EnumType.labels).getD []

/-- The record of a parameter with a note; a note without a summary makes none. -/
def ofNote? (path : List String) (valueType : ValueType) (default : Value) (note : Note) :
    Option Record :=
  (nonempty? (collapse note.summary)).map fun summary =>
    { path, valueType, summary, default
      since := note.since
      description := nonempty? (trim (outdent note.description))
      feature := note.feature }

end Record

end PlannerConfig
