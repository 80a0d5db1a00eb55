import PlannerConfig.Catalog.Basic
import PlannerConfig.Duration.Reader
import PlannerConfig.Node

/-!
Why a mapping pass fails.
-/
namespace PlannerConfig

open PlannerConfig.Text

/-- What is wrong with the way a parameter is declared. -/
inductive Misdeclaration
  | noSummary
  | noKeyType
  | notASibling (other : Path)
  | noEnumType
  | unsupportedMapValue (typeName : String)
  | missingOption (type : ValueType) (option : String)
  deriving DecidableEq, Repr

inductive Failure
  | missing (path : Path)
  | mismatch (path : Path) (expected raw : String) (reason : Option String)
  | misdeclared (path : Path) (cause : Misdeclaration)
  | conflict (c : Conflict)
  | unknown (paths : List String) (source : Option String)
  | unwritable
  | fault (text : String)
  deriving DecidableEq, Repr

/-- Words that name the source of a document, or nothing. -/
def inSource (source : Option String) : String :=
  match source with
  | none => ""
  | some s => if s = "" then "" else " in " ++ s

def Misdeclaration.message (path : Path) : Misdeclaration → String
  | noSummary => "Parameter '" ++ path.text ++ "' is missing a summary"
  | noKeyType => "Parameter '" ++ path.text ++ "' needs a key_type for per_key"
  | notASibling other =>
    "Per key parameter '" ++ other.text ++ "' must be a sibling of '" ++ path.text ++ "'"
  | noEnumType => "Parameter '" ++ path.text ++ "' needs an enum_type"
  | unsupportedMapValue typeName =>
    "Parameter '" ++ path.text ++ "' has unsupported map value type " ++ typeName
  | missingOption type option =>
    "Parameter '" ++ path.text ++ "' of type " ++ type.text ++ " needs " ++ quoted option

def Conflict.message (c : Conflict) : String :=
  "Parameter path '" ++ dotted c.path ++ "' conflicts with an existing entry: "
    ++ quoted c.existing ++ " and " ++ quoted c.duplicate

namespace Failure

/-- A value that is not of the type of its parameter. A value too long to write cannot be told. -/
def ofMismatch (path : Path) (expected : String) (raw : Option Document) (reason : String := "") :
    Failure :=
  match Document.rawText? raw with
  | none => unwritable
  | some text => mismatch path expected text (nonempty? reason)

def message : Failure → String
  | missing path => "Required parameter '" ++ path.text ++ "' is missing"
  | mismatch path expected raw reason =>
    "Unable to parse parameter '" ++ path.text ++ "' as " ++ expected ++ ": " ++ quoted raw
      ++ ((reason.map (". " ++ ·)).getD "")
  | misdeclared path cause => cause.message path
  | conflict c => c.message
  | unknown paths source =>
    "Unknown configuration parameters" ++ inSource source ++ ": " ++ join ", " paths
  | unwritable => digitLimitText ""
  | fault text => text

end Failure

end PlannerConfig
