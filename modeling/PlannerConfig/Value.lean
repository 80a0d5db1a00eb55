import PlannerConfig.Duration.Printer
import PlannerConfig.Duration.Reader
import PlannerConfig.FeedScopedId
import PlannerConfig.LinearFunction
import PlannerConfig.Locale
import PlannerConfig.Routing.Modes
import PlannerConfig.Text.Set

/-!
Values of parameters of any type, as the documentation shows them. Two values mark a parameter
without a value of its own: `required` stands for the default of a parameter that must be given,
`ungiven` for the default of a group.
-/
namespace PlannerConfig

open PlannerConfig.Text PlannerConfig.Number

/-- A value for all keys, and other values for some of them. -/
structure Keyed (κ α : Type) where
  default : α
  overrides : List (κ × α) := []

/-- The value for a key. -/
def Keyed.valueOf {κ α : Type} [BEq κ] (x : Keyed κ α) (key : κ) : α :=
  (x.overrides.lookup key).getD x.default

inductive Value
  | none
  | required
  | ungiven
  | bool (b : Bool)
  | int (n : Int)
  | float (x : Float)
  | text (s : String)
  | duration (d : Duration)
  | member (m : Member)
  | linear (f : LinearFunction)
  | feedId (x : FeedScopedId)
  | locale (l : Locale)
  | time (t : TimeOfDay)
  | modes (m : RequestModes)
  | set (elements : List Value)
  | list (items : List Value)
  | tuple (items : List Value)
  | map (entries : List (Value × Value))
  | keyed (default : Value) (overrides : List (Value × Value))
  deriving Inhabited

namespace Value

/-- Text between double quotes, without any escapes. -/
def enquote (s : String) : String := "\"" ++ s ++ "\""

/-- Texts in ascending order. -/
def ascending (texts : List String) : List String := texts.mergeSort fun s t => decide (s ≤ t)

mutual

/-- The value as the documentation shows it, much like JSON; nothing for an absent one. -/
def display : Value → String
  | none => ""
  | required => ""
  | ungiven => ""
  | bool b => if b then "true" else "false"
  | int n => toString n
  | float x => floatText x
  | text s => enquote s
  | duration d => enquote d.text
  | member m => enquote m.symbol.label
  | linear f => enquote f.text
  | feedId x => enquote x.text
  | locale l => enquote l.text
  | time t => enquote t.text
  | modes m => enquote (join "," (m.transit.members.map Choice.label))
  | set elements => bracketed "[" "]" (ascending (displayAll elements))
  | list items => bracketed "[" "]" (displayAll items)
  | tuple items => bracketed "[" "]" (displayAll items)
  | map entries => bracketed "\x7b" "\x7d" (displayEntries entries)
  | keyed default _ => display default

def displayAll : List Value → List String
  | [] => []
  | v :: vs => display v :: displayAll vs

def displayEntries : List (Value × Value) → List String
  | [] => []
  | (k, v) :: rest => (display k ++ ": " ++ display v) :: displayEntries rest

end

def ofOption {α : Type} (f : α → Value) : Option α → Value
  | Option.none => none
  | some a => f a

def ofTextSet (x : TextSet) : Value := set (x.elements.map text)

def ofChoice {α : Type} [Choice α] (a : α) : Value := member (Choice.member a)

def ofChoiceSet {α : Type} [DecidableEq α] [Choice α] (x : ChoiceSet α) : Value :=
  set (x.members.map ofChoice)

def ofEntries {κ α : Type} (key : κ → Value) (value : α → Value) (xs : List (κ × α)) : Value :=
  map (xs.map fun (k, a) => (key k, value a))

def ofKeyed {κ α : Type} (key : κ → Value) (value : α → Value) (x : Keyed κ α) : Value :=
  keyed (value x.default) (x.overrides.map fun (k, a) => (key k, value a))

end Value

end PlannerConfig
