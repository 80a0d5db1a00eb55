import PlannerConfig.Text.Blank
import PlannerConfig.Text.Case
import PlannerConfig.Text.Search

/-!
Enumerations. A member is found under any spelling of its name or its label: case does not matter,
nor does the choice between hyphen and underscore.
-/
namespace PlannerConfig

open PlannerConfig.Text

/-- The spelling that stands for all spellings of a label. -/
def spellingKey (cs : List Char) : List Char := upperChars (replaceChar '-' '_' cs)

/-- The names of a member: its own name, and its value if that is a text. -/
structure Symbol where
  name : String
  value : Option String := none
  deriving DecidableEq, Repr

namespace Symbol

/-- The symbol of a label. Its name is the label in upper case with underscores for hyphens. -/
def ofLabel (label : String) : Symbol := ⟨String.ofList (spellingKey label.toList), label⟩

/-- The text that stands for the member in documents: its value, or else its name in lower case. -/
def label (s : Symbol) : String := s.value.getD (lower s.name)

/-- Whether a spelling in normal form is one of the name or of the label. -/
def answersTo (s : Symbol) (key : List Char) : Bool :=
  key == upperChars s.name.toList || key == spellingKey s.label.toList

end Symbol

/-- An enumeration known by its names only. -/
structure EnumType where
  name : String
  symbols : List Symbol
  deriving DecidableEq, Repr

def EnumType.labels (t : EnumType) : List String := t.symbols.map Symbol.label

/-- A member of an enumeration known by its names only. -/
structure Member where
  type : EnumType
  symbol : Symbol
  deriving DecidableEq, Repr

/-- A named list of values with names of their own. -/
structure Enumeration (α : Type) where
  name : String
  members : List α
  symbol : α → Symbol

namespace Enumeration

variable {α : Type} (e : Enumeration α)

def type : EnumType := ⟨e.name, e.members.map e.symbol⟩

def label (a : α) : String := (e.symbol a).label

/-- The member known by its names only. -/
def member (a : α) : Member := ⟨e.type, e.symbol a⟩

/-- The first member that a text spells by its name or by its label. -/
def find? (s : String) : Option α :=
  let key := spellingKey (trimChars s.toList)
  e.members.find? fun a => (e.symbol a).answersTo key

/-- What is said of a text that spells no member. -/
def notAMemberText : String := "Expected one of: " ++ join ", " e.type.labels

end Enumeration

/-- The members of an enumeration known by its names only. -/
def EnumType.enumeration (t : EnumType) : Enumeration Member :=
  ⟨t.name, t.symbols.map (Member.mk t), Member.symbol⟩

/-- A finite type whose values have names. -/
class Choice (α : Type) where
  enumeration : Enumeration α
  mem_members : ∀ a, a ∈ enumeration.members

namespace Choice

variable {α : Type} [Choice α]

variable (α) in
def all : List α := (enumeration : Enumeration α).members

@[simp] theorem mem_all (a : α) : a ∈ all α := mem_members a

def symbol (a : α) : Symbol := (enumeration : Enumeration α).symbol a

def name (a : α) : String := (symbol a).name

def label (a : α) : String := (symbol a).label

def member (a : α) : Member := (enumeration : Enumeration α).member a

variable (α) in
def enumType : EnumType := (enumeration : Enumeration α).type

def find? (s : String) : Option α := (enumeration : Enumeration α).find? s

/-- The value with exactly this name. -/
def ofName? (s : String) : Option α := (all α).find? fun a => name a == s

end Choice

/-- A set of values of a finite type, in the order of the type. -/
structure ChoiceSet (α : Type) [DecidableEq α] [Choice α] where
  members : List α
  members_eq : members = (Choice.all α).filter (· ∈ members)

namespace ChoiceSet

variable {α : Type} [DecidableEq α] [Choice α]

theorem eq_of_members {s t : ChoiceSet α} (h : s.members = t.members) : s = t := by
  cases s
  cases t
  subst h
  rfl

instance : DecidableEq (ChoiceSet α) := fun s t =>
  decidable_of_iff (s.members = t.members) ⟨eq_of_members, congrArg members⟩

def ofList (xs : List α) : ChoiceSet α where
  members := (Choice.all α).filter (· ∈ xs)
  members_eq := List.filter_congr fun a _ => by simp

instance : Membership α (ChoiceSet α) := ⟨fun s a => a ∈ s.members⟩

instance (a : α) (s : ChoiceSet α) : Decidable (a ∈ s) :=
  inferInstanceAs (Decidable (a ∈ s.members))

@[simp] theorem mem_ofList {a : α} {xs : List α} : a ∈ ofList xs ↔ a ∈ xs := by
  show a ∈ List.filter _ _ ↔ _
  simp

/-- Sets with the same members are equal. -/
theorem eq_of_mem_iff {s t : ChoiceSet α} (h : ∀ a, a ∈ s ↔ a ∈ t) : s = t := by
  have h : ∀ a, a ∈ s.members ↔ a ∈ t.members := h
  apply eq_of_members
  rw [s.members_eq, t.members_eq]
  exact List.filter_congr fun a _ => by simp [h a]

def empty : ChoiceSet α := ofList []

variable (α) in
def full : ChoiceSet α := ofList (Choice.all α)

end ChoiceSet

end PlannerConfig
