import PlannerConfig.Document.Calendar

/-!
Configuration documents. A document is a tree of objects, arrays and scalars. The fields of an
object keep the order in which they were written, and no key occurs twice in what the readers
of this library give.
-/
namespace PlannerConfig

inductive Document
  | null
  | bool (b : Bool)
  | int (n : Int)
  | float (x : Float)
  | text (s : String)
  | date (d : Date)
  | time (t : TimeOfDay)
  | moment (m : Moment)
  | array (items : List Document)
  | object (fields : List (String × Document))

namespace Document

def isObject : Document → Bool
  | object _ => true
  | _ => false

def isArray : Document → Bool
  | array _ => true
  | _ => false

/-- The value under a key, if this is an object that has it. -/
def get? (key : String) : Document → Option Document
  | object fields => fields.lookup key
  | _ => none

/-- The element at an index, if this is an array that reaches so far. -/
def getAt? (index : Int) : Document → Option Document
  | array items => if index < 0 then none else items[index.toNat]?
  | _ => none

/-- The keys of an object in order; none for anything else. -/
def keys : Document → List String
  | object fields => fields.map (·.1)
  | _ => []

/-- The number of fields or elements; zero for a scalar. -/
def size : Document → Nat
  | array items => items.length
  | object fields => fields.length
  | _ => 0

end Document

/-- Fields with a key set to a value: in place if the key is there, at the end if not. -/
def setField {κ α : Type} [BEq κ] (key : κ) (value : α) : List (κ × α) → List (κ × α)
  | [] => [(key, value)]
  | (k, v) :: rest => if k == key then (k, value) :: rest else (k, v) :: setField key value rest

section setField

variable {κ α : Type} [BEq κ] [LawfulBEq κ] (key : κ) (value : α) (fields : List (κ × α))

@[simp] theorem lookup_setField_self : (setField key value fields).lookup key = some value := by
  induction fields with
  | nil => simp [setField]
  | cons f rest ih =>
    obtain ⟨k, v⟩ := f
    unfold setField
    split
    · simp_all
    · rename_i h
      have : (key == k) = false := by simpa using fun e => h (by simp [e])
      simp [List.lookup_cons, this, ih]

theorem lookup_setField_of_ne {k : κ} (h : k ≠ key) :
    (setField key value fields).lookup k = fields.lookup k := by
  induction fields with
  | nil =>
    have : (k == key) = false := by simpa using h
    simp [setField, List.lookup_cons, this]
  | cons f rest ih =>
    obtain ⟨j, v⟩ := f
    unfold setField
    split
    · rename_i e
      have : (k == j) = false := by simpa [eq_of_beq e] using h
      simp [List.lookup_cons, this]
    · simp [List.lookup_cons, ih]

end setField

end PlannerConfig
