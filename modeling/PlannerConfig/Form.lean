import PlannerConfig.Parameter.Reading

/-!
Forms: descriptions of what is read from a document to fill a configuration value. A form says
which parameters there are, in the order in which they are read and documented; a value of type `σ`
holds the defaults, and a field of it is named by its getter. Which parameters a form reads does
not depend on the values that it finds, save for the number of elements of a list, the keys of an
object that are free, and groups that are read only if they have something in them.
-/
namespace PlannerConfig

/-- Reads a value of type `α`, with defaults of type `σ`. -/
inductive Form : Type → Type → Type 1
  /-- Reads nothing. -/
  | pure {σ α : Type} (a : α) : Form σ α
  /-- Reads a function and then what it is applied to. -/
  | ap {σ α β : Type} (f : Form σ (α → β)) (x : Form σ α) : Form σ β
  /-- Takes the defaults from a part of them. -/
  | zoom {σ τ α : Type} (get : σ → τ) (body : Form τ α) : Form σ α
  /-- Reads a parameter that has a default. -/
  | scalar {σ α : Type} (name : String) (kind : Kind α) (get : σ → α) (note : Note) : Form σ α
  /-- Reads a parameter that must be there. -/
  | required {σ α : Type} (name : String) (kind : Kind α) (note : Note) : Form σ α
  /-- Reads an object whose keys spell members. -/
  | enumMap {σ κ α : Type} [BEq κ] (name : String) (keys : Enumeration κ) (kind : Kind α)
      (get : σ → List (κ × α)) (note : Note) : Form σ (List (κ × α))
  /-- Reads a parameter under each key that the object has. -/
  | eachKey {σ α : Type} (kind : Kind α) (note : String → Note) : Form σ (List (String × α))
  /-- Reads a group. -/
  | group {σ α : Type} (name : String) (body : Form σ α) (note : Note) : Form σ α
  /-- Reads a group unless it is missing or empty. -/
  | optionalGroup {σ α : Type} (name : String) (body : Form σ α) (note : Note) : Form σ (Option α)
  /-- Reads the elements of an array; one without elements gives the default. -/
  | list {σ α : Type} (name : String) (element : Form σ α) (get : σ → List α) (note : Note) :
      Form σ (List α)
  /-- Tells of the place that is read. -/
  | tell {σ : Type} (event : Path → Event) : Form σ Unit
  /-- Passes over a parameter of earlier releases, telling so if it is there. -/
  | retired {σ : Type} (name : String) (event : Path → Event) : Form σ Unit

namespace Form

instance {σ : Type} : Applicative (Form σ) where
  pure := Form.pure
  map f x := Form.ap (Form.pure f) x
  seq f x := Form.ap f (x ())

/-- Reads a form at a node. -/
def read {σ α : Type} : Form σ α → σ → Node → Pass α
  | pure a, _, _ => return a
  | ap f x, d, n => do
    let g ← f.read d n
    let a ← x.read d n
    return g a
  | zoom get body, d, n => body.read (get d) n
  | scalar name kind get note, d, n => (n.parameter name note).scalar kind (some (get d))
  | required name kind note, _, n => (n.parameter name note).scalar kind none
  | enumMap name keys kind get note, d, n => (n.parameter name note).enumMap keys kind (get d)
  | eachKey kind note, _, n =>
    n.keys.mapM fun key => do return (key, ← (n.parameter key (note key)).scalar kind none)
  | group name body note, d, n => do body.read d (← (n.parameter name note).object)
  | optionalGroup name body note, d, n => do
    let inner ← (n.parameter name note).object
    if inner.isEmpty then return none else return some (← body.read d inner)
  | list name element get note, d, n => do
    let elements ← (n.parameter name note).objectList
    if elements.isEmpty then return get d else elements.mapM (element.read d)
  | tell event, _, n => Pass.tell (event n.path)
  | retired name event, _, n => do
    let old := n.child name
    if !old.isMissing then
      Pass.tell (event old.path)
      Pass.consume old

section Shorthands

variable {σ : Type}

def boolean (name : String) (get : σ → Bool) (note : Note) : Form σ Bool :=
  scalar name .boolean get note

def integer (name : String) (get : σ → Int) (note : Note) : Form σ Int :=
  scalar name .integer get note

def double (name : String) (get : σ → Float) (note : Note) : Form σ Float :=
  scalar name .double get note

def string (name : String) (get : σ → String) (note : Note) : Form σ String :=
  scalar name .string get note

def optionalString (name : String) (get : σ → Option String) (note : Note) :
    Form σ (Option String) :=
  scalar name Kind.string.optional get note

def duration (name : String) (get : σ → Duration) (note : Note) : Form σ Duration :=
  scalar name .duration get note

def optionalDuration (name : String) (get : σ → Option Duration) (note : Note) :
    Form σ (Option Duration) :=
  scalar name Kind.duration.optional get note

def stringSet (name : String) (get : σ → TextSet) (note : Note) : Form σ TextSet :=
  scalar name .stringSet get note

def feedScopedIds (name : String) (get : σ → List FeedScopedId) (note : Note) :
    Form σ (List FeedScopedId) :=
  scalar name .feedScopedIds get note

def linearFunction (name : String) (get : σ → LinearFunction) (note : Note) :
    Form σ LinearFunction :=
  scalar name .linearFunction get note

def choice {κ : Type} [Choice κ] (name : String) (get : σ → κ) (note : Note) : Form σ κ :=
  scalar name (.choice κ) get note

/-- Reads a duration and, beside it, the durations that take its place for some keys. -/
def keyedDuration {κ : Type} [BEq κ] [Choice κ] (name : String) (get : σ → Keyed κ Duration)
    (note : Note) (overridesName : String) (overridesNote : Note) : Form σ (Keyed κ Duration) :=
  Keyed.mk
    <$> duration name (fun d => (get d).default) note
    <*> enumMap overridesName Choice.enumeration .duration (fun d => (get d).overrides)
      overridesNote

end Shorthands

end Form

end PlannerConfig
