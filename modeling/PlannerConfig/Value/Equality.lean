import PlannerConfig.Value

/-!
When two values are the same, and what is made of values on that ground: sets, maps, and
enumerations that are declared by names and values.
-/
namespace PlannerConfig

open PlannerConfig.Text PlannerConfig.Number

namespace Value

/-- The number that a truth value, an integer or a float is. -/
def number? : Value → Option (Int ⊕ Float)
  | bool b => some (.inl (if b then 1 else 0))
  | int n => some (.inl n)
  | float x => some ((intOfFloat? x).elim (.inr x) .inl)
  | _ => Option.none

/-- Equal scalars, numbers being compared by their size whatever their type. -/
def sameScalar (v w : Value) : Bool :=
  match number? v, number? w with
  | some (.inl m), some (.inl n) => m == n
  | some (.inr x), some (.inr y) => x == y
  | Option.none, Option.none =>
    match v, w with
    | none, none => true
    | required, required => true
    | ungiven, ungiven => true
    | text s, text t => s == t
    | duration d, duration e => d == e
    | member m, member n => m == n
    | linear f, linear g => f.constant == g.constant && f.coefficient == g.coefficient
    | feedId x, feedId y => x == y
    | locale l, locale m => l == m
    | time t, time u => t == u
    | modes m, modes n => m == n
    | _, _ => false
  | _, _ => false

mutual

/-- Equal values. Lists and tuples are compared in order, sets and maps in any order; a list is
never a tuple. -/
def same : Value → Value → Bool
  | list vs, list ws => sameItems vs ws
  | tuple vs, tuple ws => sameItems vs ws
  | set vs, set ws => vs.length == ws.length && areIn vs ws
  | map vs, map ws => vs.length == ws.length && entriesAreIn vs ws
  | keyed v vs, keyed w ws => same v w && vs.length == ws.length && entriesAreIn vs ws
  | v, w => sameScalar v w

def sameItems : List Value → List Value → Bool
  | [], [] => true
  | v :: vs, w :: ws => same v w && sameItems vs ws
  | _, _ => false

def areIn : List Value → List Value → Bool
  | [], _ => true
  | v :: vs, ws => ws.any (fun w => same v w) && areIn vs ws

def entriesAreIn : List (Value × Value) → List (Value × Value) → Bool
  | [], _ => true
  | (k, v) :: rest, ws => ws.any (fun (l, w) => same k l && same v w) && entriesAreIn rest ws

end

/-- The values without those that are the same as an earlier one. -/
def distinct (vs : List Value) : List Value :=
  vs.foldl (fun seen v => if seen.any (same v) then seen else seen ++ [v]) []

mutual

/-- The kind of a value that may change, and so can neither stand in a set nor be a key: lists,
maps and keyed values, and the first of them in a tuple. -/
def changeable? : Value → Option String
  | list _ => some "list"
  | map _ => some "dict"
  | keyed .. => some "DurationForEnum"
  | tuple items => firstChangeable? items
  | _ => Option.none

def firstChangeable? : List Value → Option String
  | [] => Option.none
  | v :: vs => (changeable? v).orElse fun _ => firstChangeable? vs

end

/-- A value that may change stands where only fixed ones may. -/
structure NotFixed where
  kind : String
  deriving DecidableEq, Repr

def NotFixed.message (e : NotFixed) : String := "unhashable type: '" ++ e.kind ++ "'"

def checkFixed (vs : List Value) : Except NotFixed Unit :=
  (firstChangeable? vs).elim (pure ()) fun kind => throw ⟨kind⟩

/-- The set of values. Of the same values the first stands for all. -/
def ofElements (vs : List Value) : Except NotFixed Value := do
  checkFixed vs
  return set (distinct vs)

/-- The entries with a key set to a value, in place if the same key is there. -/
def setEntry (key value : Value) : List (Value × Value) → List (Value × Value)
  | [] => [(key, value)]
  | (k, v) :: rest =>
    if k.same key then (k, value) :: rest else (k, v) :: setEntry key value rest

/-- The map of entries. Of entries with the same key the first gives the key and the last the
value. -/
def ofPairs (entries : List (Value × Value)) : Except NotFixed Value := do
  checkFixed (entries.map (·.1))
  return map (entries.foldl (fun es (k, v) => setEntry k v es) [])

def text? : Value → Option String
  | text s => some s
  | _ => Option.none

end Value

namespace EnumType

/-- The name under which the value of a declared name was given first. -/
def canonicalName? (declarations : List (String × Value)) (name : String) : Option String := do
  let value ← declarations.lookup name
  let first ← declarations.find? fun d => d.1 == name || d.2.same value
  return first.1

/-- An enumeration from names and values in order. A name whose value an earlier one has is another
name of that member and not a member itself. -/
def declare (typeName : String) (declarations : List (String × Value)) : EnumType where
  name := typeName
  symbols :=
    let step (seen : List (String × Value)) (d : String × Value) :=
      if seen.any fun e => e.2.same d.2 then seen else seen ++ [d]
    (declarations.foldl step []).map fun (name, value) => ⟨name, value.text?⟩

end EnumType

end PlannerConfig
