import PlannerConfig.Parameter.Reading

/-!
Reading parameters whose type is a value itself. Defaults are values of any type, and what the type
needs besides, such as the enumeration of a map's keys, comes as options.
-/
namespace PlannerConfig

/-- The member that a value is or spells. -/
def EnumType.read (t : EnumType) (v : Value) : Except Refusal Member :=
  match v with
  | .member m => if m.type = t then return m else throw (.because t.enumeration.notAMemberText)
  | .text s => t.enumeration.read s
  | _ => throw (.because t.enumeration.notAMemberText)

/-- A type for the values of a map: one of those that are supported, or another one by name. -/
inductive MapValueType
  | boolean
  | integer
  | double
  | string
  | duration
  | unsupported (name : String)
  deriving DecidableEq, Repr

/-- The kind of the values of a map. -/
def MapValueType.kind? : MapValueType → Option (Kind Value)
  | boolean => some Kind.boolean.generic
  | integer => some Kind.integer.generic
  | double => some Kind.double.generic
  | string => some Kind.string.generic
  | duration => some Kind.duration.generic
  | unsupported _ => none

def MapValueType.name : MapValueType → String
  | boolean => "boolean"
  | integer => "integer"
  | double => "double"
  | string => "string"
  | duration => "duration"
  | unsupported name => name

/-- What the types of parameters need besides a default. -/
structure ReadOptions where
  enumType : Option EnumType := none
  keyType : Option EnumType := none
  mapValueType : Option MapValueType := none
  displayHint : Option String := none
  parse : Option (String → Except Refusal Value) := none

/-- What reading a parameter gives: a value, or the nodes of a group. -/
inductive Reading
  | value (v : Value)
  | node (n : Node)
  | nodes (ns : List Node)

/-- The default of a parameter for which none is given: collections are empty, anything else must
be there. -/
def ValueType.impliedDefault : ValueType → Value
  | stringSet => .set []
  | enumSet => .set []
  | feedScopedIdList => .list []
  | enumMap => .map []
  | _ => .required

namespace Parameter

variable (p : Parameter)

/-- Reads a value with a default of any type. -/
def generic {α : Type} (kind : Kind α) (default : Value) : Pass Value :=
  p.scalar kind.generic <|
    match default with
    | .required => none
    | v => some v

/-- Reads a member. Without an enumeration it is that of the default. -/
def genericEnum (enumType : Option EnumType) (default : Value) : Pass Value :=
  match enumType, default with
  | some t, _ => p.generic (.enum t.enumeration) default
  | none, .member m => p.generic (.enum m.type.enumeration) default
  | none, _ => p.misdeclared .noEnumType

/-- Reads a map. The default is what a missing map gives, whatever it is. -/
def genericMap (keyType : EnumType) (valueType : MapValueType) (default : Value) : Pass Value := do
  match valueType.kind? with
  | none => p.misdeclared (.unsupportedMapValue valueType.name)
  | some kind =>
    let default :=
      match default with
      | .none => .map []
      | v => v
    match ← p.entries keyType.enumeration kind default with
    | none => return default
    | some es => return .ofEntries .member id es

/-- An option that the type needs. -/
def option {α : Type} (type : ValueType) (name : String) (x : Option α) : Pass α :=
  match x with
  | some a => return a
  | none => p.misdeclared (.missingOption type name)

/-- Reads a parameter of any type. -/
def read (type : ValueType) (default : Value) (options : ReadOptions) : Pass Reading := do
  match type with
  | .boolean => return .value (← p.generic .boolean default)
  | .integer => return .value (← p.generic .integer default)
  | .double => return .value (← p.generic .double default)
  | .string => return .value (← p.generic .string default)
  | .duration => return .value (← p.generic .duration default)
  | .linearFunction => return .value (← p.generic .linearFunction default)
  | .locale => return .value (← p.generic .locale default)
  | .stringSet => return .value (← p.generic .stringSet default)
  | .feedScopedIdList => return .value (← p.generic .feedScopedIds default)
  | .enum => return .value (← p.genericEnum options.enumType default)
  | .enumSet =>
    let t ← p.option type "enum_type" options.enumType
    return .value (← p.generic (.enumSet t.enumeration) default)
  | .enumMap =>
    let keyType ← p.option type "key_type" options.keyType
    let valueType ← p.option type "value_type" options.mapValueType
    return .value (← p.genericMap keyType valueType default)
  | .custom =>
    let hint ← p.option type "display_hint" options.displayHint
    let parse ← p.option type "parse" options.parse
    return .value (← p.generic (.custom hint parse id) default)
  | .object => return .node (← p.object)
  | .objectList => return .nodes (← p.objectList)

/-- Reads a parameter of any type. Collections that would have to be there are empty if they are
not. -/
def readType (type : ValueType) (default : Value) (options : ReadOptions) : Pass Reading :=
  p.read type
    (match default with
      | .required => type.impliedDefault
      | v => v)
    options

/-- Reads a duration and the durations that take its place for some keys. The other parameter must
stand beside this one. -/
def keyedDuration (default : Value) (overrides : Parameter) (keyType : Option EnumType) :
    Pass (Keyed Member Value) := do
  let value ← p.generic .duration default
  match keyType with
  | none => p.misdeclared .noKeyType
  | some t =>
    if overrides.node.path.dropLast ≠ p.node.path.dropLast then
      p.misdeclared (.notASibling overrides.node.path)
    let map ← overrides.entries t.enumeration Kind.duration.generic (.map [])
    return ⟨value, map.getD []⟩

end Parameter

end PlannerConfig
