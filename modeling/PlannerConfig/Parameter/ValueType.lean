import PlannerConfig.Choice

/-!
The types of parameters.
-/
namespace PlannerConfig

inductive ValueType
  | boolean
  | integer
  | double
  | string
  | duration
  | enum
  | enumMap
  | enumSet
  | stringSet
  | feedScopedIdList
  | linearFunction
  | locale
  | object
  | objectList
  | custom
  deriving DecidableEq, Repr

namespace ValueType

def text : ValueType → String
  | boolean => "boolean"
  | integer => "integer"
  | double => "double"
  | string => "string"
  | duration => "duration"
  | enum => "enum"
  | enumMap => "enum-map"
  | enumSet => "enum-set"
  | stringSet => "string-set"
  | feedScopedIdList => "feed-scoped-id-list"
  | linearFunction => "linear-function"
  | locale => "locale"
  | object => "object"
  | objectList => "object-list"
  | custom => "custom"

instance : Choice ValueType where
  enumeration := ⟨"ValueType",
    [boolean, integer, double, string, duration, enum, enumMap, enumSet, stringSet,
      feedScopedIdList, linearFunction, locale, object, objectList, custom],
    fun t => .ofLabel t.text⟩
  mem_members := by intro t; cases t <;> decide

/-- Whether parameters of this type hold other parameters. -/
def isGroup (t : ValueType) : Bool := t = object ∨ t = objectList

/-- The name of the type in the documentation. -/
def docName : ValueType → String
  | enumMap => "enum map"
  | enumSet => "enum set"
  | stringSet => "string[]"
  | feedScopedIdList => "feed-scoped-id[]"
  | objectList => "object[]"
  | t => t.text

end ValueType

end PlannerConfig
