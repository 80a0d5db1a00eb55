import PlannerConfig.Duration.Scale
import PlannerConfig.Value

/-!
Values as numbers: what real number and what duration a value stands for, and what a linear function
gives at it.
-/
namespace PlannerConfig

open PlannerConfig.Text PlannerConfig.Number

namespace Value

/-- The word that messages use for the kind of a value. -/
def kindName : Value → String
  | none => "NoneType"
  | required => "_Sentinel"
  | ungiven => "_Sentinel"
  | bool _ => "bool"
  | int _ => "int"
  | float _ => "float"
  | text _ => "str"
  | duration _ => "timedelta"
  | member m => m.type.name
  | linear _ => "LinearFunction"
  | feedId _ => "FeedScopedId"
  | locale _ => "Locale"
  | time _ => "time"
  | modes _ => "RequestModes"
  | set _ => "frozenset"
  | list _ => "list"
  | tuple _ => "tuple"
  | map _ => "dict"
  | keyed .. => "DurationForEnum"

/-- The word for the kind of an operand, which for calendar kinds says where they belong. -/
def operandName : Value → String
  | duration _ => "datetime.timedelta"
  | time _ => "datetime.time"
  | v => v.kindName

end Value

/-- Why a value is no real number, or why nothing can be reckoned with it. -/
inductive RealError
  | notNumeral (text : String)
  | tooLarge
  | notReal (kind : String)
  | sequence
  | notAnOperand (operator kind : String)
  | noMultiple (e : Duration.ScaleError)
  deriving DecidableEq, Repr

def RealError.message : RealError → String
  | notNumeral text => "could not convert string to float: " ++ quoted text
  | tooLarge => "int too large to convert to float"
  | notReal kind => "float() argument must be a string or a real number, not '" ++ kind ++ "'"
  | sequence => "can't multiply sequence by non-int of type 'float'"
  | notAnOperand operator kind =>
    "unsupported operand type(s) for " ++ operator ++ ": 'float' and '" ++ kind ++ "'"
  | noMultiple e => e.message

/-- The real number that a value is: truth values are zero and one, integers are rounded, and texts
are read as numerals. -/
def Value.toFloat : Value → Except RealError Float
  | bool b => return if b then 1 else 0
  | int n => (floatOfInt? n).elim (throw .tooLarge) pure
  | float x => return x
  | text s => (realNumeral? s).elim (throw (.notNumeral s)) pure
  | v => throw (.notReal v.operandName)

/-- The duration that a value stands for. -/
def Duration.ofValue : Value → Except Error Duration
  | .bool b => read (some (.bool b))
  | .int n => read (some (.int n))
  | .float x => read (some (.float x))
  | .text s => parse s
  | v => throw (.notText v.kindName)

namespace LinearFunction

/-- The linear function of two values. -/
def ofValues (constant coefficient : Value) : Except RealError LinearFunction := do
  let a ← constant.toFloat
  let b ← coefficient.toFloat
  return ⟨a, b⟩

/-- The value at a number of any type. A text or a list is a sequence, which no float multiplies; a
duration may have a multiple, but nothing can be added to it. -/
def applyTo (f : LinearFunction) (x : Value) : Except RealError Float :=
  match x with
  | .text _ => throw .sequence
  | .list _ => throw .sequence
  | .tuple _ => throw .sequence
  | .duration d => do
    let _ ← (d.scale f.coefficient).mapError .noMultiple
    throw (.notAnOperand "+" x.operandName)
  | .bool _ => f.apply <$> x.toFloat
  | .int _ => f.apply <$> x.toFloat
  | .float _ => f.apply <$> x.toFloat
  | _ => throw (.notAnOperand "*" x.operandName)

end LinearFunction

end PlannerConfig
