import PlannerConfig.Duration.Reader
import PlannerConfig.Number.Numeral
import PlannerConfig.Parameter.ValueType
import PlannerConfig.Value.Equality
import PlannerConfig.Value.Real

/-!
Kinds of parameters: how a value of a document becomes a value of the parameter, and how that is
shown. A coercion also meets the absence of a value, where a map has a null.
-/
namespace PlannerConfig

open PlannerConfig.Text PlannerConfig.Number

/-- Why a value is not taken. A fault says nothing about the value and stops the whole pass. -/
inductive Refusal
  | because (reason : String)
  | fault (text : String)
  deriving DecidableEq, Repr

abbrev Coercion (α : Type) : Type := Option Document → Except Refusal α

/-- A coercion whose errors are told by `message`. -/
def refusing {ε α : Type} (message : ε → String) (x : Except ε α) : Except Refusal α :=
  x.mapError fun e => .because (message e)

/-- A value if there is one, and else a reason for having none. -/
def orBecause {α : Type} (x : Option α) (reason : String) : Except Refusal α :=
  x.elim (throw (.because reason)) pure

namespace Coercion

/-- Truth values, and the words `true` and `false` in any case with blanks around them. -/
def boolean : Coercion Bool
  | some (.bool b) => return b
  | some (.text s) =>
    let word := lower (trim s)
    if word = "true" then return true
    else if word = "false" then return false
    else throw (.because "Expected true or false")
  | _ => throw (.because "Expected true or false")

def integerOfText (s : String) : Except Refusal Int :=
  match integerNumeral? (trimChars s.toList) with
  | none => throw (.because "Expected a whole number")
  | some (negative, digits) =>
    if maxIntegerDigits < digits.length then
      throw (.because (Duration.Error.tooManyDigits digits.length).message)
    else
      let n := natOfDigits digits
      return if negative then -(n : Int) else n

/-- Integers, floats without a fraction, and numerals of integers. -/
def integer : Coercion Int
  | some (.bool _) => throw (.because "A boolean is not a number")
  | some (.int n) => return n
  | some (.float x) => orBecause (intOfFloat? x) "Expected a whole number"
  | some (.text s) => integerOfText s
  | _ => throw (.because "Expected a whole number")

def finite (x : Float) : Except Refusal Float :=
  if isFinite x then return x else throw (.because "Expected a finite number")

/-- Numbers and decimal numerals, as far as they are finite. -/
def double : Coercion Float
  | some (.bool _) => throw (.because "A boolean is not a number")
  | some (.int n) => orBecause (floatOfInt? n) RealError.tooLarge.message
  | some (.float x) => finite x
  | some (.text s) => do
    finite (← orBecause (decimalNumeral? (trimChars s.toList)) "Expected a number")
  | _ => throw (.because "Expected a number")

def string : Coercion String
  | some (.text s) => return s
  | _ => throw (.because "Expected a text value")

/-- Arrays of texts. -/
def strings : Coercion (List String)
  | some (.array items) => items.mapM fun item => string (some item)
  | _ => throw (.because "Expected a list")

/-- Texts that a reader takes. -/
def parsed {α : Type} (parse : String → Except Refusal α) : Coercion α := fun raw => do
  parse (← string raw)

/-- Arrays of texts that a reader takes. -/
def allParsed {α : Type} (parse : String → Except Refusal α) : Coercion (List α) := fun raw => do
  (← strings raw).mapM parse

end Coercion

/-- The member that a text spells. -/
def Enumeration.read {κ : Type} (e : Enumeration κ) (s : String) : Except Refusal κ :=
  orBecause (e.find? s) e.notAMemberText

structure Kind (α : Type) where
  type : ValueType
  coerce : Coercion α
  toValue : α → Value
  enumType : Option EnumType := none
  displayDefault : Option String := none

namespace Kind

def boolean : Kind Bool := ⟨.boolean, Coercion.boolean, .bool, none, none⟩

def integer : Kind Int := ⟨.integer, Coercion.integer, .int, none, none⟩

def double : Kind Float := ⟨.double, Coercion.double, .float, none, none⟩

def string : Kind String := ⟨.string, Coercion.string, .text, none, none⟩

def duration : Kind Duration :=
  ⟨.duration, fun raw => refusing Duration.Error.message (Duration.read raw), .duration, none, none⟩

def linearFunction : Kind LinearFunction :=
  ⟨.linearFunction,
    .parsed fun s => orBecause (LinearFunction.parse? s) (LinearFunction.errorText s),
    .linear, none, none⟩

def locale : Kind Locale :=
  ⟨.locale, .parsed fun s => refusing Locale.Error.message (Locale.parse s), .locale, none, none⟩

def stringSet : Kind TextSet :=
  ⟨.stringSet, fun raw => do return TextSet.ofList (← Coercion.strings raw), .ofTextSet, none, none⟩

def feedScopedIds : Kind (List FeedScopedId) :=
  ⟨.feedScopedIdList,
    .allParsed fun s => refusing FeedScopedId.Error.message (FeedScopedId.parse s),
    fun ids => .list (ids.map .feedId), none, none⟩

section Enumeration

variable {κ : Type}

def enum (e : Enumeration κ) : Kind κ :=
  ⟨.enum, fun raw => match raw with
    | some (.text s) => e.read s
    | _ => throw (.because e.notAMemberText),
    fun a => .member (e.member a), some e.type, none⟩

/-- The elements of a set, possibly repeated. -/
def enumSet (e : Enumeration κ) : Kind (List κ) :=
  ⟨.enumSet, .allParsed e.read,
    fun as => .set (Value.distinct (as.map fun a => .member (e.member a))), some e.type, none⟩

def choice (κ : Type) [Choice κ] : Kind κ := enum Choice.enumeration

def choiceSet (κ : Type) [DecidableEq κ] [Choice κ] : Kind (ChoiceSet κ) :=
  ⟨.enumSet, fun raw => do return ChoiceSet.ofList (← (enumSet Choice.enumeration).coerce raw),
    .ofChoiceSet, some (Choice.enumType κ), none⟩

end Enumeration

section

variable {α : Type}

/-- Texts of a notation of its own; the hint stands for the default in the documentation. -/
def custom (hint : String) (parse : String → Except Refusal α) (toValue : α → Value) : Kind α :=
  ⟨.custom, .parsed parse, toValue, none, some hint⟩

/-- The same kind for parameters whose default is to have no value. -/
def optional (k : Kind α) : Kind (Option α) :=
  { k with
    coerce := fun raw => do return some (← k.coerce raw)
    toValue := Value.ofOption k.toValue }

/-- The same kind for values of any type. -/
def generic (k : Kind α) : Kind Value :=
  { k with
    coerce := fun raw => do return k.toValue (← k.coerce raw)
    toValue := id }

end

end Kind

end PlannerConfig
