import PlannerConfig.Parameter.Kind

/-!
Times of day as booking rules give them: hours and minutes, such as `7:30`.
-/
namespace PlannerConfig

open PlannerConfig.Text

namespace TimeOfDay

/-- Why a text is no time of day. -/
inductive Error
  | malformed (text : String)
  | hour
  | minute
  deriving DecidableEq, Repr

def Error.message : Error → String
  | malformed text => "Expected a time of day as HH:MM, got '" ++ text ++ "'"
  | hour => "hour must be in 0..23"
  | minute => "minute must be in 0..59"

/-- One or two digits, a colon and two digits. -/
def clock? (cs : List Char) : Option (Nat × Nat) :=
  match spanDigits cs with
  | (hour, ':' :: rest) =>
    match spanDigits rest with
    | (minute, []) =>
      if (hour.length = 1 ∨ hour.length = 2) ∧ minute.length = 2 then
        some (natOfDigits hour, natOfDigits minute)
      else none
    | _ => none
  | _ => none

def parse (s : String) : Except Error TimeOfDay :=
  match clock? (trimChars s.toList) with
  | none => throw (.malformed s)
  | some (hour, minute) =>
    match ofParts? hour minute 0 0 with
    | some t => return t
    | none => throw (if hour < 24 then .minute else .hour)

end TimeOfDay

def Kind.timeOfDay : Kind TimeOfDay :=
  .custom "HH:MM" (fun s => refusing TimeOfDay.Error.message (TimeOfDay.parse s)) .time

end PlannerConfig
