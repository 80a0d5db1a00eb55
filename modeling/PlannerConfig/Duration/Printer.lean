import PlannerConfig.Duration.Basic
import PlannerConfig.Number.Shortest

/-!
The compact text of a duration, such as `1h30m`: a sign, then days, hours, minutes and seconds as
far as they are not zero. Seconds with a fraction have at most six significant digits.
-/
namespace PlannerConfig.Duration

open PlannerConfig.Number

/-- A count with its unit; nothing for zero. -/
def component (n : Nat) (unit : String) : String := if n = 0 then "" else toString n ++ unit

/-- The `binary64` sum of seconds and a fraction of a second in microseconds. -/
def fractionalSeconds (seconds microseconds : Nat) : Binary :=
  let fraction := (Binary.nearest microseconds 1000000).getD ⟨0, -1074⟩
  (Binary.nearest (seconds * fraction.denominator + fraction.numerator)
    fraction.denominator).getD ⟨0, -1074⟩

def secondsText (seconds microseconds : Nat) : String :=
  if microseconds = 0 then component seconds "s"
  else String.ofList (briefChars (fractionalSeconds seconds microseconds)) ++ "s"

def text (d : Duration) : String :=
  if d.microseconds = 0 then "0s"
  else
    let n := d.microseconds.natAbs
    let seconds := n / 1000000
    (if d.microseconds < 0 then "-" else "")
      ++ component (seconds / 86400) "d"
      ++ component (seconds % 86400 / 3600) "h"
      ++ component (seconds % 3600 / 60) "m"
      ++ secondsText (seconds % 60) (n % 1000000)

end PlannerConfig.Duration
