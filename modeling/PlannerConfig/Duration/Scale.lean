import PlannerConfig.Duration.Basic
import PlannerConfig.Number.Binary

/-!
Durations times real numbers. The product is exact before it is rounded to a whole microsecond, a
tie to the even one.
-/
namespace PlannerConfig.Duration

open PlannerConfig.Number

/-- Why a duration has no multiple by a real number. -/
inductive ScaleError
  | notANumber
  | infinite
  | range (e : RangeError)
  deriving DecidableEq, Repr

def ScaleError.message : ScaleError → String
  | notANumber => "cannot convert NaN to integer ratio"
  | infinite => "cannot convert Infinity to integer ratio"
  | range e => e.message

/-- The product of a duration and a real number. -/
def scale (d : Duration) (x : Float) : Except ScaleError Duration :=
  match Datum.ofFloat x with
  | .notANumber => throw .notANumber
  | .infinite _ => throw .infinite
  | .finite negative b =>
    let size : Int := roundHalfEven (d.microseconds.natAbs * b.numerator) b.denominator
    let n := if negative = decide (d.microseconds < 0) then size else -size
    (ofParts 0 0 n).mapError .range

end PlannerConfig.Duration
