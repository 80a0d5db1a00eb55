/-!
Durations: whole microseconds, negative or not, of less than about a milliard days.
-/
namespace PlannerConfig

namespace Duration

/-- The microseconds of a second. -/
def second : Int := 1000000

/-- The microseconds of a minute. -/
def minute : Int := 60 * second

/-- The microseconds of an hour. -/
def hour : Int := 60 * minute

/-- The microseconds of a day. -/
def day : Int := 24 * hour

/-- The most negative duration has this many microseconds. -/
def least : Int := -999999999 * day

/-- The longest duration has this many microseconds. -/
def greatest : Int := 1000000000 * day - 1

end Duration

structure Duration where
  microseconds : Int
  least_le : Duration.least ≤ microseconds := by decide
  le_greatest : microseconds ≤ Duration.greatest := by decide
  deriving DecidableEq, Repr

namespace Duration

/-- The duration of a number of microseconds, if there is one. -/
def ofMicroseconds? (n : Int) : Option Duration :=
  if h : least ≤ n ∧ n ≤ greatest then some ⟨n, h.1, h.2⟩ else none

theorem ofMicroseconds?_eq_some_iff {n : Int} {d : Duration} :
    ofMicroseconds? n = some d ↔ d.microseconds = n := by
  obtain ⟨m, h₁, h₂⟩ := d
  unfold ofMicroseconds?
  split
  · simp [eq_comm]
  · rename_i h
    constructor
    · simp
    · rintro rfl
      exact absurd ⟨h₁, h₂⟩ h

theorem ofMicroseconds?_eq_none_iff {n : Int} :
    ofMicroseconds? n = none ↔ n < least ∨ greatest < n := by
  unfold ofMicroseconds?
  split <;> simp <;> omega

@[simp] theorem ofMicroseconds?_microseconds (d : Duration) :
    ofMicroseconds? d.microseconds = some d := ofMicroseconds?_eq_some_iff.mpr rfl

/-- Why days, seconds and microseconds make no duration: their days are too many, or too many even
to be told. -/
inductive RangeError
  | tooManyDays (days : Int)
  | beyondCount
  deriving DecidableEq, Repr

def RangeError.message : RangeError → String
  | tooManyDays days => "days=" ++ toString days ++ "; must have magnitude <= 999999999"
  | beyondCount => "Python int too large to convert to C int"

/-- Days are told as far as 32 bits hold them. -/
def RangeError.ofDays (days : Int) : RangeError :=
  if -2147483648 ≤ days ∧ days ≤ 2147483647 then tooManyDays days else beyondCount

/-- The duration of days, seconds and microseconds of any sign and size. -/
def ofParts (days seconds microseconds : Int) : Except RangeError Duration :=
  let n := days * day + seconds * second + microseconds
  (ofMicroseconds? n).elim (throw (.ofDays (n / day))) pure

def zero : Duration := ⟨0, by decide, by decide⟩

def thirtyMinutes : Duration := ⟨30 * minute, by decide, by decide⟩

def fortyFiveMinutes : Duration := ⟨45 * minute, by decide, by decide⟩

def fourHours : Duration := ⟨4 * hour, by decide, by decide⟩

def oneDay : Duration := ⟨day, by decide, by decide⟩

/-- Whole days, rounded down; what is left over is not negative. -/
def days (d : Duration) : Int := d.microseconds / day

/-- The whole seconds beyond the days. -/
def secondsOfDay (d : Duration) : Int := d.microseconds % day / second

/-- The microseconds beyond the seconds. -/
def microsecondsOfSecond (d : Duration) : Int := d.microseconds % second

end Duration

end PlannerConfig
