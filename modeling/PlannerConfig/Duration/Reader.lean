import PlannerConfig.Document.Text
import PlannerConfig.Duration.Basic

/-!
Reading durations. A duration is a number of seconds, a compact text such as `1h30m`, or an
ISO 8601 text such as `PT1H30M`.
-/
namespace PlannerConfig

open PlannerConfig.Text PlannerConfig.Number

/-- The text of the limit on the digits of integers. -/
def digitLimitText (found : String) : String :=
  "Exceeds the limit (" ++ toString maxIntegerDigits ++ " digits) for integer string conversion"
    ++ found ++ "; use sys.set_int_max_str_digits() to increase the limit"

namespace Duration

/-- Why a value is no duration. -/
inductive Error
  | boolean
  | notText (kind : String)
  | notANumber
  | tooLong (raw : String)
  | unwritable
  | tooManyDigits (digits : Nat)
  | malformed (raw : String)
  deriving DecidableEq, Repr

def Error.message : Error → String
  | boolean => "a boolean is not a duration"
  | notText kind => "expected a duration string, got " ++ kind
  | notANumber => "cannot convert float NaN to integer"
  | tooLong raw => "'" ++ raw ++ "' is too long for a duration"
  | unwritable => digitLimitText ""
  | tooManyDigits digits => digitLimitText (": value has " ++ toString digits ++ " digits")
  | malformed raw => "'" ++ raw ++ "' is not a duration, use e.g. '1h30m' or 'PT1H30M'"

/-- The microseconds nearest to a number of seconds. The whole seconds count exactly; the fraction
is scaled to microseconds in `binary64` and then rounded, a tie to the even neighbour. -/
def microsecondsOf (seconds : Binary) : Nat :=
  let fraction :=
    (Binary.nearest (seconds.fractionNumerator * 1000000) seconds.denominator).getD ⟨0, -1074⟩
  seconds.whole * 1000000 + roundHalfEven fraction.numerator fraction.denominator

def signed (negative : Bool) (n : Nat) : Int := if negative then -(n : Int) else n

/-- The duration of a number of seconds. -/
def ofSeconds (raw : String) : Datum → Except Error Duration
  | .notANumber => throw .notANumber
  | .infinite _ => throw (.tooLong raw)
  | .finite negative size =>
    match ofMicroseconds? (signed negative (microsecondsOf size)) with
    | some d => return d
    | none => throw (.tooLong raw)

/-- The parts of a duration as they are written. -/
structure Components where
  negative : Bool
  days : Option (List Nat) := none
  hours : Option (List Nat) := none
  minutes : Option (List Nat) := none
  seconds : Option Plain := none
  deriving DecidableEq, Repr

/-- Digits and a unit after them, if they are there; then the rest. -/
def takeCount (isUnit : Char → Bool) (cs : List Char) : Option (List Nat) × List Char :=
  match spanDigits cs with
  | ([], _) => (none, cs)
  | (ds, c :: rest) => if isUnit c then (some ds, rest) else (none, cs)
  | (_, []) => (none, cs)

/-- A decimal and a unit after it, if they are there; then the rest. -/
def takeDecimal (isUnit : Char → Bool) (cs : List Char) : Option Plain × List Char :=
  match strictPlain? cs with
  | some (x, c :: rest) => if isUnit c then (some x, rest) else (none, cs)
  | _ => (none, cs)

/-- The compact notation: `-1d2h3m4.5s` with any of its parts left out. -/
def compact? (cs : List Char) : Option Components :=
  let (negative, cs) :=
    match cs with
    | '-' :: rest => (true, rest)
    | cs => (false, cs)
  let (days, cs) := takeCount (· == 'd') cs
  let (hours, cs) := takeCount (· == 'h') cs
  let (minutes, cs) := takeCount (· == 'm') cs
  let (seconds, cs) := takeDecimal (· == 's') cs
  if cs.isEmpty then some ⟨negative, days, hours, minutes, seconds⟩ else none

/-- A letter of the ISO notation in either case; the long s counts as an s. -/
def isIsoLetter (letter c : Char) : Bool :=
  c == letter || c == letter.toLower || letter == 'S' && c == 'ſ'

/-- The part of the ISO notation after the days. -/
def isoTime? (negative : Bool) (days : Option (List Nat)) : List Char → Option Components
  | [] => some { negative, days }
  | c :: cs =>
    if isIsoLetter 'T' c then
      let (hours, cs) := takeCount (isIsoLetter 'H') cs
      let (minutes, cs) := takeCount (isIsoLetter 'M') cs
      let (seconds, cs) := takeDecimal (isIsoLetter 'S') cs
      if cs.isEmpty then some ⟨negative, days, hours, minutes, seconds⟩ else none
    else none

/-- The ISO notation: `-P1DT2H3M4.5S` with any of its parts left out. -/
def iso? (cs : List Char) : Option Components :=
  match optionalSign cs with
  | (negative, c :: rest) =>
    if isIsoLetter 'P' c then
      let (days, rest) := takeCount (isIsoLetter 'D') rest
      isoTime? negative days rest
    else none
  | (_, []) => none

/-- The number of a count that is written, or zero. -/
def countOf : Option (List Nat) → Except Error Nat
  | none => return 0
  | some ds =>
    if maxIntegerDigits < ds.length then throw (.tooManyDigits ds.length)
    else return natOfDigits ds

/-- The microseconds of a decimal number of seconds that is written, or zero; `none` when it is
beyond all numbers. -/
def secondsOf? : Option Plain → Option Nat
  | none => some 0
  | some x => (Binary.nearest x.numerator x.denominator).map microsecondsOf

namespace Components

def isEmpty (c : Components) : Bool :=
  c.days.isNone && c.hours.isNone && c.minutes.isNone && c.seconds.isNone

/-- The sum of the parts. The parts without the sign must be a duration, too. -/
def total (raw : String) (c : Components) : Except Error Duration := do
  let days ← countOf c.days
  let hours ← countOf c.hours
  let minutes ← countOf c.minutes
  match secondsOf? c.seconds with
  | none => throw (.tooLong raw)
  | some rest =>
    let n := days * day + hours * hour + minutes * minute + rest
    match ofMicroseconds? n, ofMicroseconds? (if c.negative then -n else n) with
    | some _, some d => return d
    | _, _ => throw (.tooLong raw)

end Components

/-- The duration that a text stands for. -/
def parse (raw : String) : Except Error Duration :=
  let cs := trimChars raw.toList
  match signedPlain? cs with
  | some (negative, x) => ofSeconds raw (x.toDatum negative)
  | none =>
    match (iso? cs).orElse fun _ => compact? cs with
    | none => throw (.malformed raw)
    | some c => if c.isEmpty then throw (.malformed raw) else c.total raw

/-- The duration that a value of a document stands for. -/
def read : Option Document → Except Error Duration
  | some (.bool _) => throw .boolean
  | some (.int n) =>
    match ofMicroseconds? (n * second) with
    | some d => return d
    | none => throw (((integerText? n).map Error.tooLong).getD .unwritable)
  | some (.float x) => ofSeconds (floatText x) (.ofFloat x)
  | some (.text s) => parse s
  | raw => throw (.notText (Document.kindName raw))

end Duration

end PlannerConfig
