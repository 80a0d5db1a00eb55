/-!
Binary floating point numbers in exact arithmetic: the significand and exponent of a `Float`, and
the `Float` nearest to a quotient of natural numbers. Every number that is read or scaled goes
through `Binary.nearest`, so there is one rounding rule: to nearest, a tie to the even neighbour.
-/
namespace PlannerConfig.Number

/-- The power `2 ^ n`. -/
abbrev twoTo (n : Nat) : Nat := Nat.pow 2 n

/-- The power `10 ^ n`. -/
abbrev tenTo (n : Nat) : Nat := Nat.pow 10 n

/-- The quotient `n / d` rounded to the nearest natural number, a tie to the even one. -/
def roundHalfEven (n d : Nat) : Nat :=
  let q := n / d
  let r := n % d
  if 2 * r < d then q else if d < 2 * r then q + 1 else q + q % 2

@[simp] theorem roundHalfEven_one (n : Nat) : roundHalfEven n 1 = n := by
  simp [roundHalfEven, Nat.mod_one]

/-- The number `significand * 2 ^ exponent`. -/
structure Binary where
  significand : Nat
  exponent : Int
  deriving DecidableEq, Repr

namespace Binary

/-- Numerator of the number as a quotient of natural numbers. -/
def numerator (b : Binary) : Nat := b.significand * twoTo b.exponent.toNat

/-- Denominator of the number as a quotient of natural numbers, a power of two. -/
def denominator (b : Binary) : Nat := twoTo (-b.exponent).toNat

/-- The integer part. -/
def whole (b : Binary) : Nat := b.numerator / b.denominator

/-- The number less its integer part is `fractionNumerator / denominator`. -/
def fractionNumerator (b : Binary) : Nat := b.numerator % b.denominator

def isWhole (b : Binary) : Bool := b.fractionNumerator == 0

/-- The largest `k` with `2 ^ k ≤ n / d`, for positive `n` and `d`. -/
def log2Quotient (n d : Nat) : Int :=
  let k : Int := (n.log2 : Int) - d.log2
  if d * twoTo k.toNat ≤ n * twoTo (-k).toNat then k else k - 1

/-- The `binary64` number nearest to `n / d`; `none` when that is beyond the largest one. -/
def nearest (n d : Nat) : Option Binary :=
  if n = 0 then some ⟨0, -1074⟩
  else
    let e := max (log2Quotient n d - 52) (-1074)
    let m := roundHalfEven (n * twoTo (-e).toNat) (d * twoTo e.toNat)
    let b : Binary := if m = twoTo 53 then ⟨twoTo 52, e + 1⟩ else ⟨m, e⟩
    if b.exponent ≤ 971 then some b else none

end Binary

/-- What a `Float` stands for. -/
inductive Datum
  | notANumber
  | infinite (negative : Bool)
  | finite (negative : Bool) (size : Binary)
  deriving DecidableEq, Repr

def Datum.ofFloat (x : Float) : Datum :=
  let bits := x.toBits.toNat
  let negative := bits / twoTo 63 == 1
  let exponent : Nat := bits / twoTo 52 % twoTo 11
  let fraction : Nat := bits % twoTo 52
  if exponent = 2047 then if fraction = 0 then .infinite negative else .notANumber
  else if exponent = 0 then .finite negative ⟨fraction, -1074⟩
  else .finite negative ⟨fraction + twoTo 52, (exponent : Int) - 1075⟩

def signBit (negative : Bool) : Nat := if negative then twoTo 63 else 0

/-- The `Float` of a number that `Binary.nearest` gave. -/
def Binary.toFloat (negative : Bool) (b : Binary) : Float :=
  let size :=
    if b.significand < twoTo 52 then b.significand
    else (b.exponent + 1075).toNat * twoTo 52 + (b.significand - twoTo 52)
  Float.ofBits (UInt64.ofNat (signBit negative + size))

def infinity (negative : Bool) : Float :=
  Float.ofBits (UInt64.ofNat (signBit negative + 2047 * twoTo 52))

def notANumber : Float := Float.ofBits (UInt64.ofNat (2047 * twoTo 52 + twoTo 51))

def isFinite (x : Float) : Bool :=
  match Datum.ofFloat x with
  | .finite .. => true
  | _ => false

/-- The `Float` nearest to `n / d` with the given sign, infinite when that is too large. -/
def floatOfQuotient (negative : Bool) (n d : Nat) : Float :=
  match Binary.nearest n d with
  | some b => b.toFloat negative
  | none => infinity negative

/-- The `Float` nearest to `± n * 10 ^ e`. Exponents that decide the answer alone are not
expanded. -/
def floatOfScientific (negative : Bool) (n : Nat) (e : Int) : Float :=
  if n = 0 then floatOfQuotient negative 0 1
  else if 400 < e then infinity negative
  else if e < -400 - (n.log2 : Int) then floatOfQuotient negative 0 1
  else floatOfQuotient negative (n * tenTo e.toNat) (tenTo (-e).toNat)

/-- The `Float` nearest to an integer; `none` when the integer is too large for one. -/
def floatOfInt? (n : Int) : Option Float :=
  (Binary.nearest n.natAbs 1).map (Binary.toFloat (decide (n < 0)))

/-- The integer that a `Float` is, if it is one. -/
def intOfFloat? (x : Float) : Option Int :=
  match Datum.ofFloat x with
  | .finite negative b =>
    if b.isWhole then some (if negative then -(b.whole : Int) else b.whole) else none
  | _ => none

end PlannerConfig.Number
