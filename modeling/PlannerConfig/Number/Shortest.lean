import PlannerConfig.Number.Binary

/-!
Decimal texts of a `Float`: the shortest one that reads back, and the one with six significant
digits. Both are found in exact arithmetic on a grid of decimals.
-/
namespace PlannerConfig.Number

/-- A decimal `0.d₁d₂… * 10 ^ point` by its digits. -/
structure Decimal where
  digits : List Nat
  point : Int
  deriving DecidableEq, Repr

/-- The decimal digits of a number, most significant first; none for zero. -/
def digitsOf (n : Nat) : List Nat := go n n []
where
  /-- `fuel` bounds the number of digits. -/
  go : Nat → Nat → List Nat → List Nat
    | 0, _, ds => ds
    | fuel + 1, n, ds => if n = 0 then ds else go fuel (n / 10) (n % 10 :: ds)

/-- The digits without the zeros at their end. -/
def trimZeros (ds : List Nat) : List Nat := (ds.reverse.dropWhile (· == 0)).reverse

/-- The largest `k` with `10 ^ k ≤ n / d`, for positive `n` and `d`. -/
def log10Quotient (n d : Nat) : Int :=
  let guess : Int := (Binary.log2Quotient n d * 30103) / 100000
  let reaches (k : Int) : Bool := d * tenTo k.toNat ≤ n * tenTo (-k).toNat
  if reaches (guess + 1) then guess + 1 else if reaches guess then guess else guess - 1

/-- Whether `c * 10 ^ p` rounds to `b`: it lies between the midpoints to the neighbours of `b`, or
on one of them if the significand of `b` is even. -/
def readsBack (b : Binary) (c : Nat) (p : Int) : Bool :=
  let m := b.significand
  let closeBelow := m == twoTo 52 && b.exponent != -1074
  let unit := twoTo (b.exponent - 2).toNat * tenTo (-p).toNat
  let value := c * tenTo p.toNat * twoTo (2 - b.exponent).toNat
  let low := (4 * m - if closeBelow then 1 else 2) * unit
  let high := (4 * m + 2) * unit
  if m % 2 == 0 then low ≤ value && value ≤ high else low < value && value < high

/-- The grid point of `10 ^ p` that reads back as `b` and is nearest to it, if there is one. -/
def gridPoint? (b : Binary) (p : Int) : Option Nat :=
  let n := b.numerator * tenTo (-p).toNat
  let d := b.denominator * tenTo p.toNat
  let below := n / d
  let rest := n % d
  match readsBack b below p && below != 0, readsBack b (below + 1) p with
  | true, true =>
    if 2 * rest < d then some below
    else if d < 2 * rest then some (below + 1)
    else some (below + below % 2)
  | true, false => some below
  | false, true => some (below + 1)
  | false, false => none

/-- The first grid with a point that reads back, from `count` grids that start at `10 ^ p`. -/
def firstGrid (b : Binary) : Nat → Int → Option (Nat × Int)
  | 0, _ => none
  | count + 1, p =>
    match gridPoint? b p with
    | some c => some (c, p)
    | none => firstGrid b count (p - 1)

/-- The fewest digits that read back as `b`, and of those the nearest. -/
def shortest (b : Binary) : Decimal :=
  let top := log10Quotient b.numerator b.denominator
  match firstGrid b 18 top with
  | some (c, p) =>
    let ds := digitsOf c
    ⟨trimZeros ds, ds.length + p⟩
  | none => ⟨[], 0⟩

/-- The digits as characters. -/
def digitChars (ds : List Nat) : List Char := ds.map fun d => Char.ofNat (48 + d)

/-- An exponent with its sign and at least two digits. -/
def exponentChars (e : Int) : List Char :=
  let ds := digitsOf e.natAbs
  let padded := List.replicate (2 - ds.length) 0 ++ ds
  'e' :: (if e < 0 then '-' else '+') :: digitChars padded

/-- Positional notation: a point and at least one digit on either side of it when `keepPoint`
holds, and no point without digits after it otherwise. -/
def positional (keepPoint : Bool) (x : Decimal) : List Char :=
  let before := digitChars (x.digits.take x.point.toNat)
    ++ List.replicate (x.point.toNat - x.digits.length) '0'
  let after := List.replicate (-x.point).toNat '0' ++ digitChars (x.digits.drop x.point.toNat)
  (if before.isEmpty then ['0'] else before)
    ++ if after.isEmpty then if keepPoint then ['.', '0'] else [] else '.' :: after

/-- Scientific notation: one digit before the point, and no point without digits after it. -/
def scientific (x : Decimal) : List Char :=
  let ds := if x.digits.isEmpty then [0] else x.digits
  let after := digitChars (ds.drop 1)
  digitChars (ds.take 1) ++ (if after.isEmpty then [] else '.' :: after)
    ++ exponentChars (x.point - 1)

def withSign (negative : Bool) (cs : List Char) : List Char := if negative then '-' :: cs else cs

/-- The shortest decimal that reads back: positional from `0.0001` up to below `10 ^ 16`, with a
point in any case, and scientific elsewhere. -/
def floatText (x : Float) : String :=
  String.ofList <|
    match Datum.ofFloat x with
    | .notANumber => ['n', 'a', 'n']
    | .infinite negative => withSign negative ['i', 'n', 'f']
    | .finite negative b =>
      withSign negative <|
        if b.significand = 0 then ['0', '.', '0']
        else
          let d := shortest b
          if -4 < d.point && d.point ≤ 16 then positional true d else scientific d

/-- Six significant digits, rounded to nearest with ties to even. -/
def sixDigits (b : Binary) : Decimal :=
  let top := log10Quotient b.numerator b.denominator
  let p := top - 5
  let c := roundHalfEven (b.numerator * tenTo (-p).toNat) (b.denominator * tenTo p.toNat)
  let ds := digitsOf c
  ⟨trimZeros ds, ds.length + p⟩

/-- At most six significant digits: positional from `0.0001` up to below `10 ^ 6`, scientific
elsewhere, and in either notation without zeros at the end. -/
def briefChars (b : Binary) : List Char :=
  if b.significand = 0 then ['0']
  else
    let d := sixDigits b
    if -4 < d.point && d.point ≤ 6 then positional false d else scientific d

/-- The brief decimal of a `Float`. -/
def briefText (x : Float) : String :=
  String.ofList <|
    match Datum.ofFloat x with
    | .notANumber => ['n', 'a', 'n']
    | .infinite negative => withSign negative ['i', 'n', 'f']
    | .finite negative b => withSign negative (briefChars b)

end PlannerConfig.Number
