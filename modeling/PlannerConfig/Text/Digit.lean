import PlannerConfig.Text.Ranges

/-!
Decimal digits: the characters of general category `Nd` in Unicode 14. Each script has ten of them
in a row, so a digit is found from the code point of its script's zero.
-/
namespace PlannerConfig.Text

/-- Code points of the digit zero of every script, in ascending order. -/
def zeroDigits : List Nat := [
  48, 1632, 1776, 1984, 2406, 2534, 2662, 2790, 2918, 3046,
  3174, 3302, 3430, 3558, 3664, 3792, 3872, 4160, 4240, 6112,
  6160, 6470, 6608, 6784, 6800, 6992, 7088, 7232, 7248, 42528,
  43216, 43264, 43472, 43504, 43600, 44016, 65296, 66720, 68912, 69734,
  69872, 69942, 70096, 70384, 70736, 70864, 71248, 71360, 71472, 71904,
  72016, 72784, 73040, 73120, 92768, 92864, 93008, 120782, 120792, 120802,
  120812, 120822, 123200, 123632, 125264, 130032]

/-- The value of `n` among ten code points in a row that start at one of `zeros`. -/
def valueFrom (n : Nat) : List Nat → Option Nat
  | [] => none
  | z :: zs => if n < z then none else if n < z + 10 then some (n - z) else valueFrom n zs

/-- The value of a decimal digit of any script. -/
def digitValue? (c : Char) : Option Nat := valueFrom c.toNat zeroDigits

def isDigit (c : Char) : Bool := (digitValue? c).isSome

/-- The digits `0` to `9` only. -/
def isAsciiDigit (c : Char) : Bool := '0' ≤ c && c ≤ '9'

/-- The longest run of digits at the start of a text, as values, and what follows it. -/
def spanDigits : List Char → List Nat × List Char
  | [] => ([], [])
  | c :: cs =>
    match digitValue? c with
    | none => ([], c :: cs)
    | some d =>
      let rest := spanDigits cs
      (d :: rest.1, rest.2)

/-- The number that a list of decimal digits denotes, most significant first. -/
def natOfDigits (ds : List Nat) : Nat := ds.foldl (fun n d => 10 * n + d) 0

end PlannerConfig.Text
