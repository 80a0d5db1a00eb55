import PlannerConfig.Number.Binary
import PlannerConfig.Text.Blank
import PlannerConfig.Text.Digit

/-!
Numerals in text. Digits may come from any script. `realNumeral?` reads the general form of a
floating point number; the parts of durations and linear functions are plain decimals.
-/
namespace PlannerConfig.Number

open PlannerConfig.Text

/-- Numerals for integers may have this many digits. -/
def maxIntegerDigits : Nat := 4300

/-- A plain decimal: integer digits and fraction digits. -/
structure Plain where
  whole : List Nat
  fraction : List Nat
  deriving DecidableEq, Repr

namespace Plain

/-- The plain decimal is `numerator / denominator`. -/
def numerator (x : Plain) : Nat := natOfDigits (x.whole ++ x.fraction)

def denominator (x : Plain) : Nat := tenTo x.fraction.length

def toFloat (negative : Bool) (x : Plain) : Float :=
  floatOfQuotient negative x.numerator x.denominator

/-- The number that `toFloat` stands for. -/
def toDatum (negative : Bool) (x : Plain) : Datum :=
  match Binary.nearest x.numerator x.denominator with
  | some b => .finite negative b
  | none => .infinite negative

end Plain

/-- A sign, if there is one: whether it is a minus, and what follows it. -/
def optionalSign : List Char → Bool × List Char
  | '-' :: cs => (true, cs)
  | '+' :: cs => (false, cs)
  | cs => (false, cs)

/-- Digits, and perhaps a point with digits or nothing after it; then the rest. -/
def plain? (cs : List Char) : Option (Plain × List Char) :=
  match spanDigits cs with
  | ([], _) => none
  | (whole, '.' :: rest) =>
    let (fraction, rest) := spanDigits rest
    some (⟨whole, fraction⟩, rest)
  | (whole, rest) => some (⟨whole, []⟩, rest)

/-- Digits, and a fraction only if the point has digits after it; then the rest. -/
def strictPlain? (cs : List Char) : Option (Plain × List Char) :=
  match spanDigits cs with
  | ([], _) => none
  | (whole, '.' :: rest) =>
    match spanDigits rest with
    | ([], _) => some (⟨whole, []⟩, '.' :: rest)
    | (fraction, rest) => some (⟨whole, fraction⟩, rest)
  | (whole, rest) => some (⟨whole, []⟩, rest)

/-- A plain decimal with an optional sign that is all of the text. -/
def signedPlain? (cs : List Char) : Option (Bool × Plain) :=
  let (negative, rest) := optionalSign cs
  match plain? rest with
  | some (x, []) => some (negative, x)
  | _ => none

/-- Without the underscores that stand between two digits; `none` if one stands elsewhere. -/
def dropUnderscores (afterDigit : Bool) : List Char → Option (List Char)
  | [] => some []
  | '_' :: c :: cs =>
    if afterDigit && isDigit c then (dropUnderscores true cs).map (c :: ·) else none
  | ['_'] => none
  | c :: cs => (dropUnderscores (isDigit c) cs).map (c :: ·)

/-- An exponent of ten after a mark, or no exponent at all; it must end the text. -/
def exponentPart? : List Char → Option Int
  | [] => some 0
  | c :: cs =>
    if c == 'e' || c == 'E' then
      let (negative, rest) := optionalSign cs
      match spanDigits rest with
      | ([], _) => none
      | (ds, []) => some (if negative then -(natOfDigits ds : Int) else natOfDigits ds)
      | _ => none
    else none

/-- Digits with a point somewhere or nowhere, at least one digit, then an exponent. -/
def unsignedReal? (negative : Bool) (cs : List Char) : Option Float :=
  let (whole, rest) := spanDigits cs
  let (fraction, rest) :=
    match rest with
    | '.' :: rest => spanDigits rest
    | rest => ([], rest)
  if whole.isEmpty && fraction.isEmpty then none
  else
    (exponentPart? rest).map fun e =>
      floatOfScientific negative (natOfDigits (whole ++ fraction)) (e - fraction.length)

/-- A character of a numeral in plain ASCII. -/
def isNumeralChar (c : Char) : Bool :=
  isAsciiDigit c || c == '+' || c == '-' || c == '.' || c == 'e' || c == 'E'

/-- A decimal number in plain ASCII: a sign, digits with a point somewhere or nowhere, and an
exponent. -/
def decimalNumeral? (cs : List Char) : Option Float :=
  let (negative, rest) := optionalSign cs
  if cs.all isNumeralChar then unsignedReal? negative rest else none

/-- The digits of an integer in plain ASCII, and whether it has a minus sign. -/
def integerNumeral? (cs : List Char) : Option (Bool × List Nat) :=
  let (negative, rest) := optionalSign cs
  match spanDigits rest with
  | (d :: ds, []) => if rest.all isAsciiDigit then some (negative, d :: ds) else none
  | _ => none

/-- `inf`, `infinity` and `nan` in any case. -/
def namedReal? (negative : Bool) (cs : List Char) : Option Float :=
  let name := String.ofList (cs.map Char.toLower)
  if name == "inf" || name == "infinity" then some (infinity negative)
  else if name == "nan" then some notANumber
  else none

/-- Without the blanks that may stand around a numeral; the information separators U+001C to U+001F
are not among them. -/
def trimNumeral (cs : List Char) : List Char :=
  let isSeparator (c : Char) : Bool := 28 ≤ c.toNat && c.toNat ≤ 31
  trimWhere (fun c => isBlank c && !isSeparator c) cs

/-- A floating point number: blanks around it, a sign, a name or a decimal with an exponent, and
underscores between digits. -/
def realNumeral? (s : String) : Option Float :=
  match dropUnderscores false (trimNumeral s.toList) with
  | none => none
  | some cs =>
    let (negative, rest) := optionalSign cs
    (namedReal? negative rest).orElse fun _ => unsignedReal? negative rest

end PlannerConfig.Number
