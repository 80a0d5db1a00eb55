import PlannerConfig.Document.Text
import PlannerConfig.Number.Shortest

/-!
Linear functions, written `A + B x`, as they give the cost of a travel time.
-/
namespace PlannerConfig

open PlannerConfig.Text PlannerConfig.Number

/-- The function `x ↦ constant + coefficient * x`. -/
structure LinearFunction where
  constant : Float
  coefficient : Float
  deriving DecidableEq

namespace LinearFunction

/-- The value at `x`, with two roundings. -/
def apply (f : LinearFunction) (x : Float) : Float := f.constant + f.coefficient * x

/-- Both parts with at most six significant digits. -/
def text (f : LinearFunction) : String :=
  briefText f.constant ++ " + " ++ briefText f.coefficient ++ " x"

/-- A decimal with an optional sign at the start of a text, after blanks. -/
def term? (cs : List Char) : Option (Float × List Char) :=
  let (negative, rest) := optionalSign (cs.dropWhile isBlank)
  (plain? rest).map fun (x, rest) => (x.toFloat negative, rest)

/-- The function that the characters of a text are, blanks anywhere between its parts. -/
def ofChars? (cs : List Char) : Option LinearFunction := do
  let (constant, rest) ← term? cs
  match rest.dropWhile isBlank with
  | '+' :: rest => do
    let (coefficient, rest) ← term? rest
    match rest.dropWhile isBlank with
    | 'x' :: rest => if rest.all isBlank then return ⟨constant, coefficient⟩ else none
    | _ => none
  | _ => none

def parse? (s : String) : Option LinearFunction := ofChars? s.toList

/-- What is said of a text that is no linear function. -/
def errorText (s : String) : String :=
  "'" ++ s ++ "' is not a linear function, expected the form 'A + B x'"

end LinearFunction

end PlannerConfig
