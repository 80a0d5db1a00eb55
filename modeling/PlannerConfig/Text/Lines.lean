/-!
Lines of a text with their ends.
-/
namespace PlannerConfig.Text

/-- A character that ends a line on its own. -/
def isLineEnd (c : Char) : Bool :=
  let n := c.toNat
  (10 ≤ n && n ≤ 13) || (28 ≤ n && n ≤ 30) || n == 0x85 || n == 0x2028 || n == 0x2029

/-- The lines of a text, each with the end it has. A carriage return and the line feed after it are
one end. `line` holds the characters of the line being read, last one first. -/
def linesFrom (line : List Char) : List Char → List (List Char)
  | [] => if line.isEmpty then [] else [line.reverse]
  | '\r' :: '\n' :: cs => (line.reverse ++ ['\r', '\n']) :: linesFrom [] cs
  | c :: cs =>
    if isLineEnd c then (line.reverse ++ [c]) :: linesFrom [] cs else linesFrom (c :: line) cs

def lines (s : String) : List String := (linesFrom [] s.toList).map String.ofList

end PlannerConfig.Text
