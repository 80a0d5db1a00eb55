/-!
Finding and replacing text inside text.
-/
namespace PlannerConfig.Text

/-- The text before the first occurrence of `needle` and the text after it. -/
def cutAt (needle : List Char) : List Char → Option (List Char × List Char)
  | [] => if needle = [] then some ([], []) else none
  | c :: cs =>
    if needle.isPrefixOf (c :: cs) then some ([], (c :: cs).drop needle.length)
    else (cutAt needle cs).map fun (before, rest) => (c :: before, rest)

/-- Every occurrence of one character replaced by another. -/
def replaceChar (old new : Char) (cs : List Char) : List Char :=
  cs.map fun c => if c = old then new else c

end PlannerConfig.Text
