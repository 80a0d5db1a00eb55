import PlannerConfig.Text.Blank

/-!
The common margin of an indented text. Lines that hold only spaces and tabs do not count towards
the margin and come out empty.
-/
namespace PlannerConfig.Text

def isIndent (c : Char) : Bool := c == ' ' || c == '\t'

/-- The longest text that two texts start with. -/
def commonStart : List Char → List Char → List Char
  | c :: cs, d :: ds => if c = d then c :: commonStart cs ds else []
  | _, _ => []

/-- The indent that all lines share; `none` if no line has text. -/
def margin (rows : List (List Char)) : Option (List Char) :=
  let indents := (rows.filter (· ≠ [])).map (·.takeWhile isIndent)
  match indents with
  | [] => none
  | i :: is => some (is.foldl commonStart i)

/-- A text without the margin that its lines share. -/
def outdentChars (cs : List Char) : List Char :=
  let rows := (splitWhere (· == '\n') cs).map fun row => if row.all isIndent then [] else row
  let m := (margin rows).getD []
  let bare := rows.map fun row => if m.isPrefixOf row then row.drop m.length else row
  ['\n'].intercalate bare

def outdent (s : String) : String := String.ofList (outdentChars s.toList)

end PlannerConfig.Text
