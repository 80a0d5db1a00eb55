import PlannerConfig.Diff.Matching
import PlannerConfig.Text.Blank

/-!
Unified differences: what is left out of a text and what is put in, in hunks with a few lines of
context.
-/
namespace PlannerConfig.Diff

open PlannerConfig.Text

/-- A part of both lists of lines. If `same`, the lines are equal; if not, those of the first list
give way to those of the second. -/
structure Edit where
  same : Bool
  window : Window
  deriving DecidableEq, Repr

/-- The edits between two runs, from the ends `i` and `j` of the one before. -/
def editsFrom (i j : Nat) : List Run → List Edit
  | [] => []
  | r :: rest =>
    (if i < r.left || j < r.right then [⟨false, ⟨i, r.left, j, r.right⟩⟩] else [])
      ++ (if 0 < r.size then [⟨true, ⟨r.left, r.left + r.size, r.right, r.right + r.size⟩⟩] else [])
      ++ editsFrom (r.left + r.size) (r.right + r.size) rest

/-- How one list of lines becomes another. -/
def edits (left right : List String) : List Edit :=
  editsFrom 0 0 (matching left right ++ [⟨left.length, right.length, 0⟩])

/-- The number of equal lines around a change. -/
def context : Nat := 3

namespace Window

/-- The last lines of a window, as many as there are in the context. -/
def last (w : Window) : Window :=
  { w with left := max w.left (w.leftEnd - context), right := max w.right (w.rightEnd - context) }

/-- The first lines of a window, as many as there are in the context. -/
def first (w : Window) : Window :=
  { w with
    leftEnd := min w.leftEnd (w.left + context)
    rightEnd := min w.rightEnd (w.right + context) }

end Window

namespace Edit

def first (e : Edit) : Edit := { e with window := e.window.first }

def last (e : Edit) : Edit := { e with window := e.window.last }

/-- Equal lines that are more than the context of two changes. -/
def isLong (e : Edit) : Bool := e.same && 2 * context < e.window.leftEnd - e.window.left

end Edit

/-- The edits with the equal lines at the start cut to the context. -/
def trimStart : List Edit → List Edit
  | e :: rest => if e.same then e.last :: rest else e :: rest
  | [] => []

/-- The edits with the equal lines at the end cut to the context. -/
def trimEnd : List Edit → List Edit
  | [] => []
  | [e] => if e.same then [e.first] else [e]
  | e :: f :: rest => e :: trimEnd (f :: rest)

/-- The edits in groups, cut in two within long stretches of equal lines. `group` holds the edits
of the group being made. -/
def groups (group : List Edit) : List Edit → List (List Edit)
  | [] => [group]
  | e :: rest =>
    if e.isLong then (group ++ [e.first]) :: groups [e.last] rest else groups (group ++ [e]) rest

/-- Whether a group has a change. -/
def hasChange : List Edit → Bool
  | [] => false
  | [e] => !e.same
  | _ => true

/-- The place of lines in their text: the number of the first one, and how many there are unless
there is one. -/
def rangeText (start stop : Nat) : String :=
  if stop - start = 1 then toString (start + 1)
  else if stop - start = 0 then toString start ++ ",0"
  else toString (start + 1) ++ "," ++ toString (stop - start)

/-- The lines of a list between two indexes, each after a mark. -/
def marked (mark : String) (lines : List String) (start stop : Nat) : List String :=
  ((lines.take stop).drop start).map (mark ++ ·)

/-- The lines of an edit. -/
def Edit.lines (left right : List String) (e : Edit) : List String :=
  let w := e.window
  if e.same then marked " " left w.left w.leftEnd
  else marked "-" left w.left w.leftEnd ++ marked "+" right w.right w.rightEnd

/-- The lines of a hunk. -/
def hunk (left right : List String) (group : List Edit) : List String :=
  match group, group.getLast? with
  | e :: _, some f =>
    ("@@ -" ++ rangeText e.window.left f.window.leftEnd
      ++ " +" ++ rangeText e.window.right f.window.rightEnd ++ " @@\n")
      :: group.flatMap (Edit.lines left right)
  | _, _ => []

/-- The hunks of a difference. -/
def hunks (left right : List String) : List (List String) :=
  ((groups [] (trimEnd (trimStart (edits left right)))).filter hasChange).map (hunk left right)

/-- The unified difference of two texts under the names of both. -/
def unified (leftName rightName left right : String) : String :=
  match hunks (lines left) (lines right) with
  | [] => ""
  | hs => join "" (["--- " ++ leftName ++ "\n", "+++ " ++ rightName ++ "\n"] ++ hs.flatten)

end PlannerConfig.Diff
