import PlannerConfig.Text.Lines

/-!
Matching runs of two lists of lines. The longest run that both have in common is found first, then
the longest ones on either side of it. In long documents a run is not looked for at lines that
occur often, though it may reach over them.
-/
namespace PlannerConfig.Diff

/-- Equal lines from `left` in the first list and from `right` in the second. -/
structure Run where
  left : Nat
  right : Nat
  size : Nat
  deriving DecidableEq, Repr

/-- Lists of at least this many lines have lines that occur too often to start from. -/
def longDocument : Nat := 200

/-- Whether a line with that many occurrences among `total` lines occurs too often. -/
def isFrequent (total occurrences : Nat) : Bool :=
  longDocument ≤ total && total / 100 + 1 < occurrences

/-- The indexes at which a line occurs, in ascending order. -/
def occurrences (line : String) (right : List String) : List Nat :=
  (right.zipIdx.filter (·.1 == line)).map Prod.snd

/-- For each line of the first list, where it occurs in the second. -/
def startsOf (left right : List String) : List (List Nat) :=
  left.map fun line =>
    let places := occurrences line right
    if isFrequent right.length places.length then [] else places

/-- Two documents and where the lines of the first occur in the second. -/
structure Documents where
  left : Array String
  right : Array String
  starts : Array (List Nat)

def Documents.ofLines (left right : List String) : Documents :=
  ⟨left.toArray, right.toArray, (startsOf left right).toArray⟩

/-- A part of both documents: the lines from `left` to `leftEnd` and from `right` to `rightEnd`,
ends not included. -/
structure Window where
  left : Nat
  leftEnd : Nat
  right : Nat
  rightEnd : Nat
  deriving DecidableEq, Repr

namespace Documents

variable (d : Documents)

def equalAt (i j : Nat) : Bool := d.left[i]? == d.right[j]?

/-- The longest run so far, and the sizes of the runs that end at each line of the second list and
at the last line of the first list looked at. -/
structure Search where
  best : Run
  ending : List (Nat × Nat)

/-- Looks at one line of the first list. -/
def look (w : Window) (s : Search) (i : Nat) : Search :=
  let places := ((d.starts[i]?).getD []).filter fun j => w.right ≤ j && j < w.rightEnd
  let ending := places.map fun j =>
    (j, (if j = 0 then 0 else (s.ending.lookup (j - 1)).getD 0) + 1)
  let best := ending.foldl (fun best (j, size) =>
    if best.size < size then ⟨i + 1 - size, j + 1 - size, size⟩ else best) s.best
  ⟨best, ending⟩

/-- The longest run of a window among those that start at rare lines; of several the first. -/
def core (w : Window) : Run :=
  let lines := (List.range (w.leftEnd - w.left)).map (w.left + ·)
  (lines.foldl (d.look w) ⟨⟨w.left, w.right, 0⟩, []⟩).best

/-- A run with the equal lines before it. -/
def growBack (w : Window) : Nat → Nat → Nat → Run
  | i + 1, j + 1, size =>
    if w.left ≤ i && w.right ≤ j && d.equalAt i j then growBack w i j (size + 1)
    else ⟨i + 1, j + 1, size⟩
  | i, j, size => ⟨i, j, size⟩

/-- A run with at most `room` equal lines after it. -/
def growOn (r : Run) : Nat → Run
  | 0 => r
  | room + 1 =>
    if d.equalAt (r.left + r.size) (r.right + r.size) then
      growOn { r with size := r.size + 1 } room
    else r

/-- The longest run of a window, grown as far as lines are equal. -/
def longest (w : Window) : Run :=
  let c := d.core w
  let r := d.growBack w c.left c.right c.size
  d.growOn r (min (w.leftEnd - (r.left + r.size)) (w.rightEnd - (r.right + r.size)))

/-- The matching runs of a window in order. -/
def runs (w : Window) : List Run :=
  match d.longest w with
  | ⟨i, j, size⟩ =>
    if _h : 0 < size ∧ w.left ≤ i ∧ i + size ≤ w.leftEnd then
      runs { w with leftEnd := i, rightEnd := j } ++ ⟨i, j, size⟩ ::
        runs { w with left := i + size, right := j + size }
    else []
termination_by w.leftEnd - w.left
decreasing_by all_goals omega

end Documents

/-- Runs with those put together that follow one another without a gap. -/
def joinRuns : List Run → List Run
  | r :: s :: rest =>
    if r.left + r.size = s.left && r.right + r.size = s.right then
      joinRuns ({ r with size := r.size + s.size } :: rest)
    else r :: joinRuns (s :: rest)
  | rs => rs
termination_by rs => rs.length

/-- The matching runs of two lists of lines, in order. -/
def matching (left right : List String) : List Run :=
  joinRuns ((Documents.ofLines left right).runs ⟨0, left.length, 0, right.length⟩)

end PlannerConfig.Diff
