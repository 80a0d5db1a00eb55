import PlannerConfig.Text.Blank

/-!
Paths of files. A path is read with its empty parts and single points left out, so that two texts
for one path give one text back.
-/
namespace PlannerConfig

open PlannerConfig.Text

/-- The slashes at the start of a path, and its parts. -/
structure FilePath where
  root : String := ""
  parts : List String := []
  deriving DecidableEq, Repr

namespace FilePath

/-- Two slashes at the start stay two; one, or more than two, are one. -/
def rootOf : List Char → String
  | '/' :: '/' :: '/' :: _ => "/"
  | '/' :: '/' :: _ => "//"
  | '/' :: _ => "/"
  | _ => ""

def parse (s : String) : FilePath where
  root := rootOf s.toList
  parts := (splitOnChar '/' s).filter fun part => part ≠ "" ∧ part ≠ "."

/-- The path of a file in a directory. -/
def child (p : FilePath) (name : String) : FilePath := { p with parts := p.parts ++ [name] }

/-- The path as messages show it; a point if there is nothing else. -/
def text (p : FilePath) : String :=
  if p.root = "" ∧ p.parts = [] then "." else p.root ++ join "/" p.parts

/-- The last part. -/
def name (p : FilePath) : String := p.parts.getLast?.getD ""

/-- The end of the name from its last point on. A point that starts or ends the name does not
count. -/
def suffix (p : FilePath) : String :=
  let cs := p.name.toList
  let ending := (cs.reverse.takeWhile (· ≠ '.')).reverse
  let start := cs.length - ending.length
  if ending ≠ [] ∧ 1 < start then String.ofList ('.' :: ending) else ""

end FilePath

end PlannerConfig
