import PlannerConfig.Reference.Outline
import PlannerConfig.Text.Search

/-!
The summary of the reference: a Markdown table with a row for each parameter.
-/
namespace PlannerConfig

open PlannerConfig.Text

/-- A text in code style; nothing for an empty one. -/
def inlineCode (s : String) : String := if s = "" then "" else "`" ++ s ++ "`"

/-- A text inside a cell, with a backslash before each bar. -/
def escapeCell (s : String) : String :=
  String.ofList (s.toList.flatMap fun c => if c = '|' then [backslash, '|'] else [c])

def tableRow (cells : List String) : String := "| " ++ join " | " cells ++ " |"

def tableHeader : List String := [
  "| Config Parameter | Type | Default | Summary | Since |",
  "|------------------|------|---------|---------|-------|"]

namespace Item

/-- The row of a skipped entry: a link to where it is described. -/
def referenceRow (i : Item) (reference : String) : String :=
  let link := "See [" ++ reference ++ "](" ++ reference ++ ")"
  match i.record? with
  | some r => tableRow [inlineCode i.display, inlineCode r.typeName, "", link, r.since.text]
  | none => tableRow [inlineCode i.display, inlineCode ValueType.object.text, "", link, ""]

/-- The row of a parameter. -/
def parameterRow (i : Item) (r : Record) : String :=
  tableRow [
    inlineCode i.display,
    inlineCode r.typeName,
    escapeCell (if r.isRequired then "Required" else inlineCode r.defaultText),
    escapeCell r.summary,
    r.since.text]

/-- The row of an item; groups have none unless they are skipped. -/
def row? (i : Item) : Option String :=
  match i.reference with
  | some reference => some (i.referenceRow reference)
  | none => i.place.leaf?.map i.parameterRow

end Item

/-- The summary table. -/
def Catalog.summaryTable (c : Catalog) (skip : Skip) : String :=
  join "\n" (tableHeader ++ (c.outline skip).filterMap Item.row?) ++ "\n"

end PlannerConfig
