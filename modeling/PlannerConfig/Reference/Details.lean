import PlannerConfig.Reference.Table

/-!
The details of the reference: a Markdown section for each entry, groups included.
-/
namespace PlannerConfig

open PlannerConfig.Text

/-- Headings go no deeper than this. -/
def deepestHeading : Int := 6

/-- A heading; the first level is one. -/
def heading (level : Int) (name : String) : String :=
  String.ofList (List.replicate (min level deepestHeading).toNat '#') ++ " " ++ name

/-- A label in bold and a value in code style. -/
def labelled (label value : String) : String := "**" ++ label ++ ":** `" ++ value ++ "`"

namespace Record

/-- The line with version, type, cardinality and default. -/
def metaLine (r : Record) : String :=
  join " ∙ " <|
    [labelled "Since version" r.since.text,
      labelled "Type" r.typeName,
      labelled "Cardinality" (if r.isRequired then "Required" else "Optional")]
    ++ (nonempty? r.defaultText).toList.map (labelled "Default value")

/-- The values or keys that are allowed. -/
def enumLine? (r : Record) : Option String :=
  match r.enumValues with
  | [] => none
  | values =>
    let label := if (r.detailType.bind nonempty?).isSome then "Enum keys" else "Enum values"
    some ("**" ++ label ++ ":** " ++ join " | " (values.map fun v => "`" ++ v ++ "`"))

/-- The paragraphs about a parameter or group that is described in place. -/
def body (r : Record) : List String :=
  r.enumLine?.toList
    ++ (r.feature.map fun f => labelled "Requires feature" f.text).toList
    ++ [r.summary]
    ++ (r.description.bind nonempty?).toList

end Record

namespace Item

/-- The path of the entry around the item. -/
def pathLine (i : Item) : String :=
  "**Path:** /" ++ String.ofList (replaceChar '.' '/' i.parent.toList)

/-- The section of an item. `level` is the heading level of the outermost entries. -/
def detail (level : Int) (i : Item) : String :=
  join "\n\n" <|
    [heading (level + i.depth) i.name]
    ++ (i.record?.map Record.metaLine).toList
    ++ [i.pathLine]
    ++ match i.reference with
      | some reference => ["See [" ++ reference ++ "](" ++ reference ++ ")."]
      | none => (i.record?.map Record.body).getD []

end Item

/-- The sections of all entries. -/
def Catalog.detailList (c : Catalog) (skip : Skip) (level : Int) : String :=
  join "\n\n" ((c.outline skip).map (Item.detail level)) ++ "\n"

end PlannerConfig
