import PlannerConfig.Text.Search

/-!
Templates of the reference. A section stands between two markers that name it; filling a section
replaces what is between them and keeps the rest.
-/
namespace PlannerConfig

open PlannerConfig.Text

/-- A section of a template. -/
structure Section where
  name : String
  deriving DecidableEq, Repr

namespace Section

def parametersTable : Section := ⟨"PARAMETERS-TABLE"⟩

def parametersDetails : Section := ⟨"PARAMETERS-DETAILS"⟩

def beginMarker (s : Section) : String := "<!-- " ++ s.name ++ " BEGIN -->"

def endMarker (s : Section) : String := "<!-- " ++ s.name ++ " END -->"

/-- The text that stands at the head of a filled section. -/
def note : String :=
  "<!-- NOTE! This section is auto-generated. Do not change, change doc in code instead. -->"

/-- What is said of a template without the section. -/
def missingText (s : Section) : String :=
  "Template is missing the '" ++ s.beginMarker ++ "' ... '" ++ s.endMarker ++ "' markers"

/-- The text between the markers of a filled section. -/
def content (text : String) : String := "\n" ++ note ++ "\n\n" ++ text ++ "\n"

/-- The document with a text in the section; `none` if a marker is missing. The section runs from
the first begin marker to the first end marker after it. -/
def fill? (s : Section) (doc text : String) : Option String := do
  let (before, rest) ← cutAt s.beginMarker.toList doc.toList
  let (_, after) ← cutAt s.endMarker.toList rest
  return String.ofList before ++ s.beginMarker ++ content text ++ s.endMarker
    ++ String.ofList after

end Section

/-- A template that lacks a section. -/
structure TemplateError where
  missing : Section
  deriving DecidableEq, Repr

def TemplateError.message (e : TemplateError) : String := e.missing.missingText

/-- The document with a text in the section. -/
def Section.fill (s : Section) (doc text : String) : Except TemplateError String :=
  (s.fill? doc text).elim (throw ⟨s⟩) pure

/-- The document with both sections filled, the table first. -/
def fillTemplate (template table details : String) : Except TemplateError String := do
  Section.parametersDetails.fill (← Section.parametersTable.fill template table) details

end PlannerConfig
