import PlannerConfig.Text.Blank
import PlannerConfig.Text.Case
import PlannerConfig.Text.Letter
import PlannerConfig.Text.Search

/-!
Locales: a language, perhaps a country and perhaps a variant, written `en_US`.
-/
namespace PlannerConfig

open PlannerConfig.Text

/-- The language has two or three letters. Languages are in lower case, countries in upper case. -/
structure Locale where
  language : String
  country : String := ""
  variant : String := ""
  deriving DecidableEq, Repr

namespace Locale

/-- Why a text is no locale. -/
inductive Error
  | notALanguage (code : String)
  | tooManyParts (text : String)
  deriving DecidableEq, Repr

def Error.message : Error → String
  | notALanguage code => "'" ++ code ++ "' is not a language code"
  | tooManyParts text => "'" ++ text ++ "' is not a locale"

/-- Two or three letters of any script. -/
def isLanguageCode (cs : List Char) : Bool := 2 ≤ cs.length && cs.length ≤ 3 && cs.all isLetter

/-- A locale from its parts in any case. -/
def ofParts (language : String) (country variant : String := "") : Except Error Locale :=
  let code := lower language
  if isLanguageCode code.toList then return ⟨code, upper country, variant⟩
  else throw (.notALanguage code)

/-- A locale with its parts separated by underscores or hyphens. -/
def parse (s : String) : Except Error Locale :=
  let cs := replaceChar '-' '_' (trimChars s.toList)
  match (splitWhere (· == '_') cs).map String.ofList with
  | [] => ofParts ""
  | [language] => ofParts language
  | [language, country] => ofParts language country
  | [language, country, variant] => ofParts language country variant
  | _ => throw (.tooManyParts s)

/-- The parts that are not empty, with underscores between them. -/
def text (l : Locale) : String := join "_" ([l.language, l.country, l.variant].filter (· ≠ ""))

end Locale

end PlannerConfig
