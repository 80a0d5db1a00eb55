import PlannerConfig.Document.Basic
import PlannerConfig.Number.Shortest
import PlannerConfig.Number.Numeral
import PlannerConfig.Text.Quoted

/-!
Texts of a document: its JSON text, its literal text, and the raw text that messages show for a
value that could not be read.
-/
namespace PlannerConfig

open PlannerConfig.Text PlannerConfig.Number

/-- The decimal text of an integer; `none` beyond the digits that integers may be written with. -/
def integerText? (n : Int) : Option String :=
  let s := toString n
  if n.natAbs < tenTo maxIntegerDigits then some s else none

/-- Items between two brackets, with a comma and a space between them. -/
def bracketed (opening closing : String) (items : List String) : String :=
  opening ++ join ", " items ++ closing

/-- The escape of one UTF-16 unit. -/
def unitEscape (n : Nat) : List Char := backslash :: 'u' :: hexDigits 4 n

/-- A character inside a JSON string of plain ASCII: beyond the printable characters of ASCII it is
escaped, by two units if one does not hold it. -/
def jsonChar (c : Char) : List Char :=
  let n := c.toNat
  if c == doubleQuote || c == backslash then [backslash, c]
  else if c == '\n' then [backslash, 'n']
  else if c == '\r' then [backslash, 'r']
  else if c == '\t' then [backslash, 't']
  else if n = 8 then [backslash, 'b']
  else if n = 12 then [backslash, 'f']
  else if 0x20 ≤ n && n ≤ 0x7E then [c]
  else if n < 0x10000 then unitEscape n
  else unitEscape (0xD800 + (n - 0x10000) / 0x400) ++ unitEscape (0xDC00 + (n - 0x10000) % 0x400)

/-- Characters as `write` writes them, and surrogates escaped. -/
def escapeSurrogates (write : Char → List Char) (s : String) : List Char :=
  (points s.toList).flatMap fun
    | .char c => write c
    | .surrogate n => unitEscape n

def jsonString (s : String) : String :=
  String.ofList (doubleQuote :: (escapeSurrogates jsonChar s ++ [doubleQuote]))

def jsonFloat (x : Float) : String :=
  match Datum.ofFloat x with
  | .notANumber => "NaN"
  | .infinite negative => if negative then "-Infinity" else "Infinity"
  | .finite .. => floatText x

namespace Document

mutual

/-- The JSON text; `none` for calendar values and for integers too long to write. -/
def json? : Document → Option String
  | null => some "null"
  | bool b => some (if b then "true" else "false")
  | int n => integerText? n
  | float x => some (jsonFloat x)
  | text s => some (jsonString s)
  | date _ => none
  | time _ => none
  | moment _ => none
  | array items => (jsonItems? items).map (bracketed "[" "]")
  | object fields => (jsonFields? fields).map (bracketed "\x7b" "\x7d")

def jsonItems? : List Document → Option (List String)
  | [] => some []
  | item :: items => do return (← json? item) :: (← jsonItems? items)

def jsonFields? : List (String × Document) → Option (List String)
  | [] => some []
  | (key, value) :: fields => do
    return (jsonString key ++ ": " ++ (← json? value)) :: (← jsonFields? fields)

end

/-- A call of a constructor of calendar values. -/
def calendarLiteral (name : String) (arguments : List String) : String :=
  "datetime." ++ name ++ bracketed "(" ")" arguments

/-- The literal of an offset: a span of whole days and the seconds beyond them. -/
def offsetLiteral (minutes : Int) : String :=
  if minutes = 0 then "datetime.timezone.utc"
  else
    let span :=
      if minutes < 0 then ["days=-1", "seconds=" ++ toString (86400 + 60 * minutes)]
      else ["seconds=" ++ toString (60 * minutes)]
    calendarLiteral "timezone" [calendarLiteral "timedelta" span]

def momentLiteral (m : Moment) : String :=
  let numbers := [m.date.year, m.date.month, m.date.day] ++ m.time.parts
  calendarLiteral "datetime" <|
    numbers.map toString ++ (m.offset.map fun o => "tzinfo=" ++ offsetLiteral o).toList

mutual

/-- The literal text; `none` if an integer is too long to write. -/
def literal? : Document → Option String
  | null => some "None"
  | bool b => some (if b then "True" else "False")
  | int n => integerText? n
  | float x => some (floatText x)
  | text s => some (quoted s)
  | date d => some (calendarLiteral "date" ([d.year, d.month, d.day].map toString))
  | time t => some (calendarLiteral "time" (t.parts.map toString))
  | moment m => some (momentLiteral m)
  | array items => (literalItems? items).map (bracketed "[" "]")
  | object fields => (literalFields? fields).map (bracketed "\x7b" "\x7d")

def literalItems? : List Document → Option (List String)
  | [] => some []
  | item :: items => do return (← literal? item) :: (← literalItems? items)

def literalFields? : List (String × Document) → Option (List String)
  | [] => some []
  | (key, value) :: fields => do
    return (quoted key ++ ": " ++ (← literal? value)) :: (← literalFields? fields)

end

/-- Text as it stands, a calendar value in its own notation, and the literal of all else. -/
def plainText? : Document → Option String
  | text s => some s
  | date d => some d.text
  | time t => some t.text
  | moment m => some (m.text " ")
  | d => d.literal?

/-- What a message shows of a value: text as it stands, else JSON if there is one, else the plain
text. An absent value shows as `MISSING`. -/
def rawText? : Option Document → Option String
  | none => some "MISSING"
  | some (text s) => some s
  | some d => (json? d).orElse fun _ => plainText? d

/-- The word that messages use for the kind of a raw value. -/
def kindName : Option Document → String
  | none => "_Missing"
  | some null => "NoneType"
  | some (bool _) => "bool"
  | some (int _) => "int"
  | some (float _) => "float"
  | some (text _) => "str"
  | some (date _) => "date"
  | some (time _) => "time"
  | some (moment _) => "datetime"
  | some (array _) => "list"
  | some (object _) => "dict"

end Document

end PlannerConfig
