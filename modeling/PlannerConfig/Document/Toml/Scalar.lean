import PlannerConfig.Document.Json

/-!
The scalars of TOML: strings in their four notations, numbers, dates and times.
-/
namespace PlannerConfig.Toml

open PlannerConfig.Text PlannerConfig.Number PlannerConfig.Json

def isSpace (c : Char) : Bool := c == ' ' || c == '\t'

def skipSpace (cs : List Char) : List Char := cs.dropWhile isSpace

def skipBlankLines (cs : List Char) : List Char := cs.dropWhile fun c => isSpace c || c == '\n'

/-- Control characters other than the tab. -/
def isControl (c : Char) : Bool := (c.toNat < 32 && c != '\t') || c.toNat == 127

/-- Control characters that may not stand in a string of several lines. -/
def isLineControl (c : Char) : Bool := isControl c && c != '\n'

/-- The character of an escape with exactly `count` hexadecimal digits. -/
def hexEscape? (count : Nat) (cs : List Char) : Option (Char × List Char) := do
  let (n, rest) ← hexNumber? count 0 cs
  if n.isValidChar then return (Char.ofNat n, rest) else none

/-- The character that a letter after a backslash stands for. -/
def simpleEscape? (c : Char) : Option Char :=
  if c == 'b' then some (Char.ofNat 8)
  else if c == 't' then some '\t'
  else if c == 'n' then some '\n'
  else if c == 'f' then some (Char.ofNat 12)
  else if c == 'r' then some '\r'
  else if c == '\"' || c == '\\' then some c
  else none

/-- What an escape stands for, after its backslash. In a string of several lines a backslash at the
end of a line takes the blanks up to the next text with it. -/
def escape? (manyLines : Bool) : List Char → Option (List Char × List Char)
  | [] => none
  | c :: cs =>
    if manyLines && c == '\n' then some ([], skipBlankLines cs)
    else if manyLines && isSpace c then
      match skipSpace cs with
      | [] => some ([], [])
      | '\n' :: rest => some ([], skipBlankLines rest)
      | _ => none
    else if c == 'u' then (hexEscape? 4 cs).map fun (x, rest) => ([x], rest)
    else if c == 'U' then (hexEscape? 8 cs).map fun (x, rest) => ([x], rest)
    else (simpleEscape? c).map fun x => ([x], cs)

/-- The rest of a basic string after its opening quotes. `done` holds the characters read so far,
last one first; `fuel` bounds their number. -/
def basicBody? (manyLines : Bool) : Nat → List Char → List Char → Option (List Char × List Char)
  | 0, _, _ => none
  | _ + 1, _, [] => none
  | fuel + 1, done, c :: cs =>
    if c == '\"' then
      if manyLines then
        match cs with
        | '\"' :: '\"' :: rest => some (done.reverse, rest)
        | _ => basicBody? manyLines fuel (c :: done) cs
      else some (done.reverse, cs)
    else if c == '\\' then
      match escape? manyLines cs with
      | some (xs, rest) => basicBody? manyLines fuel (xs.reverse ++ done) rest
      | none => none
    else if if manyLines then isLineControl c else isControl c then none
    else basicBody? manyLines fuel (c :: done) cs

/-- The rest of a literal string up to its closing quote. -/
def literalBody? : List Char → Option (List Char × List Char)
  | [] => none
  | c :: cs =>
    if c == '\'' then some ([], cs)
    else if isControl c then none
    else (literalBody? cs).map fun (xs, rest) => (c :: xs, rest)

/-- The rest of a literal string of several lines up to its three closing quotes. -/
def longLiteralBody? : List Char → Option (List Char × List Char)
  | [] => none
  | c :: cs =>
    if ['\'', '\'', '\''].isPrefixOf (c :: cs) then some ([], cs.drop 2)
    else if isLineControl c then none
    else (longLiteralBody? cs).map fun (xs, rest) => (c :: xs, rest)

def skipNewline : List Char → List Char
  | '\n' :: cs => cs
  | cs => cs

/-- At most two quotes before the closing ones belong to a string of several lines. -/
def extraQuotes (quote : Char) : List Char → List Char × List Char
  | a :: b :: rest =>
    if a == quote then if b == quote then ([a, b], rest) else ([a], b :: rest)
    else ([], a :: b :: rest)
  | [a] => if a == quote then ([a], []) else ([], [a])
  | [] => ([], [])

/-- A string in any notation. -/
def string? (cs : List Char) : Option (String × List Char) :=
  let long (quote : Char) (body : Option (List Char × List Char)) :=
    body.map fun (xs, rest) =>
      let (more, rest) := extraQuotes quote rest
      (String.ofList (xs ++ more), rest)
  let short (body : Option (List Char × List Char)) :=
    body.map fun (xs, rest) => (String.ofList xs, rest)
  match cs with
  | '\"' :: '\"' :: '\"' :: rest =>
    long '\"' (basicBody? true (cs.length + 1) [] (skipNewline rest))
  | '\"' :: rest => short (basicBody? false (cs.length + 1) [] rest)
  | '\'' :: '\'' :: '\'' :: rest => long '\'' (longLiteralBody? (skipNewline rest))
  | '\'' :: rest => short (literalBody? rest)
  | _ => none

/-- A string on one line, as keys may be written. -/
def shortString? : List Char → Option (String × List Char)
  | '\"' :: rest =>
    (basicBody? false (rest.length + 1) [] rest).map fun (xs, rest) => (String.ofList xs, rest)
  | '\'' :: rest => (literalBody? rest).map fun (xs, rest) => (String.ofList xs, rest)
  | _ => none

/-- More digits after a first one, without the single underscores between them. -/
def moreDigits (ok : Char → Bool) : List Char → List Char × List Char
  | '_' :: c :: cs =>
    if ok c then
      let (ds, rest) := moreDigits ok cs
      (c :: ds, rest)
    else ([], '_' :: c :: cs)
  | c :: cs =>
    if ok c then
      let (ds, rest) := moreDigits ok cs
      (c :: ds, rest)
    else ([], c :: cs)
  | [] => ([], [])

/-- At least one digit, with single underscores between digits. -/
def digitRun? (ok : Char → Bool) : List Char → Option (List Char × List Char)
  | [] => none
  | c :: cs =>
    if ok c then
      let (ds, rest) := moreDigits ok cs
      some (c :: ds, rest)
    else none

/-- The number of digits in some base up to sixteen. -/
def natOfBase (base : Nat) (ds : List Char) : Nat :=
  ds.foldl (fun n d => base * n + (hexValue? d).getD 0) 0

/-- An integer in base sixteen, eight or two, after its zero. -/
def basedInteger? : List Char → Option (Document × List Char)
  | 'x' :: cs => do
    let (ds, rest) ← digitRun? (fun c => (hexValue? c).isSome) cs
    return (.int (natOfBase 16 ds), rest)
  | 'o' :: cs => do
    let (ds, rest) ← digitRun? (fun c => '0' ≤ c && c ≤ '7') cs
    return (.int (natOfBase 8 ds), rest)
  | 'b' :: cs => do
    let (ds, rest) ← digitRun? (fun c => c == '0' || c == '1') cs
    return (.int (natOfBase 2 ds), rest)
  | _ => none

/-- The integer digits of a decimal number: a zero alone or digits that do not start with one. -/
def wholeDigits? : List Char → Option (List Char × List Char)
  | '0' :: cs => some (['0'], cs)
  | cs => digitRun? isAsciiDigit cs

/-- A decimal number after its sign. -/
def decimal? (negative : Bool) (cs : List Char) : Option (Document × List Char) := do
  let (whole, rest) ← wholeDigits? cs
  let (fraction, rest) :=
    match rest with
    | '.' :: more => (digitRun? isAsciiDigit more).getD ([], rest)
    | _ => ([], rest)
  let power : Option (Bool × List Char × List Char) :=
    match rest with
    | c :: more =>
      if c == 'e' || c == 'E' then
        let (minus, more) := optionalSign more
        (digitRun? isAsciiDigit more).map fun (ds, after) => (minus, ds, after)
      else none
    | [] => none
  match power with
  | some (minus, ds, rest) =>
    let e : Int := natOfChars ds
    return (.float (floatOfScientific negative (natOfChars (whole ++ fraction))
      ((if minus then -e else e) - fraction.length)), rest)
  | none =>
    if fraction.isEmpty then
      if maxIntegerDigits < whole.length then none
      else
        let n : Int := natOfChars whole
        return (.int (if negative then -n else n), rest)
    else
      return (.float (floatOfScientific negative (natOfChars (whole ++ fraction))
        (-(fraction.length : Int))), rest)

/-- An integer or a float in digits. -/
def number? (cs : List Char) : Option (Document × List Char) :=
  let based :=
    match cs with
    | '0' :: rest => basedInteger? rest
    | _ => none
  based.orElse fun _ =>
    let (negative, rest) := optionalSign cs
    decimal? negative rest

/-- The floats that have names. -/
def named? (cs : List Char) : Option (Document × List Char) :=
  let (negative, rest) := optionalSign cs
  match after? "inf" rest, after? "nan" rest with
  | some rest, _ => some (.float (infinity negative), rest)
  | none, some rest => some (.float notANumber, rest)
  | none, none => none

/-- The number of exactly `count` ASCII digits. -/
def fixedDigits? (count : Nat) (cs : List Char) : Option (Nat × List Char) :=
  let ds := cs.take count
  if ds.length = count && ds.all isAsciiDigit then some (natOfChars ds, cs.drop count) else none

/-- A given character at the start of a text. -/
def mark? (c : Char) : List Char → Option (List Char)
  | d :: cs => if d == c then some cs else none
  | [] => none

/-- The microseconds of a fraction of a second, from its first six digits. -/
def microseconds (ds : List Char) : Nat :=
  natOfChars (ds.take 6 ++ List.replicate (6 - ds.length) '0')

/-- A time of day with seconds and perhaps a fraction. -/
def timeOfDay? (cs : List Char) : Option (TimeOfDay × List Char) := do
  let (hour, cs) ← fixedDigits? 2 cs
  let cs ← mark? ':' cs
  let (minute, cs) ← fixedDigits? 2 cs
  let cs ← mark? ':' cs
  let (second, cs) ← fixedDigits? 2 cs
  let (fraction, rest) := fractionDigits cs
  let t ← TimeOfDay.ofParts? hour minute second (microseconds fraction)
  return (t, rest)

/-- An offset from universal time in minutes. -/
def offset? : List Char → Option (Int × List Char)
  | [] => none
  | c :: cs =>
    if c == 'Z' || c == 'z' then some (0, cs)
    else if c == '+' || c == '-' then do
      let (hours, cs) ← fixedDigits? 2 cs
      let cs ← mark? ':' cs
      let (minutes, cs) ← fixedDigits? 2 cs
      if hours < 24 && minutes < 60 then
        let n : Int := 60 * hours + minutes
        return (if c == '-' then -n else n, cs)
      else none
    else none

/-- The day numbers of a date: a month up to twelve and a day up to thirty-one. -/
def dateParts? (cs : List Char) : Option (Date × List Char) := do
  let (year, cs) ← fixedDigits? 4 cs
  let cs ← mark? '-' cs
  let (month, cs) ← fixedDigits? 2 cs
  let cs ← mark? '-' cs
  let (day, cs) ← fixedDigits? 2 cs
  if 1 ≤ month && month ≤ 12 && 1 ≤ day && day ≤ 31 then return (⟨year, month, day⟩, cs) else none

/-- The time and offset after a date. -/
def timeAfterDate? : List Char → Option ((TimeOfDay × Option Int) × List Char)
  | [] => none
  | c :: cs =>
    if c == 'T' || c == 't' || c == ' ' then do
      let (t, rest) ← timeOfDay? cs
      match offset? rest with
      | some (o, rest) => return ((t, some o), rest)
      | none => return ((t, none), rest)
    else none

/-- What reading a calendar value at the start of a text comes to. -/
inductive Calendar
  | absent
  | invalid
  | found (d : Document) (rest : List Char)

/-- A date, a moment or a time of day. A date that no calendar has is an error. -/
def calendar (cs : List Char) : Calendar :=
  match dateParts? cs with
  | some (d, rest) =>
    if !d.isValid then .invalid
    else
      match timeAfterDate? rest with
      | some ((t, o), rest) => .found (.moment ⟨d, t, o⟩) rest
      | none => .found (.date d) rest
  | none =>
    match timeOfDay? cs with
    | some (t, rest) => .found (.time t) rest
    | none => .absent

end PlannerConfig.Toml
