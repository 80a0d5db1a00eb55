import PlannerConfig.Document.Basic
import PlannerConfig.Document.ReadError
import PlannerConfig.Number.Numeral
import PlannerConfig.Text.Surrogate

/-!
Reading JSON. Besides the standard grammar the reader takes `NaN`, `Infinity` and `-Infinity`.
A numeral without fraction and exponent is an integer, and when a key is repeated its last value
stands at its first place.
-/
namespace PlannerConfig.Json

open PlannerConfig.Text PlannerConfig.Number PlannerConfig.ReadError

def isSpace (c : Char) : Bool := c == ' ' || c == '\t' || c == '\n' || c == '\r'

def skipSpace (cs : List Char) : List Char := cs.dropWhile isSpace

/-- The value of a hexadecimal digit. -/
def hexValue? (c : Char) : Option Nat :=
  let n := c.toNat
  if 48 ≤ n && n ≤ 57 then some (n - 48)
  else if 65 ≤ n && n ≤ 70 then some (n - 55)
  else if 97 ≤ n && n ≤ 102 then some (n - 87)
  else none

/-- The number written by exactly `count` hexadecimal digits, and the rest. -/
def hexNumber? : Nat → Nat → List Char → Option (Nat × List Char)
  | 0, n, cs => some (n, cs)
  | count + 1, n, c :: cs => do hexNumber? count (16 * n + (← hexValue? c)) cs
  | _ + 1, _, [] => none

/-- The characters of a `\u` escape whose marks have been read. Two escapes that form a surrogate
pair are one code point. -/
def unicodeEscape? (cs : List Char) : Option (List Char × List Char) := do
  let (n, rest) ← hexNumber? 4 0 cs
  if isHighSurrogate n then
    match rest with
    | '\\' :: 'u' :: more =>
      match hexNumber? 4 0 more with
      | some (low, after) =>
        if isLowSurrogate low then return (charsOf (joinSurrogates n low), after)
        else return (charsOf n, rest)
      | none => return (charsOf n, rest)
    | _ => return (charsOf n, rest)
  else return (charsOf n, rest)

/-- The character that a letter after a backslash stands for. -/
def simpleEscape? (c : Char) : Option Char :=
  if c == '\"' || c == '\\' || c == '/' then some c
  else if c == 'b' then some (Char.ofNat 8)
  else if c == 'f' then some (Char.ofNat 12)
  else if c == 'n' then some '\n'
  else if c == 'r' then some '\r'
  else if c == 't' then some '\t'
  else none

/-- The rest of a string after its opening quote. `done` holds the characters read so far, last
one first; `fuel` bounds the number of characters. -/
def stringBody? : Nat → List Char → List Char → Option (String × List Char)
  | 0, _, _ => none
  | _ + 1, _, [] => none
  | fuel + 1, done, c :: cs =>
    if c == '\"' then some (String.ofList done.reverse, cs)
    else if c == '\\' then
      match cs with
      | 'u' :: rest =>
        match unicodeEscape? rest with
        | some (xs, rest) => stringBody? fuel (xs.reverse ++ done) rest
        | none => none
      | e :: rest =>
        match simpleEscape? e with
        | some x => stringBody? fuel (x :: done) rest
        | none => none
      | [] => none
    else if c.toNat < 0x20 then none
    else stringBody? fuel (c :: done) cs

def string? (cs : List Char) : Option (String × List Char) := stringBody? (cs.length + 1) [] cs

/-- The integer digits of a numeral: a zero alone, or digits that do not start with a zero. -/
def integerDigits? : List Char → Option (List Char × List Char)
  | [] => none
  | '0' :: cs => some (['0'], cs)
  | c :: cs =>
    if isAsciiDigit c then some (c :: cs.takeWhile isAsciiDigit, cs.dropWhile isAsciiDigit)
    else none

/-- A point with digits after it, if there is one. -/
def fractionDigits : List Char → List Char × List Char
  | '.' :: c :: cs =>
    if isAsciiDigit c then (c :: cs.takeWhile isAsciiDigit, cs.dropWhile isAsciiDigit)
    else ([], '.' :: c :: cs)
  | cs => ([], cs)

/-- The number of a list of ASCII digits. -/
def natOfChars (ds : List Char) : Nat := natOfDigits (ds.map fun d => d.toNat - 48)

/-- An exponent with its mark, if there is one. -/
def exponent? : List Char → Option (Int × List Char)
  | [] => none
  | c :: cs =>
    if c == 'e' || c == 'E' then
      let (negative, rest) := optionalSign cs
      match rest.takeWhile isAsciiDigit with
      | [] => none
      | ds =>
        let n := natOfChars ds
        some (if negative then -(n : Int) else n, rest.dropWhile isAsciiDigit)
    else none

/-- A numeral after its sign. An integer with too many digits is refused. -/
def number? (negative : Bool) (cs : List Char) : Option (Document × List Char) := do
  let (whole, rest) ← integerDigits? cs
  let (fraction, rest) := fractionDigits rest
  match exponent? rest with
  | none =>
    if fraction.isEmpty then
      if maxIntegerDigits < whole.length then none
      else
        let n : Int := natOfChars whole
        return (.int (if negative then -n else n), rest)
    else
      return (.float (floatOfScientific negative (natOfChars (whole ++ fraction))
        (-(fraction.length : Int))), rest)
  | some (e, rest) =>
    return (.float (floatOfScientific negative (natOfChars (whole ++ fraction))
      (e - fraction.length)), rest)

/-- The rest of a text after a word that it starts with. -/
def after? (word : String) (cs : List Char) : Option (List Char) :=
  if word.toList.isPrefixOf cs then some (cs.drop word.length) else none

/-- A scalar other than a string. -/
def word? (cs : List Char) : Option (Document × List Char) :=
  match after? "null" cs, after? "true" cs, after? "false" cs with
  | some rest, _, _ => some (.null, rest)
  | _, some rest, _ => some (.bool true, rest)
  | _, _, some rest => some (.bool false, rest)
  | none, none, none =>
    match after? "NaN" cs, after? "Infinity" cs, after? "-Infinity" cs with
    | some rest, _, _ => some (.float notANumber, rest)
    | _, some rest, _ => some (.float (infinity false), rest)
    | _, _, some rest => some (.float (infinity true), rest)
    | none, none, none =>
      match cs with
      | '-' :: rest => number? true rest
      | cs => number? false cs

mutual

/-- A value at the start of a text, and the rest. `fuel` bounds the number of values and of
separators between them, `depth` that of arrays and objects around a value. -/
def value : Nat → Nat → List Char → Except ReadError (Document × List Char)
  | 0, _, _ => throw .malformed
  | fuel + 1, depth, cs =>
    match cs, depth with
    | '\"' :: rest, _ => do
      let (s, rest) ← expect (string? rest)
      return (.text s, rest)
    | '[' :: _, 0 => throw (.tooDeep " while decoding a JSON array from a unicode string")
    | '[' :: rest, depth + 1 =>
      match skipSpace rest with
      | ']' :: rest => return (.array [], rest)
      | rest => do
        let (items, rest) ← items fuel depth rest
        return (.array items, rest)
    | '\x7b' :: _, 0 => throw (.tooDeep " while decoding a JSON object from a unicode string")
    | '\x7b' :: rest, depth + 1 =>
      match skipSpace rest with
      | '\x7d' :: rest => return (.object [], rest)
      | rest => do
        let (fields, rest) ← fields fuel depth [] rest
        return (.object fields, rest)
    | cs, _ => expect (word? cs)

/-- The elements of an array up to its closing bracket. -/
def items : Nat → Nat → List Char → Except ReadError (List Document × List Char)
  | 0, _, _ => throw .malformed
  | fuel + 1, depth, cs => do
    let (item, rest) ← value fuel depth cs
    match skipSpace rest with
    | ']' :: rest => return ([item], rest)
    | ',' :: rest => do
      let (items, rest) ← items fuel depth (skipSpace rest)
      return (item :: items, rest)
    | _ => throw .malformed

/-- The fields of an object up to its closing brace, added to the fields before them. -/
def fields : Nat → Nat → List (String × Document) → List Char →
    Except ReadError (List (String × Document) × List Char)
  | 0, _, _, _ => throw .malformed
  | fuel + 1, depth, done, cs =>
    match cs with
    | '\"' :: rest => do
      let (key, rest) ← expect (string? rest)
      match skipSpace rest with
      | ':' :: rest => do
        let (value, rest) ← value fuel depth (skipSpace rest)
        let done := setField key value done
        match skipSpace rest with
        | '\x7d' :: rest => return (done, rest)
        | ',' :: rest => fields fuel depth done (skipSpace rest)
        | _ => throw .malformed
      | _ => throw .malformed
    | _ => throw .malformed

end

/-- The document that is all of a text, blanks around it apart. -/
def read (cs : List Char) : Except ReadError Document := do
  let (d, rest) ← value (2 * cs.length + 1) maxDepth (skipSpace cs)
  if (skipSpace rest).isEmpty then return d else throw .malformed

end PlannerConfig.Json
