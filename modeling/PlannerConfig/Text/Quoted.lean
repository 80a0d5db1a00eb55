import PlannerConfig.Text.Printable
import PlannerConfig.Text.Surrogate

/-!
Quoted text, as messages show it: between single quotes, or between double quotes if the text has
a single quote and no double quote. A backslash, the quote in use, tabs, line ends and characters
that are not printable are escaped.
-/
namespace PlannerConfig.Text

def singleQuote : Char := Char.ofNat 39

def doubleQuote : Char := Char.ofNat 34

def backslash : Char := Char.ofNat 92

/-- The digit `d < 16` of a hexadecimal numeral, in lower case. -/
def hexDigit (d : Nat) : Char := if d < 10 then Char.ofNat (48 + d) else Char.ofNat (87 + d)

/-- The last `width` hexadecimal digits of `n`. -/
def hexDigits : Nat → Nat → List Char
  | 0, _ => []
  | width + 1, n => hexDigits width (n / 16) ++ [hexDigit (n % 16)]

/-- `\xNN`, `\uNNNN` or `\UNNNNNNNN`, the shortest that fits. -/
def escapeCode (n : Nat) : List Char :=
  if n < 0x100 then backslash :: 'x' :: hexDigits 2 n
  else if n < 0x10000 then backslash :: 'u' :: hexDigits 4 n
  else backslash :: 'U' :: hexDigits 8 n

def quoteChar (quote c : Char) : List Char :=
  if c == quote || c == backslash then [backslash, c]
  else if c == '\t' then [backslash, 't']
  else if c == '\n' then [backslash, 'n']
  else if c == '\r' then [backslash, 'r']
  else if isPrintable c then [c]
  else escapeCode c.toNat

def quotePoint (quote : Char) : Point → List Char
  | .char c => quoteChar quote c
  | .surrogate n => escapeCode n

/-- The quote that a text is put between. -/
def quoteFor (cs : List Char) : Char :=
  if cs.contains singleQuote && !cs.contains doubleQuote then doubleQuote else singleQuote

def quoted (s : String) : String :=
  let quote := quoteFor s.toList
  String.ofList (quote :: ((points s.toList).flatMap (quotePoint quote) ++ [quote]))

end PlannerConfig.Text
