import PlannerConfig.Files.Path
import PlannerConfig.Text.Digit

/-!
Arguments of the command. An option may be cut short as long as it is the only one that starts so,
and its value may follow it after an equals sign or as the next argument.
-/
namespace PlannerConfig

open PlannerConfig.Text

/-- A directory of the command: that of the project, or one that an option gives. The mark that ends
all options gives none, even as the value of one. -/
inductive Directory
  | ofProject
  | given (path : FilePath)
  | ofMark
  deriving DecidableEq, Repr

/-- The directory that the value of an option gives. -/
def Directory.ofValue (value : String) : Directory :=
  if value = "--" then ofMark else given (.parse value)

/-- What the command is asked to do. -/
structure Arguments where
  update : Bool := false
  templates : Directory := .ofProject
  docs : Directory := .ofProject
  deriving DecidableEq, Repr

/-- Why there is nothing to do: help was asked for, or the arguments are wrong. -/
inductive Stop
  | help
  | usage
  deriving DecidableEq, Repr

inductive OptionName
  | help
  | update
  | templates
  | docs
  deriving DecidableEq, Repr

namespace OptionName

def text : OptionName → String
  | help => "--help"
  | update => "--update"
  | templates => "--templates"
  | docs => "--docs"

def all : List OptionName := [help, update, templates, docs]

end OptionName

/-- What an argument is. The value of the short option follows it with or without an equals sign. -/
inductive Argument
  | plain (text : String)
  | long (name : OptionName) (value : Option String)
  | short (value : Option (List Char))
  | unknown
  deriving DecidableEq, Repr

namespace Argument

/-- A number with a minus sign: digits, perhaps with a point before the last of them. A line end
after it does not matter. -/
def isNegativeNumber : List Char → Bool
  | '-' :: cs =>
    let cs := if cs.getLast? = some '\n' then cs.dropLast else cs
    match spanDigits cs with
    | (ds, []) => ds ≠ []
    | (_, '.' :: rest) =>
      match spanDigits rest with
      | (ds, []) => ds ≠ []
      | _ => false
    | _ => false
  | _ => false

/-- The text before the first equals sign and the text after it. -/
def splitValue (cs : List Char) : List Char × Option String :=
  match cs.dropWhile (· ≠ '=') with
  | [] => (cs, none)
  | _ :: value => (cs.takeWhile (· ≠ '='), some (String.ofList value))

/-- What follows the letter of the short option, if anything does. -/
def shortValue? : List Char → Option (List Char)
  | [] => none
  | '=' :: value => some value
  | value => some value

/-- An argument that starts with a hyphen and is no option. -/
def other (s : String) (cs : List Char) : Argument :=
  if isNegativeNumber cs || cs.contains ' ' then plain s else unknown

/-- What a text is among the arguments; `none` if it may be several options. -/
def classify? (s : String) : Option Argument :=
  match s.toList with
  | '-' :: '-' :: rest =>
    let (name, value) := splitValue ('-' :: '-' :: rest)
    match OptionName.all.filter fun o => o.text.toList == name with
    | o :: _ => some (long o value)
    | [] =>
      match OptionName.all.filter fun o => name.isPrefixOf o.text.toList with
      | [] => some (other s ('-' :: '-' :: rest))
      | [o] => some (long o value)
      | _ => none
  | '-' :: 'h' :: rest => some (short (shortValue? rest))
  | '-' :: c :: rest => some (other s ('-' :: c :: rest))
  | _ => some (plain s)

/-- The arguments up to the one that ends all options, and whether there is one. -/
def classifyAll? : List String → Option (List Argument × Bool)
  | [] => some ([], false)
  | s :: rest =>
    if s = "--" then some ([], true)
    else do
      let a ← classify? s
      let (as, ended) ← classifyAll? rest
      return (a :: as, ended)

end Argument

namespace Arguments

def set (a : Arguments) (o : OptionName) (value : String) : Arguments :=
  match o with
  | .templates => { a with templates := .ofValue value }
  | .docs => { a with docs := .ofValue value }
  | _ => a

/-- What the short option asks for. It takes no value, but its letter may be repeated. -/
def stopOfShort : Option (List Char) → Stop
  | none => .help
  | some [] => .usage
  | some letters => if letters.all (· == 'h') then .help else .usage

/-- Goes through the arguments; `extra` tells whether one was left over. Help counts as soon as it
is reached. -/
def collect (extra : Bool) (a : Arguments) : List Argument → Except Stop (Arguments × Bool)
  | [] => return (a, extra)
  | .plain _ :: rest => collect true a rest
  | .unknown :: rest => collect true a rest
  | .short value :: _ => throw (stopOfShort value)
  | .long .help none :: _ => throw .help
  | .long .update none :: rest => collect extra { a with update := true } rest
  | .long .help (some _) :: _ => throw .usage
  | .long .update (some _) :: _ => throw .usage
  | .long o (some value) :: rest => collect extra (a.set o value) rest
  | .long o none :: .plain value :: rest => collect extra (a.set o value) rest
  | .long _ none :: _ => throw .usage

/-- Reads the arguments of the command. -/
def parse (texts : List String) : Except Stop Arguments := do
  match Argument.classifyAll? texts with
  | none => throw .usage
  | some (as, ended) =>
    let (a, extra) ← collect ended {} as
    if extra then throw .usage
    return a

end Arguments

end PlannerConfig
