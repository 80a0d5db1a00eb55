import PlannerConfig.Document.Toml.Scalar

/-!
TOML documents: values, keys, tables and arrays of tables. A table may be declared once, what an
inline table or an array holds is closed, and a key is never given two values.
-/
namespace PlannerConfig.Toml

open PlannerConfig.Text PlannerConfig.Json PlannerConfig.ReadError

abbrev Fields := List (String × Document)

/-- The names that lead to a table or a value. -/
abbrev Key := List String

/-- Changes the table under a key, which is made if it is not there. In an array of tables the last
one is meant if `throughArrays` holds. -/
def changeTable (throughArrays : Bool) (change : Fields → Option Fields) :
    Key → Fields → Option Fields
  | [], table => change table
  | name :: key, table =>
    match table.lookup name with
    | none => (changeTable throughArrays change key []).map fun t => setField name (.object t) table
    | some (.object inner) =>
      (changeTable throughArrays change key inner).map fun t => setField name (.object t) table
    | some (.array items) =>
      match throughArrays, items.getLast? with
      | true, some (.object inner) =>
        (changeTable throughArrays change key inner).map fun t =>
          setField name (.array (items.dropLast ++ [.object t])) table
      | _, _ => none
    | some _ => none

/-- Adds a value under a name that is not taken. -/
def addValue (name : String) (value : Document) (table : Fields) : Option Fields :=
  if (table.lookup name).isSome then none else some (setField name value table)

/-- Adds an empty table to the array of tables under a name. -/
def addTable (name : String) (table : Fields) : Option Fields :=
  match table.lookup name with
  | none => some (setField name (.array [.object []]) table)
  | some (.array items) => some (setField name (.array (items ++ [.object []])) table)
  | some _ => none

/-- A comment up to the end of its line, if there is one. -/
def skipComment? : List Char → Option (List Char)
  | '#' :: cs =>
    if (cs.takeWhile (· != '\n')).any isControl then none else some (cs.dropWhile (· != '\n'))
  | cs => some cs

/-- Blanks, line ends and comments, as they may stand in an array. -/
def skipFiller? : Nat → List Char → Option (List Char)
  | 0, _ => none
  | fuel + 1, cs =>
    match skipBlankLines cs with
    | '#' :: rest =>
      match skipComment? ('#' :: rest) with
      | some rest => skipFiller? fuel rest
      | none => none
    | rest => some rest

def isBareKey (c : Char) : Bool := c.isAlphanum || c == '-' || c == '_'

/-- One name of a key. -/
def keyPart? (cs : List Char) : Option (String × List Char) :=
  match cs.takeWhile isBareKey with
  | [] => shortString? cs
  | name => some (String.ofList name, cs.dropWhile isBareKey)

/-- The names of a key after its first, each after a point, and the blanks after the key. -/
def keyRest? : Nat → List Char → Option (Key × List Char)
  | 0, _ => none
  | fuel + 1, cs =>
    match skipSpace cs with
    | '.' :: rest => do
      let (name, rest) ← keyPart? (skipSpace rest)
      let (names, rest) ← keyRest? fuel rest
      return (name :: names, rest)
    | rest => some ([], rest)

def key? (cs : List Char) : Option (Key × List Char) := do
  let (name, rest) ← keyPart? cs
  let (names, rest) ← keyRest? (rest.length + 1) rest
  return (name :: names, rest)

/-- Whether a value is closed to additions by keys and tables that come later. -/
def isClosed : Document → Bool
  | .array _ => true
  | .object _ => true
  | _ => false

mutual

/-- A value at the start of a text, and the rest. `fuel` bounds the number of values and of
separators between them. An array takes two steps of `depth`, an inline table three. -/
def value : Nat → Nat → List Char → Except ReadError (Document × List Char)
  | 0, _, _ => throw .malformed
  | fuel + 1, depth, cs =>
    match cs with
    | '[' :: rest => do
      if depth < 2 then throw (.tooDeep "")
      match ← expect (skipFiller? (rest.length + 1) rest) with
      | ']' :: rest => return (.array [], rest)
      | rest => do
        let (items, rest) ← items fuel (depth - 2) rest
        return (.array items, rest)
    | '\x7b' :: rest => do
      if depth < 3 then throw (.tooDeep "")
      match skipSpace rest with
      | '\x7d' :: rest => return (.object [], rest)
      | rest => do
        let (table, rest) ← inlineTable fuel (depth - 3) [] [] rest
        return (.object table, rest)
    | _ =>
      match Toml.string? cs, after? "true" cs, after? "false" cs with
      | some (s, rest), _, _ => return (.text s, rest)
      | none, some rest, _ => return (.bool true, rest)
      | none, none, some rest => return (.bool false, rest)
      | none, none, none =>
        match calendar cs with
        | .found d rest => return (d, rest)
        | .invalid => throw .malformed
        | .absent => expect ((Toml.number? cs).orElse fun _ => named? cs)

/-- The elements of an array up to its closing bracket; a comma may follow the last one. -/
def items : Nat → Nat → List Char → Except ReadError (List Document × List Char)
  | 0, _, _ => throw .malformed
  | fuel + 1, depth, cs => do
    let (item, rest) ← value fuel depth cs
    match ← expect (skipFiller? (rest.length + 1) rest) with
    | ']' :: rest => return ([item], rest)
    | ',' :: rest =>
      match ← expect (skipFiller? (rest.length + 1) rest) with
      | ']' :: rest => return ([item], rest)
      | rest => do
        let (items, rest) ← items fuel depth rest
        return (item :: items, rest)
    | _ => throw .malformed

/-- The fields of an inline table up to its closing brace, added to those before them. `closed`
holds the keys of the earlier values that are closed. -/
def inlineTable : Nat → Nat → List Key → Fields → List Char →
    Except ReadError (Fields × List Char)
  | 0, _, _, _, _ => throw .malformed
  | fuel + 1, depth, closed, table, cs => do
    let (key, rest) ← expect (key? cs)
    match rest with
    | '=' :: rest => do
      let (value, rest) ← value fuel depth (skipSpace rest)
      if closed.any (·.isPrefixOf key) then throw .malformed
      let table ← expect (changeTable false (addValue (key.getLastD "") value) key.dropLast table)
      match skipSpace rest with
      | '\x7d' :: rest => return (table, rest)
      | ',' :: rest =>
        inlineTable fuel depth (if isClosed value then key :: closed else closed) table
          (skipSpace rest)
      | _ => throw .malformed
    | _ => throw .malformed

end

/-- A document being read: its tables, the keys that are closed with all beneath them, the keys
that no table header may declare any more, and those that become such at the next header. -/
structure Draft where
  table : Fields := []
  closed : List Key := []
  declared : List Key := []
  pending : List Key := []
  header : Key := []

namespace Draft

def isClosedAt (d : Draft) (key : Key) : Bool := d.closed.any (·.isPrefixOf key)

def settle (d : Draft) : Draft := { d with declared := d.pending ++ d.declared, pending := [] }

/-- Opens the table of a header such as `[a.b]`. -/
def openTable (d : Draft) (key : Key) : Option Draft :=
  if d.declared.contains key || d.isClosedAt key then none
  else
    (changeTable true some key d.table).map fun table =>
      { d with table := table, declared := key :: d.declared, header := key }

/-- Opens a new table of a header such as `[[a.b]]`. What was declared beneath the array belongs to
the tables before the new one. -/
def openNextTable (d : Draft) (key : Key) : Option Draft :=
  if d.isClosedAt key then none
  else
    (changeTable true (addTable (key.getLastD "")) key.dropLast d.table).map fun table =>
      { d with
        table := table
        closed := d.closed.filter fun k => !key.isPrefixOf k
        declared := key :: d.declared.filter fun k => !key.isPrefixOf k
        header := key }

/-- The keys of the tables that a dotted key goes through. -/
def throughKeys (header : Key) (key : Key) : List Key :=
  (List.range (key.length - 1)).map fun i => header ++ key.take (i + 1)

/-- Gives a value to a key of the table that is open. -/
def assign (d : Draft) (key : Key) (value : Document) : Option Draft :=
  let through := throughKeys d.header key
  if through.any d.declared.contains || d.isClosedAt (d.header ++ key.dropLast) then none
  else
    (changeTable true (addValue (key.getLastD "") value) (d.header ++ key.dropLast) d.table).map
      fun table =>
        { d with
          table := table
          closed := if isClosed value then (d.header ++ key) :: d.closed else d.closed
          pending := through ++ d.pending }

end Draft

/-- The header or the assignment at the start of a line, and the rest of the line. -/
def statement (d : Draft) (cs : List Char) : Except ReadError (Draft × List Char) :=
  match cs with
  | '[' :: '[' :: rest => do
    let (key, rest) ← expect (key? (skipSpace rest))
    let d ← expect (d.settle.openNextTable key)
    match rest with
    | ']' :: ']' :: rest => return (d, rest)
    | _ => throw .malformed
  | '[' :: rest => do
    let (key, rest) ← expect (key? (skipSpace rest))
    let d ← expect (d.settle.openTable key)
    match rest with
    | ']' :: rest => return (d, rest)
    | _ => throw .malformed
  | '#' :: _ => return (d, cs)
  | _ => do
    let (key, rest) ← expect (key? cs)
    match rest with
    | '=' :: rest => do
      let (value, rest) ← value (2 * rest.length + 1) maxDepth (skipSpace rest)
      return (← expect (d.assign key value), rest)
    | _ => throw .malformed

/-- Statements up to the end of the text, one a line. `fuel` bounds the number of lines. -/
def statements : Nat → Draft → List Char → Except ReadError Draft
  | 0, _, _ => throw .malformed
  | fuel + 1, d, cs =>
    match skipSpace cs with
    | [] => return d
    | '\n' :: rest => statements fuel d rest
    | cs => do
      let (d, rest) ← statement d cs
      match ← expect (skipComment? (skipSpace rest)) with
      | [] => return d
      | '\n' :: rest => statements fuel d rest
      | _ => throw .malformed

/-- A text with every carriage return and line feed in a row as one line feed. -/
def unifyLineEnds : List Char → List Char
  | '\r' :: '\n' :: cs => '\n' :: unifyLineEnds cs
  | c :: cs => c :: unifyLineEnds cs
  | [] => []

/-- The document that a text holds. -/
def read (cs : List Char) : Except ReadError Document := do
  let cs := unifyLineEnds cs
  let d ← statements (cs.length + 1) {} cs
  return .object d.table

end PlannerConfig.Toml
