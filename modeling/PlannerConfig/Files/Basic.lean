import PlannerConfig.Document.Basic
import PlannerConfig.Files.Path
import PlannerConfig.Text.Encoding
import PlannerConfig.Text.Quoted

/-!
Files and directories. A directory is there if it is listed or if something is in it.
-/
namespace PlannerConfig

open PlannerConfig.Text

/-- Files by the parts of their paths. Directories have no contents. -/
structure Files where
  entries : List (List String × Option ByteArray) := []

/-- Why a file cannot be read or written. -/
inductive FileError
  | notFound (path : FilePath)
  | isDirectory (path : FilePath)
  | notADirectory (path : FilePath)
  | nameTooLong (path : FilePath)
  | nullInPath
  | notText
  | unencodable (u : Unencodable)
  deriving DecidableEq, Repr

def Text.Unencodable.message (u : Unencodable) : String :=
  let found :=
    if u.count = 1 then "character '" ++ String.ofList (escapeCode u.first) ++ "' in position "
        ++ toString u.position
    else "characters in position " ++ toString u.position ++ "-"
        ++ toString (u.position + u.count - 1)
  "'utf-8' codec can't encode " ++ found ++ ": surrogates not allowed"

def FileError.message : FileError → String
  | notFound path => "[Errno 2] No such file or directory: " ++ quoted path.text
  | isDirectory path => "[Errno 21] Is a directory: " ++ quoted path.text
  | notADirectory path => "[Errno 20] Not a directory: " ++ quoted path.text
  | nameTooLong path => "[Errno 36] File name too long: " ++ quoted path.text
  | nullInPath => "embedded null byte"
  | notText => ""
  | unencodable u => u.message

/-- The bytes that a name in a directory may have at most. -/
def maxNameBytes : Nat := 255

/-- The bytes that a path may have at most. -/
def maxPathBytes : Nat := 4095

namespace Files

def contents? (f : Files) (place : List String) : Option ByteArray := (f.entries.lookup place).join

def isFile (f : Files) (place : List String) : Bool := (f.contents? place).isSome

/-- Whether a place is the directory at hand or one around it. -/
def isAround (place : List String) : Bool := place.all (· == "..")

def isDirectory (f : Files) (place : List String) : Bool :=
  !f.isFile place && (isAround place || f.entries.any fun e => place.isPrefixOf e.1)

/-- Whether there is anything at a place. -/
def isThere (f : Files) (place : List String) : Bool := f.isFile place || f.isDirectory place

/-- The place that one part of a path leads to. Two points lead to the directory around. -/
def placeUnder (place : List String) (part : String) : List String :=
  if part = ".." ∧ !isAround place then place.dropLast else place ++ [part]

/-- The place that the parts of a path lead to from a directory. All parts but the last must be
directories. -/
def placeFrom (f : Files) (path : FilePath) (place : List String) :
    List String → Except FileError (List String)
  | [] => return place
  | part :: rest =>
    let next := placeUnder place part
    if maxNameBytes < part.utf8ByteSize then throw (.nameTooLong path)
    else if rest.isEmpty || f.isDirectory next then f.placeFrom path next rest
    else if f.isFile next then throw (.notADirectory path)
    else throw (.notFound path)

/-- Whether a surrogate in a path stands for a byte that is no UTF-8. -/
def isLoneByte (n : Nat) : Bool := 0xDC80 ≤ n && n < 0xDD00

def place (f : Files) (path : FilePath) : Except FileError (List String) :=
  match unencodable? isLoneByte 0 (points path.text.toList) with
  | some u => throw (.unencodable u)
  | none =>
    if path.text.contains '\x00' then throw .nullInPath
    else if maxPathBytes < path.text.utf8ByteSize then throw (.nameTooLong path)
    else f.placeFrom path [] path.parts

/-- Whether there is anything at a path. Of a path with too long a name this cannot be told. -/
def hasPath (f : Files) (path : FilePath) : Except FileError Bool :=
  match f.place path with
  | .ok place => return f.isThere place
  | .error (.nameTooLong path) => throw (.nameTooLong path)
  | .error _ => return false

def read (f : Files) (path : FilePath) : Except FileError ByteArray := do
  let place ← f.place path
  match f.contents? place with
  | some bytes => return bytes
  | none => throw (if f.isDirectory place then .isDirectory path else .notFound path)

def readText (f : Files) (path : FilePath) : Except FileError String := do
  (decodeText? (← f.read path)).elim (throw .notText) pure

/-- The files after a file has been written. Its directory must be there. -/
def write (f : Files) (path : FilePath) (bytes : ByteArray) : Except FileError Files := do
  let place ← f.place path
  if f.isDirectory place then throw (.isDirectory path)
  else return ⟨setField place (some bytes) f.entries⟩

def writeText (f : Files) (path : FilePath) (text : String) : Except FileError Files := do
  f.write path (← (encodeText? text).mapError .unencodable)

end Files

end PlannerConfig
