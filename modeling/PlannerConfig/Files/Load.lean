import PlannerConfig.Document.Json
import PlannerConfig.Document.Merge
import PlannerConfig.Document.Toml.Table
import PlannerConfig.Files.Basic
import PlannerConfig.Pass
import PlannerConfig.Text.Case

/-!
Reading configuration documents from files, and laying several of them over one another.
-/
namespace PlannerConfig

open PlannerConfig.Text

/-- The files at hand, and what has been told so far. -/
structure Workspace where
  files : Files := {}
  events : List Event := []

/-- A step of work on files that may fail. What was done before it fails stands. -/
abbrev Work (ε α : Type) : Type := ExceptT ε (StateM Workspace) α

namespace Work

variable {ε α : Type}

def runFrom (w : Work ε α) (s : Workspace) : Except ε α × Workspace := (ExceptT.run w).run s

def tell (e : Event) : Work ε Unit := modify fun s => { s with events := s.events ++ [e] }

/-- A question about the files. -/
def ask {δ : Type} (wrap : δ → ε) (f : Files → Except δ α) : Work ε α := do
  match f (← get).files with
  | .ok a => return a
  | .error e => throw (wrap e)

/-- A change of the files. -/
def change {δ : Type} (wrap : δ → ε) (f : Files → Except δ Files) : Work ε Unit := do
  let files ← ask wrap f
  modify fun s => { s with files }

/-- Puts a text into a file. Opening the file empties it, before it is known whether the text can be
encoded. -/
def writeText (wrap : FileError → ε) (path : FilePath) (text : String) : Work ε Unit := do
  change wrap (·.write path .empty)
  change wrap (·.writeText path text)

end Work

/-- Why a document cannot be loaded. -/
inductive LoadError
  | unsupported (path : FilePath)
  | file (e : FileError)
  | unreadable (path : FilePath) (e : ReadError)
  | notAnObject (path : FilePath)
  deriving DecidableEq, Repr

/-- What is said of the error. What is wrong inside a malformed file is not told. -/
def LoadError.message : LoadError → String
  | unsupported path => "Unsupported configuration file type: " ++ path.text
  | file e => e.message
  | unreadable path .malformed => "Unable to parse " ++ path.text ++ ": "
  | unreadable _ (.tooDeep within) => "maximum recursion depth exceeded" ++ within
  | notAnObject path => "The top level of " ++ path.text ++ " must be an object"

/-- How documents are written in files. -/
inductive FileFormat
  | json
  | toml
  deriving DecidableEq, Repr

namespace FileFormat

/-- The format of files with a suffix in any case. -/
def ofSuffix? (suffix : String) : Option FileFormat :=
  let s := lower suffix
  if s = ".json" then some json else if s = ".toml" then some toml else none

def read (n : FileFormat) (bytes : ByteArray) : Except ReadError Document :=
  match n with
  | json => ReadError.expect (decodeJson? bytes) >>= Json.read
  | toml => ReadError.expect (decodeText? bytes) >>= fun s => Toml.read s.toList

end FileFormat

/-- Reads the document in a file, which must be an object. -/
def loadConfig (path : FilePath) : Work LoadError Document := do
  match FileFormat.ofSuffix? path.suffix with
  | none => throw (.unsupported path)
  | some n =>
    let bytes ← Work.ask .file (·.read path)
    match n.read bytes with
    | .error e => throw (.unreadable path e)
    | .ok document =>
      if !document.isObject then throw (.notAnObject path)
      Work.tell (.loaded path.text)
      return document

/-- Reads several documents, each laid over those before it. -/
def loadLayers (paths : List FilePath) : Work LoadError Document := do
  let layers ← paths.mapM loadConfig
  if 1 < paths.length then Work.tell (.layered paths.length)
  return Document.mergeAll layers

end PlannerConfig
