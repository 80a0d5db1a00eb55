import PlannerConfig.Failure

/-!
A mapping pass. It fills a catalog and tells of what happens; both stand when it fails.
-/
namespace PlannerConfig

open PlannerConfig.Text

inductive Level
  | debug
  | info
  | warning
  | error
  deriving DecidableEq, Repr

def Level.text : Level → String
  | debug => "DEBUG"
  | info => "INFO"
  | warning => "WARNING"
  | error => "ERROR"

/-- What is told of a pass or of the files around it. -/
inductive Event
  | replaced (path : List String)
  | unknownIgnored (paths : List String) (source : Option String)
  | retiredFilter (path : Path)
  | mappingRequest (path : Path)
  | mappingBuild (source : Option String)
  | loaded (file : String)
  | layered (count : Nat)
  | wrote (file : String)
  | upToDate (file : String)
  | updated (file : String)
  | drifted (message : String)
  deriving DecidableEq, Repr

namespace Event

def level : Event → Level
  | replaced .. => .debug
  | unknownIgnored .. => .warning
  | retiredFilter .. => .warning
  | mappingRequest .. => .debug
  | mappingBuild .. => .debug
  | loaded .. => .info
  | layered .. => .debug
  | wrote .. => .info
  | upToDate .. => .info
  | updated .. => .info
  | drifted .. => .error

def message : Event → String
  | replaced path => "Parameter '" ++ dotted path ++ "' read again, replacing"
  | unknownIgnored paths source =>
    "Unknown configuration parameters" ++ inSource source ++ ": " ++ join ", " paths
      ++ ". These will be ignored."
  | retiredFilter path =>
    "Itinerary filter parameter '" ++ path.text ++ "' is no longer supported and is ignored."
  | mappingRequest path =>
    "Mapping route request at '" ++ (if path.text = "" then "<root>" else path.text) ++ "'"
  | mappingBuild source =>
    String.ofList (trimEnd ("Mapping build configuration " ++ source.getD "").toList)
  | loaded file => "Loaded configuration from " ++ file
  | layered count => "Merged " ++ toString count ++ " configuration layers"
  | wrote file => "Wrote documentation to " ++ file
  | upToDate file => file ++ " is up to date"
  | updated file => "Updated " ++ file ++ ", review and commit the change"
  | drifted message => message

end Event

structure PassState where
  catalog : Catalog := {}
  events : List Event := []

/-- A step of a mapping pass. -/
abbrev Pass (α : Type) : Type := ExceptT Failure (StateM PassState) α

namespace Pass

/-- Goes through a pass from a state. -/
def runFrom {α : Type} (p : Pass α) (s : PassState) : Except Failure α × PassState :=
  (ExceptT.run p).run s

/-- Goes through a pass from an empty catalog. -/
def run {α : Type} (p : Pass α) : Except Failure α × PassState := p.runFrom {}

def tell (e : Event) : Pass Unit := modify fun s => { s with events := s.events ++ [e] }

/-- Tells that the entry at a path has a record that will be replaced, if it has. -/
def tellReplaced (path : List String) : Pass Unit := do
  if ((← get).catalog.get? path).isSome then tell (.replaced path)

def setCatalog (c : Catalog) : Pass Unit := modify fun s => { s with catalog := c }

/-- Registers a parameter. -/
def register (r : Record) : Pass Unit := do
  match (← get).catalog.register r with
  | .error c => throw (.conflict c)
  | .ok catalog =>
    tellReplaced r.path
    setCatalog catalog

/-- Registers what is known of a group. -/
def registerGroup (r : Record) : Pass Unit := do
  tellReplaced r.path
  setCatalog ((← get).catalog.put r)

/-- Notes that the value of a node was read. -/
def consume (n : Node) : Pass Unit := do setCatalog ((← get).catalog.consume n.path)

end Pass

end PlannerConfig
