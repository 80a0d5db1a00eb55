import PlannerConfig.Command.Basic

/-!
The command line: reads the files that the command needs, goes through the command, writes what it
wrote and tells what it told.
-/
namespace PlannerConfig.Command

/-- The template and the reference that the arguments name, if they are not those of the project. -/
def paths (a : Arguments) : List FilePath :=
  [a.templates, a.docs].filterMap fun
    | .given path => some (path.child Project.referenceName)
    | _ => none

/-- The place that the parts of a path lead to. -/
def placeOf (parts : List String) : List String := parts.foldl Files.placeUnder []

/-- The directory with the first parts of a path, if it is there. -/
def directoryAt (path : FilePath) (parts : Nat) : IO (List (List String × Option ByteArray)) := do
  let around : FilePath := { path with parts := path.parts.take parts }
  try
    if ← (← IO.FS.realPath around.text).isDir then return [(placeOf around.parts, none)]
    else return []
  catch _ => return []

/-- The file at a path and the directories on the way to it, as far as they are there. -/
def entriesAt (path : FilePath) : IO (List (List String × Option ByteArray)) := do
  let directories ← (List.range path.parts.length).mapM (directoryAt path)
  try
    let bytes ← IO.FS.readBinFile path.text
    return (placeOf path.parts, some bytes) :: directories.flatten
  catch _ => return directories.flatten

/-- Writes a file if its contents are not those from before. -/
def save (before after : Files) (path : FilePath) : IO Unit := do
  let place := placeOf path.parts
  match after.contents? place with
  | none => return ()
  | some bytes =>
    if (before.contents? place).map ByteArray.toList ≠ some bytes.toList then
      IO.FS.writeBinFile path.text bytes

end PlannerConfig.Command

open PlannerConfig in
def main (arguments : List String) : IO UInt32 := do
  let paths :=
    match Arguments.parse arguments with
    | .ok a => Command.paths a
    | .error _ => []
  let entries ← paths.mapM Command.entriesAt
  let before : Files := ⟨Project.files ++ entries.flatten⟩
  let (result, after) := (Command.run arguments).runFrom { files := before }
  for event in after.events do
    if event.level ≠ .debug then
      IO.eprintln (event.level.text ++ " " ++ event.message)
  for path in paths do
    Command.save before after.files path
  match result with
  | .ok code => return code.toUInt32
  | .error (.stop .help) => return 0
  | .error (.stop .usage) => return 2
  | .error (.load e) =>
    IO.eprintln e.message
    return 1
  | .error (.mapping f) =>
    IO.eprintln f.message
    return 1
  | .error .noDirectory =>
    IO.eprintln Command.noDirectoryText
    return 1
  | .error (.snapshot e) =>
    IO.eprintln e.message
    return 1
