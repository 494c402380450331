import ResourceSearch.CommandLine.Execution
import ResourceSearch.Engine.Store

/-!
# The program

Carries out a command on an engine in memory: a rehearsal of what an activation would do, with the
files and directories that its arguments lead to. Log events go to standard error, the report to
standard output.
-/

namespace ResourceSearch.Main

/-! ## Gathering files -/

/-- The directory that the program runs in, without any file. -/
def start : IO Files := do
  let names := Path.names (← IO.FS.realPath ".").toString
  return .within (names.filter fun (name : String) ↦ name ≠ "")

/-- Gathers the texts at some paths, as far as they can be read. -/
def gatherTexts (files : Files) (paths : List String) : IO Files :=
  paths.foldlM (fun files (path : String) ↦ do
    match ← (IO.FS.readFile path).toBaseIO with
    | .ok text => return files.withFile path (some text)
    | .error _ => return files) files

/-- Gathers the directories around a path, and whether it leads to what cannot be written over. -/
def gatherAround (files : Files) (path : String) : IO Files := do
  let around := "/".intercalate ((Path.names path).dropLast ++ ["."])
  match ← (IO.FS.realPath around).toBaseIO with
  | .error _ => return files
  | .ok _ =>
    let files := files.withDirectories path
    match ← (IO.FS.realPath path).toBaseIO, ← (IO.FS.Handle.mk path .readWrite).toBaseIO with
    | .ok _, .error _ => return files.withReadOnly path
    | _, _ => return files

/-- The files with the definitions of the indices that a command reads. -/
def definitionPaths (line : CommandLine) (files : Files) : List String :=
  match line.command with
  | .createIndices path => [path]
  | .activate arguments =>
    match (line.baseConfig.run (.start () files)).1 with
    | .ok config => (arguments.configure config).indexFile.toList
    | .error _ => []

/-- The file that a command may write. -/
def outputPath? (line : CommandLine) : Option String :=
  match line.command with
  | .createIndices _ => none
  | .activate arguments => arguments.outputConfig

/-- The files that a command reads, and what is around the one that it may write. -/
def gatherFiles (line : CommandLine) : IO Files := do
  let withConfig ← gatherTexts (← start) line.config.toList
  let withDefinitions ← gatherTexts withConfig (definitionPaths line withConfig)
  (outputPath? line).toList.foldlM gatherAround withDefinitions

/-! ## Carrying out -/

/-- Writes the file that a command has written. -/
def writeOutput (line : CommandLine) (files : Files) : IO Unit := do
  match (outputPath? line).bind fun path ↦ (files.read? path).map (path, ·) with
  | some (path, text) => IO.FS.writeFile path text
  | none => return ()

/-- Carries out a command; the status tells whether it succeeded. -/
def carryOut (line : CommandLine) : IO UInt32 := do
  let files ← gatherFiles line
  let (result, world) := (line.execute Store.engine).run (.start .empty files)
  for event in world.events do
    IO.eprintln (event.level.name ++ " " ++ event.message)
  match result with
  | .error error =>
    IO.eprintln error.message
    return 1
  | .ok outcome =>
    if world.files ≠ files then
      writeOutput line world.files
    IO.print outcome.report.text
    return outcome.exitStatus.toUInt32

end ResourceSearch.Main

/-- Reads the arguments and carries out the command that they make. -/
def main (arguments : List String) : IO UInt32 := do
  match ResourceSearch.CommandLine.ofArguments arguments with
  | .error error =>
    IO.eprintln error.name
    return 2
  | .ok line => ResourceSearch.Main.carryOut line
