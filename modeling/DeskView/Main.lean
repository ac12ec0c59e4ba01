import DeskView.CommandLine.Viewer
import DeskView.Surface.Canvas

/-!
# The command line of the viewer

The program looks at the path of the settings that its arguments name, runs the viewer on what it
finds there, and carries out what the report says.  It is built without the engine library, so
every session finds the engine missing.
-/

namespace DeskView.CommandLine

/-- The path of a place. -/
def Directory.written (place : Path) : String := "/".intercalate place

/-- Whether a folder stands at a path. -/
def isFolder (path : String) : IO Bool := do
  try
    discard <| IO.FS.realPath (path ++ "/.")
    return true
  catch _ =>
    return false

/-- Adds what stands at a path to a directory: a folder, a file with its content, or nothing. -/
def Directory.examine (d : Directory) (place : Path) : IO Directory := do
  let path := Directory.written place
  if ← isFolder path then
    return { d with folders := d.folders ++ [place] }
  try
    return { d with files := d.files ++ [(place, (← IO.FS.readBinFile path).toList)] }
  catch _ =>
    return d

/-- Adds all that the parts of a path lead over, from `here` on. -/
def Directory.survey (d : Directory) (here : Path) : List String → IO Directory
  | [] => return d
  | part :: rest => do
    if part = "" || part = "." then
      d.survey here rest
    else if part = ".." then
      d.survey (Directory.above here) rest
    else
      let here := here ++ [part]
      (← d.examine here).survey here rest

/-- The directory as far as one run of the viewer can see it. -/
def surroundings (args : List String) : IO Directory := do
  match Arguments.parse args with
  | .error _ => return {}
  | .ok a =>
    Directory.survey {} (Directory.start a.configPath) (Directory.parts a.configPath)

/-- Runs the viewer and carries out its report. -/
def console (args : List String) : IO UInt32 := do
  let directory ← surroundings args
  let logFilter ← IO.getEnv "RUST_LOG"
  let report := Environment.run
    { args, directory, engine := .unlinked, logFilter, wakeUps := 0 } MemoryTarget.new?
  for (place, content) in report.directory.changes directory do
    IO.FS.writeBinFile (Directory.written place) ⟨content.toArray⟩
  IO.print report.output
  IO.eprint report.errors
  return report.code

end DeskView.CommandLine

/-- Runs the viewer. -/
def main (args : List String) : IO UInt32 := DeskView.CommandLine.console args
