import ThresholdTrim.Command.Program

/-!
# Command line

The outer layer of the program: finds what the paths of a call lead to, carries the call out and
puts what it leaves behind into place.
-/

open ThresholdTrim

/-- What is at a path, if it is a directory or a text. -/
def nodeAt? (path : String) : IO (Option Node) := do
  try
    if ← (← IO.FS.realPath path).isDir then return some .directory
    return some (.file (← IO.FS.readFile path))
  catch _ => return none

/-- The text at a path, if it can be read. -/
def readText? (path : String) : IO (Option String) := do
  match ← nodeAt? path with
  | some (.file text) => return some text
  | _ => return none

/-- What is at the places that paths lead through. -/
def survey (paths : List FilePath) : IO Files := do
  let mut files := Files.empty
  for path in paths do
    for place in path.start.through path.steps do
      if let some node ← nodeAt? place.text then
        files := files.insert place node
  return files

/-- Puts files and directories into place, the directories before what is in them. -/
def restore (files : Files) : IO Unit := do
  for (place, node) in files.nodes.reverse do
    if (← nodeAt? place.text) ≠ some node then
      match node with
      | .directory => IO.FS.createDirAll place.text
      | .file text => IO.FS.writeFile place.text text

def printStreams (streams : Program.Streams) : IO UInt32 := do
  IO.print streams.out
  IO.eprint streams.err
  return UInt32.ofNat streams.code

def main (arguments : List String) : IO UInt32 := do
  match Arguments.parse arguments with
  | .error halt => printStreams (Program.haltStreams halt)
  | .ok invocation =>
    let options := invocation.options
    let configText ← readText? options.configPath
    let further := Program.furtherPaths invocation configText
    let files ← survey (FilePath.ofText options.configPath :: further)
    let (result, files) := (Program.run invocation).run files
    restore files
    printStreams (Program.streams options.json result)
