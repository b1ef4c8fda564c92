import GridAsm.Command.Run

/-!
# The command line

The tools on the files of the machine.  What a call may touch is read into a `FileTree` first, the
call runs on it, and what is new in the tree afterwards is written back.

The program is the inspector if it is called by the inspector's name, and the assembler otherwise.
-/

namespace GridAsm.Command

/-- The paths that a call of a tool may touch: all its values, the default files, and the places for
the artifact. -/
def touchedPaths (tool : Tool) (settings : Settings) (arguments : List Text) : List Path :=
  match sortArguments tool.options arguments with
  | .error _ => []
  | .ok a =>
    let given := (a.options.map Given.value ++ a.positional).map Path.parse
    let sources := settings.source :: given
    settings.rules :: sources ++ sources.map settings.artifactFor

/-- A path and all those above it, the outermost first. -/
def leadingPaths (p : Path) : List Path :=
  (List.range (p.names.length + 1)).map fun n => { p with names := p.names.take n }

/-- The place of a path, whether or not there is anything. -/
def placeOfPath (p : Path) : Place :=
  p.names.foldl FileTree.child (if p.root = "" then [] else FileTree.root)

/-- A place as a path of the machine. -/
def placeText (place : Place) : String :=
  if place.take 1 = FileTree.root then "/" ++ (Text.join "/" (place.drop 1)).lossy
  else (Text.join "/" place).lossy

/-- What is at a path of the machine. -/
def entryAt (name : String) : IO (Option Entry) := do
  try
    let found ← IO.FS.realPath name
    if ← found.isDir then return some .directory
    else return some (.file (← IO.FS.readBinFile found).toList)
  catch _ => return none

/-- The tree of what is at paths of the machine and above them. -/
def readTree (paths : List Path) : IO FileTree :=
  (paths.flatMap leadingPaths).foldlM (fun tree p => do
    let place := placeOfPath p
    if (tree.find? place).isSome then return tree
    match ← entryAt p.text.lossy with
    | some e => return tree.put place e
    | none => return tree) {}

/-- Writes what is in the second tree and not in the first. -/
def writeTree (old new : FileTree) : IO Unit :=
  new.entries.forM fun (place, e) => do
    if old.find? place ≠ some e then
      match e with
      | .directory => IO.FS.createDirAll (placeText place)
      | .file bytes => IO.FS.writeBinFile (placeText place) ⟨bytes.toArray⟩

/-- The variables of the environment that are set. -/
def readEnvironment : IO Environment :=
  Environment.settingNames.filterMapM fun name => do
    return (← IO.getEnv name).map fun value => (name, Text.ofString value)

/-- The tool that the program is called as. -/
def calledTool : IO Tool := do
  if (← IO.appPath).fileStem = some Tool.inspector.program then return .inspector
  else return .assembler

/-- The host that the tools run on.  No rule table needs values that lie deeper than this. -/
def machineHost : Host :=
  .console 1000

/-- Runs a tool on the machine and gives its exit code. -/
def runTool (tool : Tool) (arguments : List String) : IO UInt32 := do
  let arguments := arguments.map Text.ofString
  let environment ← readEnvironment
  let files ← readTree (touchedPaths tool (.ofEnvironment environment) arguments)
  let (outcome, after) := Session.command machineHost { files, environment } tool arguments
  IO.print (linesText outcome.output)
  IO.eprint (linesText outcome.errors)
  writeTree files after.files
  return outcome.exit.number.toUInt32

end GridAsm.Command

/-- Runs the tool that the program is called as. -/
def main (arguments : List String) : IO UInt32 := do
  GridAsm.Command.runTool (← GridAsm.Command.calledTool) arguments
