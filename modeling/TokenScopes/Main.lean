import TokenScopes.Command.Run

namespace TokenScopes.Program

def location (place : List String) : String :=
  "/" ++ "/".intercalate place

/-- The node at a place. A directory is loaded with all that is below it, or without. -/
partial def loadNode (deep : Bool) (place : List String) : IO (Option FileNode) := do
  let path := (← IO.currentDir) / location place
  if ← path.isDir then
    if !deep then return some .empty
    let names := (← path.readDir).toList.map (·.fileName)
    let children ← names.filterMapM fun name => do
      return (← loadNode true (place ++ [name])).map fun node => (name, node)
    return some (.directory children)
  else if ← path.pathExists then
    return some (.file (← IO.FS.readBinFile path).toList)
  else return none

/-- Loads what stands on the way along the parts of a path, and at its end. -/
def loadAlong (deep : Bool) (files : FileSystem) (place : List String) :
    List String → IO FileSystem
  | [] => return files
  | part :: parts => do
    let next := if part = ".." then place.dropLast else place ++ [part]
    match ← loadNode (deep && parts.isEmpty) next, files.top.at? next with
    | none, _ => return files
    | some (.directory []), some (.directory _) => loadAlong deep files next parts
    | some node, _ => loadAlong deep { files with top := files.top.put next node } next parts

def loadPath (deep : Bool) (files : FileSystem) (p : Path) : IO FileSystem := do
  let full := if p.anchor = "" then files.current ++ p.parts else p.parts
  loadAlong deep files [] full

def loadFiles (command : Command) (environment : Option String) : IO FileSystem := do
  let current := (Path.of (← IO.currentDir).toString).parts
  let files ← loadPath false ⟨.empty, current⟩ (Path.of ".")
  let files ← command.sources.foldlM (loadPath true) files
  (command.others environment).foldlM (loadPath false) files

def readInput (command : Command) : IO (List UInt8) := do
  if command.readsInput then
    return (← (← IO.getStdin).readBinToEnd).toList
  else return []

def writeChanges (before after : FileNode) : IO Unit := do
  for (place, bytes) in before.changes after do
    IO.FS.createDirAll (location place.dropLast)
    IO.FS.writeBinFile (location place) (ByteArray.mk bytes.toArray)

/-- What a command may look at is loaded before it runs, and the files it changed are written
afterwards. -/
def runCommand (command : Command) : IO UInt32 := do
  let environment ← IO.getEnv ConfigPlace.environmentName
  let files ← loadFiles command environment
  match command.run ⟨files, ← readInput command, environment⟩ with
  | .error f =>
    IO.eprintln f.message
    return 1
  | .ok outcome =>
    writeChanges files.top outcome.files.top
    IO.print outcome.output
    IO.eprint outcome.errors
    return UInt32.ofNat outcome.exitCode

end TokenScopes.Program

def main (args : List String) : IO UInt32 := do
  match TokenScopes.Command.ofArguments args with
  | .error f =>
    IO.eprintln f.message
    return 2
  | .ok command => TokenScopes.Program.runCommand command
