import TokenScopes.File.Tree
import TokenScopes.Text.LineEnd
import TokenScopes.Text.Quoted
import TokenScopes.Text.Utf8

namespace TokenScopes

/-- A tree, and the directory that relative paths start from. -/
structure FileSystem where
  top : FileNode
  /-- The place of the current directory. -/
  current : List String := []

inductive PathProblem where
  | notFound
  | exists
  | notDirectory
  | isDirectory
  deriving DecidableEq

structure PathFault where
  problem : PathProblem
  path : Path
  deriving DecidableEq

inductive ReadFault where
  | path (fault : PathFault)
  | encoding (fault : Text.Utf8Fault)

def PathProblem.message : PathProblem → String
  | .notFound => "[Errno 2] No such file or directory"
  | .exists => "[Errno 17] File exists"
  | .notDirectory => "[Errno 20] Not a directory"
  | .isDirectory => "[Errno 21] Is a directory"

def PathFault.message (f : PathFault) : String :=
  f.problem.message ++ ": " ++ Text.quoted f.path.toText

def ReadFault.message : ReadFault → String
  | .path f => f.message
  | .encoding f => f.message

namespace FileSystem

/-- The place that parts lead to from a given one. All but the last must be directories, the last
may be missing. Above the top there is only the top. -/
def follow (top : FileNode) (place : List String) :
    List String → Except PathProblem (List String)
  | [] => .ok place
  | part :: parts =>
    match top.at? place with
    | none => .error .notFound
    | some (.file _) => .error .notDirectory
    | some (.directory _) =>
      follow top (if part = ".." then place.dropLast else place ++ [part]) parts

def placeOf (fs : FileSystem) (p : Path) : Except PathProblem (List String) :=
  follow fs.top (if p.anchor = "" then fs.current else []) p.parts

def find (fs : FileSystem) (p : Path) : Except PathProblem FileNode :=
  match fs.placeOf p with
  | .error problem => .error problem
  | .ok place =>
    match fs.top.at? place with
    | some node => .ok node
    | none => .error .notFound

def isDirectory (fs : FileSystem) (p : Path) : Bool :=
  match fs.find p with
  | .ok (.directory _) => true
  | _ => false

/-- The files below the directory at a path, in the order of their paths. -/
def filesUnder (fs : FileSystem) (p : Path) : List Path :=
  match fs.find p with
  | .ok (.directory children) =>
    (FileNode.filesOfChildren p children).mergeSort Path.before
  | _ => []

def readText (fs : FileSystem) (p : Path) : Except ReadFault String :=
  match fs.find p with
  | .error problem => .error (.path ⟨problem, p⟩)
  | .ok (.directory _) => .error (.path ⟨.isDirectory, p⟩)
  | .ok (.file bytes) =>
    match Text.decodeUtf8 bytes with
    | .error f => .error (.encoding f)
    | .ok cs => .ok (String.ofList (Text.foldLineEnds cs))

def makeDirectory (fs : FileSystem) (p : Path) : Except PathProblem FileSystem := do
  let place ← fs.placeOf p
  match fs.top.at? place, fs.top.at? place.dropLast with
  | some _, _ => throw .exists
  | none, some (.directory _) => return { fs with top := fs.top.put place .empty }
  | none, some (.file _) => throw .notDirectory
  | none, none => throw .notFound

/-- A directory that is there already is as good as a new one. -/
def acceptDirectory (fs : FileSystem) (p : Path) (made : Except PathProblem FileSystem) :
    Except PathFault FileSystem :=
  match made with
  | .ok after => .ok after
  | .error problem =>
    if problem != .notFound && fs.isDirectory p then .ok fs else .error ⟨problem, p⟩

/-- Makes a directory and those it is in, as far as they are missing. -/
def makeDirectories (fs : FileSystem) (p : Path) : Except PathFault FileSystem :=
  match fs.makeDirectory p with
  | .error .notFound =>
    if p.parts.isEmpty then .error ⟨.notFound, p⟩
    else do
      let above ← makeDirectories fs p.parent
      above.acceptDirectory p (above.makeDirectory p)
  | made => fs.acceptDirectory p made
  termination_by p.parts.length
  decreasing_by
    have : 0 < p.parts.length := List.length_pos_iff.2 (by simp_all)
    simp only [Path.parent, List.length_dropLast]
    omega

/-- Writes a text to the file at a path, which is made if it is missing. -/
def writeText (fs : FileSystem) (p : Path) (s : String) : Except PathFault FileSystem :=
  match fs.placeOf p with
  | .error problem => .error ⟨problem, p⟩
  | .ok place =>
    match fs.top.at? place, fs.top.at? place.dropLast with
    | some (.directory _), _ => .error ⟨.isDirectory, p⟩
    | some (.file _), _ | none, some (.directory _) =>
      .ok { fs with top := fs.top.put place (.file s.toUTF8.toList) }
    | none, some (.file _) => .error ⟨.notDirectory, p⟩
    | none, none => .error ⟨.notFound, p⟩

end FileSystem

end TokenScopes
