import TokenScopes.File.System
import TokenScopes.Fixture.Document
import TokenScopes.Fixture.Format

namespace TokenScopes.Fixture

inductive LoadProblem where
  | missing
  | unreadable (fault : ReadFault)
  | malformed (reason : String)
  | document (fault : DocumentFault)

def LoadProblem.message : LoadProblem → Text
  | .missing => "fixture missing"
  | .unreadable f => "fixture unreadable: " ++ f.message
  | .malformed reason => "fixture malformed: " ++ reason
  | .document f => f.message

structure LoadFault where
  path : Path
  problem : LoadProblem

def LoadFault.message (f : LoadFault) : Text :=
  f.path.toText ++ ": " ++ f.problem.message

/-- Why a file gives no cases. A load fault concerns its file alone; a scalar without a value is
not accounted to the file that holds it. -/
inductive Fault where
  | load (fault : LoadFault)
  | scalar (fault : ScalarFault)

def Fault.message : Fault → Text
  | .load f => f.message
  | .scalar f => f.message

def DecodeFault.at (path : Path) : DecodeFault → Fault
  | .malformed reason => .load ⟨path, .malformed reason⟩
  | .scalar f => .scalar f

def readText (fs : FileSystem) (path : Path) : Except LoadFault String :=
  match fs.readText path with
  | .ok text => .ok text
  | .error (.path ⟨.notFound, _⟩) => .error ⟨path, .missing⟩
  | .error f => .error ⟨path, .unreadable f⟩

def ofText (path : Path) (text : String) : Except Fault (List Case) := do
  let payload ← (decode path text).mapError (·.at path)
  (cases path payload).mapError fun f => .load ⟨path, .document f⟩

def load (fs : FileSystem) (path : Path) : Except Fault (List Case) := do
  ofText path (← (readText fs path).mapError .load)

/-- What one path stands for: a directory for the fixtures below it, anything else for itself. -/
def expand (fs : FileSystem) (path : Path) : List Path :=
  if fs.isDirectory path then (fs.filesUnder path).filter hasFixtureSuffix else [path]

/-- The files that paths stand for, each once, where it is first met. -/
def discover (fs : FileSystem) (paths : List Path) : List Path :=
  (paths.flatMap (expand fs)).eraseDups

end TokenScopes.Fixture
