import TokenScopes.Fixture.Load

namespace TokenScopes

/-- What happens in a run, file by file and case by case. A file or a specification that cannot be
read is an event like others and does not stop the run. -/
inductive RunEvent where
  /-- A case was checked, and lines were echoed meanwhile. -/
  | checked (result : CaseResult) (echoed : List Text)
  | unreadable (message : Text)

namespace RunEvent

def result? : RunEvent → Option CaseResult
  | .checked r _ => some r
  | .unreadable _ => none

def loadError? : RunEvent → Option Text
  | .checked _ _ => none
  | .unreadable m => some m

def echoed : RunEvent → List Text
  | .checked _ lines => lines
  | .unreadable _ => []

end RunEvent

structure RunSummary where
  results : List CaseResult
  loadErrors : List Text

namespace RunSummary

def ofEvents (events : List RunEvent) : RunSummary where
  results := events.filterMap RunEvent.result?
  loadErrors := events.filterMap RunEvent.loadError?

def passedCount (s : RunSummary) : Nat :=
  s.results.countP (·.passed)

def failedCount (s : RunSummary) : Nat :=
  s.results.length - s.passedCount

/-- Two if something could not be read, else one if a case failed. -/
def exitCode (s : RunSummary) : Nat :=
  if !s.loadErrors.isEmpty then 2
  else if s.failedCount ≠ 0 then 1
  else 0

def toValue (s : RunSummary) : Value :=
  .ofFields [
    ("summary", .ofFields [("cases", .int s.results.length), ("passed", .int s.passedCount),
      ("failed", .int s.failedCount), ("load_errors", .int s.loadErrors.length)]),
    ("results", .list (s.results.map CaseResult.toValue)),
    ("load_errors", .ofTexts s.loadErrors), ("exit_code", .int s.exitCode)]

end RunSummary

namespace Run

def checkCase (config : Config) (echoes : Bool) (path : Path) (c : Case) : RunEvent :=
  match c.check config echoes with
  | .ok (result, echoed) => .checked result echoed
  | .error f => .unreadable (path.toText ++ ": " ++ c.name ++ ": " ++ f.message)

def checkFile (fs : FileSystem) (config : Config) (echoes : Bool) (path : Path) :
    Except Fixture.ScalarFault (List RunEvent) :=
  match Fixture.load fs path with
  | .ok cases => .ok (cases.map (checkCase config echoes path))
  | .error (.load f) => .ok [.unreadable f.message]
  | .error (.scalar f) => .error f

def checkFiles (fs : FileSystem) (config : Config) (echoes : Bool) :
    List Path → Except Fixture.ScalarFault (List RunEvent)
  | [] => .ok []
  | path :: rest => do
    let here ← checkFile fs config echoes path
    return here ++ (← checkFiles fs config echoes rest)

def checkPaths (fs : FileSystem) (config : Config) (echoes : Bool) (ps : List Path) :
    Except Fixture.ScalarFault (List RunEvent) :=
  checkFiles fs config echoes (Fixture.discover fs ps)

end Run

end TokenScopes
