import TokenScopes.Command.Outcome
import TokenScopes.Json.Printer

namespace TokenScopes.CheckCommand

/-- The settings that were given with the command; they override the file. -/
def overrides (c : CheckCommand) : List (Value × Value) :=
  [(.text Config.rootKey, (c.rootScope.map Value.text).getD .null)] ++
    (c.stopOnMismatch.map fun b => (Value.text Config.stopKey, Value.bool b)).toList

def configPlace (c : CheckCommand) (environment : Option String) : ConfigPlace :=
  ⟨c.root, c.configFile, environment⟩

def config (c : CheckCommand) (around : Surroundings) : Except CommandFault Config :=
  match (c.configPlace around.environment).resolve around.files c.overrides with
  | .ok config => .ok config
  | .error (.file f) => .error (.configFile f)
  | .error (.config f) => .error (.rootScope f)

def resultLine (r : CaseResult) : Text :=
  (if r.passed then "PASS " else "FAIL ") ++ r.name ++ " (" ++ toString r.tokensChecked ++
    " tokens)"

def eventLines (quiet : Bool) : RunEvent → List Text
  | .checked r echoed => if quiet then [] else echoed ++ [resultLine r]
  | .unreadable _ => []

def summaryLine (s : RunSummary) : String :=
  toString s.results.length ++ " case(s): " ++ toString s.passedCount ++ " passed, " ++
    toString s.failedCount ++ " failed, " ++ toString s.loadErrors.length ++ " unreadable."

/-- Checks files one by one, and prints what happens before the next file is read: the events, and
what was printed. -/
def checkFiles (c : CheckCommand) (files : FileSystem) (config : Config) :
    List Path → Except CommandFault (List RunEvent × String)
  | [] => .ok ([], "")
  | path :: rest => do
    let here ← (Run.checkFile files config (!c.quiet) path).mapError .scalar
    let output ← (printedLines (here.flatMap (eventLines c.quiet))).mapError .printing
    let (later, more) ← c.checkFiles files config rest
    return (here ++ later, output ++ more)

def reportText (s : RunSummary) : String :=
  Json.prettyText s.toValue

def run (c : CheckCommand) (around : Surroundings) : Except CommandFault Outcome := do
  let config ← c.config around
  let (events, output) ← c.checkFiles around.files config (Fixture.discover around.files c.paths)
  let summary := RunSummary.ofEvents events
  let (report, files) ← match c.report with
    | none => pure ("", around.files)
    | some target => (deliver around.files target (reportText summary)).mapError .target
  return {
    exitCode := summary.exitCode
    output := output ++ escaped (summaryLine summary ++ "\n") ++ report
    errors := escapedLines summary.loadErrors
    files }

end TokenScopes.CheckCommand
