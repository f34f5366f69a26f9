import TokenScopes.Checker.ConfigFile
import TokenScopes.Checker.Run
import TokenScopes.Command.Basic
import TokenScopes.Text.ControlSequence

namespace TokenScopes

structure Surroundings where
  files : FileSystem
  /-- The bytes of standard input. -/
  input : List UInt8 := []
  /-- The value of the variable that names a configuration file. -/
  environment : Option String := none

structure Outcome where
  exitCode : Nat
  output : String := ""
  errors : String := ""
  /-- The files as the command leaves them. -/
  files : FileSystem

/-- What ends a command early. -/
inductive CommandFault where
  /-- The root scope that follows from the configuration is blank. -/
  | rootScope (fault : ConfigFault)
  /-- The source of a normalization is not there. -/
  | source (fault : PathFault)
  | configFile (fault : ConfigFileFault)
  | encoding (fault : Text.Utf8Fault)
  | scalar (fault : Fixture.ScalarFault)
  /-- The result could not be written. -/
  | target (fault : PathFault)
  /-- A line could not be printed. -/
  | printing (fault : Text.EncodeFault)

def CommandFault.message : CommandFault → String
  | .rootScope f => f.message
  | .source f => "cannot read " ++ f.path.toText ++ ": " ++ f.message
  | .configFile f => f.message
  | .encoding f => f.message
  | .scalar f => f.message
  | .target f => f.message
  | .printing f => f.message

def withoutSequences (s : Text) : Text :=
  .ofList (Text.dropSequences s.toList)

/-- A text as it is printed, if it has no halves of surrogate pairs. -/
def printed (s : Text) : Except Text.EncodeFault String :=
  (withoutSequences s).plain

/-- Lines as they are printed. The first that cannot be is the fault. -/
def printedLines : List Text → Except Text.EncodeFault String
  | [] => .ok ""
  | line :: rest => do
    let here ← printed (line ++ "\n")
    return here ++ (← printedLines rest)

def escapeHalf : CodePoint → List Char
  | .char c => [c]
  | .half h => Text.halfEscape h

/-- A text as it is printed among the errors, where halves are escaped. One without halves is
printed so everywhere. -/
def escaped (s : Text) : String :=
  String.ofList ((withoutSequences s).toList.flatMap escapeHalf)

def escapedLines (lines : List Text) : String :=
  String.join (lines.map fun s => escaped (s ++ "\n"))

/-- Writes a result to a file, in directories that are made for it, or to standard output: the text
that is printed, and the files afterwards. -/
def deliver (files : FileSystem) (target : Path) (text : String) :
    Except PathFault (String × FileSystem) :=
  let line := text ++ "\n"
  if target.toText = streamName then .ok (escaped line, files)
  else do
    let ready ← files.makeDirectories target.parent
    return ("", ← ready.writeText target line)

end TokenScopes
