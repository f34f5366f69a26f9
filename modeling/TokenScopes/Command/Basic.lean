import TokenScopes.Command.Arguments
import TokenScopes.File.Path

namespace TokenScopes

/-- Stands for the standard streams in the place of a file. -/
def streamName : String := "-"

structure CheckCommand where
  paths : List Path := []
  root : Path := Path.of "."
  configFile : Option Path := none
  rootScope : Option String := none
  stopOnMismatch : Option Bool := none
  report : Option Path := none
  quiet : Bool := false

structure NormalizeCommand where
  source : Path
  output : Path := Path.of streamName

inductive Command where
  | check (c : CheckCommand)
  | normalize (c : NormalizeCommand)

inductive CheckOption where
  | root
  | config
  | rootScope
  | stopOnMismatch
  | keepGoing
  | report
  | quiet

inductive NormalizeOption where
  | output

namespace CheckCommand

def options : List (OptionName CheckOption) := [
  { long := "--root", meaning := .root },
  { long := "--config", meaning := .config },
  { long := "--root-scope", meaning := .rootScope },
  { long := "--stop-on-mismatch", takesValue := false, meaning := .stopOnMismatch },
  { long := "--keep-going", takesValue := false, meaning := .keepGoing },
  { long := "--report", meaning := .report },
  { long := "--quiet", takesValue := false, meaning := .quiet }]

/-- The command with one more argument taken into account. The last of repeated options counts. -/
def add (c : CheckCommand) : Argument CheckOption → CheckCommand
  | .plain s => { c with paths := c.paths ++ [Path.of s] }
  | .value .root s => { c with root := Path.of s }
  | .value .config s => { c with configFile := some (Path.of s) }
  | .value .rootScope s => { c with rootScope := some s }
  | .value .report s => { c with report := some (Path.of s) }
  | .flag .stopOnMismatch => { c with stopOnMismatch := some true }
  | .flag .keepGoing => { c with stopOnMismatch := some false }
  | .flag .quiet => { c with quiet := true }
  | _ => c

def ofArguments (args : List String) : Except UsageFault CheckCommand := do
  let c := (← Argument.readAll options args).foldl add {}
  if c.paths.isEmpty then throw .missingArgument
  return c

end CheckCommand

namespace NormalizeCommand

def options : List (OptionName NormalizeOption) :=
  [{ long := "--output", short := some 'o', meaning := .output }]

def plain? : Argument NormalizeOption → Option String
  | .plain s => some s
  | _ => none

def output? : Argument NormalizeOption → Option Path
  | .value .output s => some (Path.of s)
  | _ => none

def ofArguments (args : List String) : Except UsageFault NormalizeCommand := do
  let given ← Argument.readAll options args
  let output := ((given.filterMap output?).getLast?).getD (Path.of streamName)
  match given.filterMap plain? with
  | [] => throw .missingArgument
  | [source] => return ⟨Path.of source, output⟩
  | _ :: extra :: _ => throw (.extraArgument extra)

end NormalizeCommand

namespace Command

def named (name : String) (args : List String) : Except UsageFault Command :=
  if name = "check" then (CheckCommand.ofArguments args).map .check
  else if name = "normalize" then (NormalizeCommand.ofArguments args).map .normalize
  else .error (.unknownCommand name)

/-- The command that a command line asks for. No options stand before its name. -/
def ofArguments : List String → Except UsageFault Command
  | [] => .error .noCommand
  | arg :: rest =>
    if arg = "--" then
      match rest with
      | [] => .error .noCommand
      | name :: args => named name args
    else if Argument.isOption arg then .error (.unknownOption arg)
    else named arg rest

end Command

end TokenScopes
