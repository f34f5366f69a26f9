import TokenScopes.Command.Check
import TokenScopes.Command.Normalize

namespace TokenScopes.Command

def run (around : Surroundings) : Command → Except CommandFault Outcome
  | .check c => c.run around
  | .normalize c => c.run around

/-- Files and directories whose whole content a command may look at. -/
def sources : Command → List Path
  | .check c => c.paths
  | .normalize c => [c.source]

/-- Files that a command may look at, or write. -/
def others (environment : Option String) : Command → List Path
  | .check c => (c.configPlace environment).path :: c.report.toList
  | .normalize c => [c.output]

def readsInput : Command → Bool
  | .check _ => false
  | .normalize c => c.source.toText == streamName

end TokenScopes.Command
