import TokenScopes.Diagnostic

namespace TokenScopes

/-- The log of one run. Each diagnostic is kept, with the number of the current line if it has none
of its own, and its lines are echoed at once when somebody listens. -/
structure DiagnosticLog where
  /-- Whether lines are echoed. -/
  echoes : Bool
  line : Option Int := none
  entries : List Diagnostic := []
  echoed : List Text := []

namespace DiagnosticLog

def stamp (log : DiagnosticLog) (d : Diagnostic) : Diagnostic :=
  match d.lineNumber with
  | some _ => d
  | none => { d with lineNumber := log.line }

def record (log : DiagnosticLog) (d : Diagnostic) : DiagnosticLog :=
  let kept := log.stamp d
  { log with
    entries := log.entries ++ [kept]
    echoed := if log.echoes then log.echoed ++ kept.render else log.echoed }

def recordAll (log : DiagnosticLog) (ds : List Diagnostic) : DiagnosticLog :=
  ds.foldl record log

def atLine (log : DiagnosticLog) (line : Option Int) : DiagnosticLog :=
  { log with line }

/-- Whether anything was found; mismatches of the stack count only on demand. -/
def hasErrors (log : DiagnosticLog) (countStack : Bool) : Bool :=
  log.entries.any fun d => countStack || d.kind != .stackDiscipline

end DiagnosticLog

end TokenScopes
