import TokenScopes.Checker.Case
import TokenScopes.File.Path
import TokenScopes.Fixture.Shape
import TokenScopes.Value.Key

namespace TokenScopes.Fixture

/-- Token data as a document states it, not yet checked for order. -/
structure TokenData where
  start : Int
  stop : Int
  scopes : List Text
  deriving DecidableEq

structure LineData where
  text : Text
  tokens : List TokenData
  deriving DecidableEq

structure CaseData where
  name : Option Text
  lines : List LineData
  spec : List Value

/-- Why a decoded document holds no cases. -/
inductive DocumentFault where
  | neitherMappingNorList
  | invalid (issues : List Shape.Issue)
  | badToken (index : Nat) (fault : TokenFault)

open Shape

def readToken : Value → Checked TokenData :=
  readRecord fun entries =>
    both (fun (start, stop) scopes => ⟨start, stop, scopes⟩)
      (both Prod.mk (required entries ["startIndex", "start"] readInt)
        (required entries ["endIndex", "end"] readInt))
      (optional entries "scopes" [] (readList readText))

def readLine : Value → Checked LineData :=
  readRecord fun entries =>
    both LineData.mk (required entries ["text"] readText)
      (optional entries "tokens" [] (readList readToken))

/-- An entry of a specification is any mapping with text keys. -/
def readSpecEntry : Value → Checked Value
  | .map entries =>
    (readEntries entries).map fun fields =>
      .ofFields (fields.foldl (fun acc (k, v) => Value.insertField acc k v) [])
  | _ => issue .dictType

def readCase : Value → Checked CaseData :=
  readRecord fun entries =>
    both (fun (name, lines) spec => ⟨name, lines, spec⟩)
      (both Prod.mk (optional entries "name" none readOptionalText)
        (required entries ["lines"] (readList readLine)))
      (required entries ["spec"] (readList readSpecEntry))

def readCases (cases : Value) : Checked (List CaseData) :=
  within "cases" (readList readCase cases)

/-- The list of cases that a payload stands for. -/
def casesOf : Value → Option Value
  | .list items => some (.list items)
  | .map entries => some ((Value.field? entries "cases").getD (.list [.map entries]))
  | _ => none

def tokenOf (d : TokenData) : Except TokenFault Token :=
  Token.ofOffsets d.start d.stop d.scopes

def lineOf (d : LineData) : Except TokenFault Line :=
  (d.tokens.mapM tokenOf).map (⟨d.text, ·⟩)

/-- A case takes its own name, or the default if that is empty. -/
def caseOf (path : Path) (default : Text) (d : CaseData) : Except TokenFault Case :=
  let name := match d.name with
    | some n => if n == "" then default else n
    | none => default
  (d.lines.mapM lineOf).map (⟨name, ·, d.spec, some path⟩)

/-- The name of a case without one: the stem of its file, numbered if there are several. -/
def defaultName (path : Path) (count index : Nat) : String :=
  if 1 < count then path.stem ++ "[" ++ toString index ++ "]" else path.stem

def casesFrom (path : Path) (count index : Nat) : List CaseData → Except DocumentFault (List Case)
  | [] => .ok []
  | d :: rest => do
    let c ← (caseOf path (defaultName path count index) d).mapError (.badToken index)
    return c :: (← casesFrom path count (index + 1) rest)

/-- The cases of a decoded document: all of them or none. -/
def cases (path : Path) (payload : Value) : Except DocumentFault (List Case) :=
  match casesOf payload with
  | none => .error .neitherMappingNorList
  | some list =>
    match readCases list with
    | .error issues => .error (.invalid issues)
    | .ok data => casesFrom path data.length 0 data

def issueText (i : Issue) : Text :=
  i.location ++ " [" ++ i.kind.label ++ "]"

end TokenScopes.Fixture

namespace TokenScopes

def Fixture.DocumentFault.message : Fixture.DocumentFault → Text
  | .neitherMappingNorList => "fixture must be a mapping or a list of cases"
  | .invalid issues => "fixture invalid: " ++ Text.intercalate "; " (issues.map Fixture.issueText)
  | .badToken index fault => "case " ++ toString index ++ ": " ++ fault.message

end TokenScopes
