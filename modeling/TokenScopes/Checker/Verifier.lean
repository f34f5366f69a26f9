import TokenScopes.Checker.Config
import TokenScopes.Checker.Cursor
import TokenScopes.DiagnosticLog
import TokenScopes.Token

namespace TokenScopes

/-- Takes the tokens of a run one by one and holds each against the next span. -/
structure Verifier where
  config : Config
  cursor : Cursor
  log : DiagnosticLog
  tokensChecked : Nat := 0

namespace Verifier

def start (config : Config) (spans : List Span) (echoes : Bool) : Verifier where
  config := config
  cursor := .start spans config.rootScope
  log := { echoes }

def failed (v : Verifier) : Bool :=
  v.log.hasErrors v.config.failOnStackError

def record (v : Verifier) (d : Diagnostic) : Verifier :=
  { v with log := v.log.record d }

/-- Takes over a cursor with the mismatches that came on the way to it. -/
def moveTo (v : Verifier) (step : Cursor × List CloseMismatch) : Verifier :=
  { v with cursor := step.1, log := v.log.recordAll (step.2.map Diagnostic.ofCloseMismatch) }

def flush (v : Verifier) : Verifier :=
  v.moveTo v.cursor.flush

/-- Holds the scopes of a token against those of its span. -/
def checkScopes (v : Verifier) (span : Span) (source : Text) (scopes : List Text) :
    Bool × Verifier :=
  let root := v.config.rootScope
  let suffixes := v.config.suffixes
  let expected := Scope.withoutRoot root (v.cursor.stack.pathOn suffixes span)
  let actual := Scope.withoutRoot root (Scope.stripDecorations suffixes scopes)
  let passed := v.moveTo (v.cursor.pass span)
  if expected = actual then (true, passed)
  else (false, passed.record (.wrongScopes source expected actual))

/-- Holds a token that is not blank against the front span. -/
def checkText (v : Verifier) (source : Text) (scopes : List Text) : Bool × Verifier :=
  let counted := { v with tokensChecked := v.tokensChecked + 1, cursor := v.cursor.advance }
  match v.cursor.peek? with
  | none => (false, counted.record (.exhausted source))
  | some span =>
    if span.source = source then counted.checkScopes span source scopes
    else (false, counted.record (.wrongText source span.source))

/-- Checks one token of a line. A blank token matches anything and takes no span. -/
def check (v : Verifier) (line : Text) (token : Token) : Bool × Verifier :=
  let source := token.textOn line
  if Text.allBlank source.toList then (true, v.flush)
  else v.flush.checkText source token.scopes

/-- The last diagnostic tells of wrong scopes, so spans and tokens are still aligned. -/
def isAligned (v : Verifier) : Bool :=
  v.log.entries.getLast?.map (·.kind) == some .scopeMismatch

/-- Checks tokens up to the first that is rejected; or, when told to go on, up to the first after
which spans and tokens are no longer aligned. -/
def checkTokens (v : Verifier) (line : Text) (stopAtFirst : Bool) :
    List Token → Bool × Verifier
  | [] => (true, v)
  | token :: rest =>
    match v.check line token with
    | (true, next) => next.checkTokens line stopAtFirst rest
    | (false, next) =>
      if stopAtFirst || !next.isAligned then (false, next)
      else (false, (next.checkTokens line stopAtFirst rest).2)

def atLine (v : Verifier) (number : Option Int) : Verifier :=
  { v with log := v.log.atLine number }

/-- Checks the tokens of one line, whose number the diagnostics carry. -/
def checkLine (v : Verifier) (line : Text) (tokens : List Token) (number : Option Int)
    (stopAtFirst : Bool) : Bool × Verifier :=
  let (passed, after) := (v.atLine number).checkTokens line stopAtFirst tokens
  (passed, after.atLine none)

/-- Passes the spans without text at the front and reports the texts that are left. -/
def finish (v : Verifier) : Bool × Verifier :=
  let flushed := v.flush
  match (flushed.cursor.remaining.filter (!·.isZeroWidth)).map (·.source) with
  | [] => (true, flushed)
  | first :: rest => (false, flushed.record (.unconsumed first rest))

end Verifier

end TokenScopes
