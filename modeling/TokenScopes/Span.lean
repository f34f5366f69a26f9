import TokenScopes.Text.Basic

namespace TokenScopes

/-- One step of a specification. The scopes in `opens` are entered before the text, those in
`closes` are left after it, and `scopes` hold for the text alone. -/
structure Span where
  source : Text := ""
  opens : List Text := []
  scopes : List Text := []
  closes : List Text := []
  deriving DecidableEq, Inhabited

/-- A span without text only changes the scope stack. -/
def Span.isZeroWidth (s : Span) : Bool :=
  s.source == ""

end TokenScopes
