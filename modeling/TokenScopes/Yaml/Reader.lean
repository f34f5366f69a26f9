import TokenScopes.Yaml.Construction
import TokenScopes.Yaml.Node.Parser
import TokenScopes.Yaml.Token.Lexer

namespace TokenScopes.Yaml

/-- The value of a text that is one document; an empty text has the value null. -/
def readChars (cs : List Char) : Except Fault Value :=
  if !cs.all isAllowed then .error .malformed
  else do
    match ← Document.ofTokens (tokenize cs) with
    | none => return .null
    | some d => d.toValue

def read (s : String) : Except Fault Value :=
  readChars s.toList

end TokenScopes.Yaml
