import Mathlib.Tactic.SplitIfs
import TokenScopes.Fixture.Load
import TokenScopes.Proofs.Json.LongNumber
import TokenScopes.Proofs.Yaml.Construction
import TokenScopes.Proofs.Yaml.Lexical
import TokenScopes.Proofs.Yaml.Parser

namespace TokenScopes

/-- What in a YAML text has no value: an escape beyond the characters, a version number of too many
digits, or something among the nodes of its document. -/
inductive Yaml.Strays (cs : List Char) : Yaml.Fault → Prop
  | escape {code : Nat} (token : .fault (.codePoint code) ∈ tokenize cs)
    (beyond : 0x110000 ≤ code) : Strays cs (.codePoint code)
  | version {digits : Nat} (token : .fault (.integerTooLong digits) ∈ tokenize cs)
    (long : Decimal.digitLimit < digits) : Strays cs (.integerTooLong digits)
  | node {d : Document} {f : Fault} (parsed : Document.ofTokens (tokenize cs) = .ok (some d))
    (strays : Nodes.Strays d.nodes f) : Strays cs f

namespace Fixture

/-- What in the text of a file has no value. -/
inductive Strays (p : Path) (text : String) : ScalarFault → Prop
  | yaml {f : Yaml.Fault} (format : isYaml p = true) (strays : Yaml.Strays text.toList f) :
    Strays p text (.yaml f)
  | json {digits : Nat} (format : isYaml p = false) (run : Json.HasLongRun text.toList) :
    Strays p text (.numberTooLong digits)

variable (fs : FileSystem)

end Fixture

end TokenScopes
