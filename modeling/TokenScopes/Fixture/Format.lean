import TokenScopes.File.Path
import TokenScopes.Json.Reader
import TokenScopes.Yaml.Reader

namespace TokenScopes.Fixture

/-- Why a well-formed text has no value: one of its scalars is none. -/
inductive ScalarFault where
  | yaml (fault : Yaml.Fault)
  /-- A JSON number of too many digits. -/
  | numberTooLong (digits : Nat)

def ScalarFault.message : ScalarFault → String
  | .yaml f => f.message
  | .numberTooLong digits => Decimal.tooLongMessage digits

inductive DecodeFault where
  /-- The text does not follow its format, for the reason that is given. -/
  | malformed (reason : String)
  | scalar (fault : ScalarFault)

def yamlSuffixes : List String := [".yaml", ".yml"]
def jsonSuffixes : List String := [".json"]

def isYaml (path : Path) : Bool :=
  yamlSuffixes.contains path.lowerSuffix

/-- A file that is taken for a fixture when a directory is searched. -/
def hasFixtureSuffix (path : Path) : Bool :=
  (jsonSuffixes ++ yamlSuffixes).contains path.lowerSuffix

def decodeYaml (text : String) : Except DecodeFault Value :=
  match Yaml.read text with
  | .ok v => .ok v
  | .error .malformed => .error (.malformed Yaml.Fault.malformed.message)
  | .error f => .error (.scalar (.yaml f))

def decodeJson (text : String) : Except DecodeFault Value :=
  match Json.read text with
  | .ok v => .ok v
  | .error (.malformed p left) => .error (.malformed (p.messageAt text.toList left))
  | .error (.numberTooLong n) => .error (.scalar (.numberTooLong n))

def decode (path : Path) (text : String) : Except DecodeFault Value :=
  if isYaml path then decodeYaml text else decodeJson text

end TokenScopes.Fixture
