import TokenScopes.Checker.Config
import TokenScopes.File.System
import TokenScopes.Toml.Reader

namespace TokenScopes

structure ConfigPlace where
  root : Path := Path.of "."
  /-- The file that was asked for. -/
  file : Option Path := none
  /-- The value of the environment variable. -/
  environment : Option String := none

/-- Why a file says nothing that could be passed over. -/
inductive ConfigFileFault where
  | encoding (fault : Text.Utf8Fault)
  /-- An integer of too many digits. -/
  | numberTooLong (digits : Nat)

inductive SettingsFault where
  | file (fault : ConfigFileFault)
  | config (fault : ConfigFault)

def ConfigFileFault.message : ConfigFileFault → String
  | .encoding f => f.message
  | .numberTooLong digits => Decimal.tooLongMessage digits

def ConfigFault.message : ConfigFault → String
  | .blankRoot _ => "root scope must be a non-empty string"
  | .suffixesNotIterable kind => "'" ++ kind ++ "' object is not iterable"

namespace ConfigPlace

def environmentName : String := "SCOPECHECK_CONFIG"
def fileName : String := "scopecheck.toml"
def sectionKey : String := "checker"

/-- The file that is read: the one asked for, else the one the environment names, else the one of
the usual name under the root. -/
def path (place : ConfigPlace) : Path :=
  match place.file with
  | some p => p
  | none =>
    let named := String.ofList (Text.trimmed (place.environment.getD "").toList)
    if named == "" then place.root.child fileName else Path.of named

/-- What the file says. One that is missing or malformed says nothing. -/
def load (place : ConfigPlace) (fs : FileSystem) :
    Except ConfigFileFault (List (Value × Value)) :=
  match fs.readText place.path with
  | .error (.path _) => .ok []
  | .error (.encoding f) => .error (.encoding f)
  | .ok text =>
    match Toml.read text with
    | .ok entries => .ok entries
    | .error .malformed => .ok []
    | .error (.numberTooLong n) => .error (.numberTooLong n)

def loadSection (place : ConfigPlace) (fs : FileSystem) :
    Except ConfigFileFault (List (Value × Value)) := do
  match Value.field? (← place.load fs) sectionKey with
  | some (.map entries) => return entries
  | _ => return []

/-- The configuration that follows from the file and from overriding entries. -/
def resolve (place : ConfigPlace) (fs : FileSystem) (overrides : List (Value × Value)) :
    Except SettingsFault Config := do
  let entries ← (place.loadSection fs).mapError .file
  (Config.ofSection (.map (Config.merge overrides entries))).mapError .config

end ConfigPlace

end TokenScopes
