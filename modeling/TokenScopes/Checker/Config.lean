import TokenScopes.Scope.Name
import TokenScopes.Value.Key

namespace TokenScopes

structure Config where
  rootScope : Text := Scope.rootName
  suffixes : List Text := Scope.defaultSuffixes
  stopOnMismatch : Bool := true
  failOnStackError : Bool := true
  deriving DecidableEq

inductive ConfigFault where
  /-- The root scope is not a text, or is blank. -/
  | blankRoot (given : Value)
  | suffixesNotIterable (kind : String)

namespace Config

def rootKey : String := "root_scope"
def suffixesKey : String := "decoration_suffixes"
def stopKey : String := "stop_on_mismatch"
def failKey : String := "fail_on_stack_error"

/-- A configuration with a trimmed root scope, which may not be blank. -/
def of (root : Text) (suffixes : List Text) (stop fail : Bool) : Except ConfigFault Config :=
  if Text.allBlank root.toList then .error (.blankRoot (.text root))
  else .ok ⟨Text.trim root, suffixes, stop, fail⟩

/-- The trimmed parts of a text between commas, without the empty ones. -/
def namesIn (s : Text) : List Text :=
  (((Text.splitOn (.char ',') s.toList).map Text.trimChars).filter (!·.isEmpty)).map Text.ofList

def namesOfItem : Value → List Text
  | .text s => namesIn s
  | _ => []

/-- The names in a text, or in the texts of a collection; anything else has none. -/
def namesOf : Value → List Text
  | .text s => namesIn s
  | .list items | .tuple items | .set items => items.flatMap namesOfItem
  | _ => []

def trueWords : List String := ["1", "true", "yes", "on"]

/-- A switch: a truth value, an integer other than zero, or a word for yes. -/
def switch (v : Option Value) (default : Bool) : Bool :=
  match v with
  | some (.bool b) => b
  | some (.int i) => i != 0
  | some (.text s) =>
    trueWords.contains (String.ofList ((Text.trim s).chars.map Char.toLower))
  | _ => default

def rootOf : Option Value → Text
  | some (.text s) => s
  | _ => Scope.rootName

def suffixesOf : Option Value → List Text
  | none | some .null => Scope.defaultSuffixes
  | some v => namesOf v

/-- The configuration that a section describes; a value that is no mapping describes the default.
The reader is lenient: a field of another kind counts as absent or as a reasonable default. -/
def ofSection : Value → Except ConfigFault Config
  | .map entries =>
    let field := Value.field? entries
    of (rootOf (field rootKey)) (suffixesOf (field suffixesKey)) (switch (field stopKey) true)
      (switch (field failKey) true)
  | _ => of Scope.rootName Scope.defaultSuffixes true true

def toValue (c : Config) : Value :=
  .ofFields [(rootKey, .text c.rootScope), (suffixesKey, .ofTexts c.suffixes),
    (stopKey, .bool c.stopOnMismatch), (failKey, .bool c.failOnStackError)]

/-- The entries of `defaults`, overridden by those of `changes` that are not null. -/
def merge (changes defaults : List (Value × Value)) : List (Value × Value) :=
  Value.insertAll defaults (changes.filter fun (_, v) => !v.isNull)

end Config

/-- The fields of a configuration that was written down field by field, kept as they were given. -/
structure DeclaredConfig where
  rootScope : Text
  suffixes : List Value
  stopOnMismatch : Value
  failOnStackError : Value

namespace DeclaredConfig

/-- Fields that are absent have their defaults. -/
def ofFields (entries : List (Value × Value)) : Except ConfigFault DeclaredConfig := do
  let field (key : String) (default : Value) := (Value.field? entries key).getD default
  let root ← match field Config.rootKey (.text Scope.rootName) with
    | .text s => (Config.of s [] true true).map (·.rootScope)
    | v => throw (.blankRoot v)
  let given := field Config.suffixesKey (.ofTexts Scope.defaultSuffixes)
  let suffixes ← match given.elements? with
    | some items => pure items
    | none => throw (.suffixesNotIterable given.operandName)
  return ⟨root, suffixes, field Config.stopKey (.bool true), field Config.failKey (.bool true)⟩

/-- Whether a value counts as true: zero and empty ones do not. -/
def holds : Value → Bool
  | .null => false
  | .bool b => b
  | .int i => i != 0
  | .float x => x.isNaN || x.significand != 0
  | .text s => s != ""
  | .bytes bs => !bs.isEmpty
  | .list items | .tuple items | .set items => !items.isEmpty
  | .map entries => !entries.isEmpty
  | _ => true

/-- The configuration that a check uses. -/
def effective (d : DeclaredConfig) : Config where
  rootScope := d.rootScope
  suffixes := d.suffixes.filterMap fun v => match v with | .text s => some s | _ => none
  stopOnMismatch := holds d.stopOnMismatch
  failOnStackError := holds d.failOnStackError

def toValue (d : DeclaredConfig) : Value :=
  .ofFields [(Config.rootKey, .text d.rootScope), (Config.suffixesKey, .list d.suffixes),
    (Config.stopKey, d.stopOnMismatch), (Config.failKey, d.failOnStackError)]

end DeclaredConfig

end TokenScopes
