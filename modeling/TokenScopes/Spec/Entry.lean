import TokenScopes.Scope.Name
import TokenScopes.Value.Display
import TokenScopes.Value.Key

namespace TokenScopes

/-- The fields of an entry, their keys turned to text. -/
abbrev Fields := List (Text × Value)

namespace Fields

def get? (fields : Fields) (key : Text) : Option Value :=
  (fields.find? (·.1 == key)).map Prod.snd

def has (fields : Fields) (key : Text) : Bool :=
  fields.any (·.1 == key)

/-- The value under the first key that is present. -/
def firstOf? (fields : Fields) (keys : List Text) : Option Value :=
  keys.findSome? fields.get?

/-- A mapping's entries with their keys as texts; keys of one text become one field. -/
def ofEntries (entries : List (Value × Value)) : Fields :=
  entries.foldl (fun fields (k, v) => Value.insertField fields k.display v) []

end Fields

inductive EntryFault where
  | notMapping (kind : String)
  | notText (field kind : String)
  | notList (field : String)
  | notName (field kind : String)
  | unrecognised

structure SpecFault where
  index : Int
  cause : EntryFault

def EntryFault.message : EntryFault → String
  | .notMapping kind => "expected a mapping, got " ++ kind
  | .notText field kind => field ++ " must be a string, got " ++ kind
  | .notList field => field ++ " must be a list of scope names"
  | .notName field kind => field ++ " entries must be strings, got " ++ kind
  | .unrecognised => "entry has neither structured nor legacy fields"

def SpecFault.message (f : SpecFault) : String :=
  "spec entry " ++ toString f.index ++ ": " ++ f.cause.message

/-- A structured entry names its text and scopes; a legacy entry has a literal and one string of
tags, the first of which is a root marker. -/
inductive Entry where
  | legacy (literal tags : Text) (fields : Fields)
  | structured (fields : Fields)

/-- A span with the fields of the entry that declared it. -/
structure DeclaredSpan where
  span : Span
  fields : Fields

namespace Entry

def sourceKeys : List Text := ["source", "sourceText"]
def opensKeys : List Text := ["scopesBegin", "scopesOpened"]
def closesKeys : List Text := ["scopesEnd", "scopesClosed"]
def scopesKey : String := "scopes"
def literalKey : String := "c"
def tagsKey : String := "t"

def structuredKeys : List Text :=
  (scopesKey : Text) :: sourceKeys ++ opensKeys ++ closesKeys

/-- A text field; absent and null count as empty. -/
def readText (field : String) : Option Value → Except EntryFault Text
  | none | some .null => .ok ""
  | some (.text s) => .ok s
  | some v => .error (.notText field v.kindName)

def readNames (field : String) : List Value → Except EntryFault (List Text)
  | [] => .ok []
  | .text s :: rest => (readNames field rest).map (s :: ·)
  | v :: _ => .error (.notName field v.kindName)

/-- A field of scope names; absent and null count as empty. -/
def readScopes (field : String) : Option Value → Except EntryFault (List Text)
  | none | some .null => .ok []
  | some (.list items) | some (.tuple items) => readNames field items
  | some _ => .error (.notList field)

/-- Decides the form of an entry by the fields it has. -/
def classify (v : Value) : Except EntryFault Entry :=
  match v with
  | .map entries =>
    let fields := Fields.ofEntries entries
    if structuredKeys.any fields.has then .ok (.structured fields)
    else if fields.has literalKey then do
      let literal ← readText literalKey (fields.get? literalKey)
      let tags ← readText tagsKey (fields.get? tagsKey)
      return .legacy literal tags fields
    else .error .unrecognised
  | _ => .error (.notMapping v.kindName)

/-- Entries with a blank literal stand for white space, which is never checked. -/
def isPlaceholder : Entry → Bool
  | .legacy literal _ _ => Text.allBlank literal.toList
  | .structured fields =>
    match fields.get? literalKey with
    | some (.text s) => Text.allBlank s.toList
    | _ => false

/-- The text of a structured entry: its source, or else its literal. -/
def sourceOf (fields : Fields) : Option Value :=
  match fields.firstOf? sourceKeys with
  | none | some .null => fields.get? literalKey
  | some v => some v

def toSpan : Entry → Except EntryFault DeclaredSpan
  | .legacy literal tags fields =>
    .ok ⟨{ source := literal, scopes := Scope.ofTagString tags }, fields⟩
  | .structured fields => do
    let source ← readText "source" (sourceOf fields)
    let opens ← readScopes "scopesBegin" (fields.firstOf? opensKeys)
    let scopes ← readScopes scopesKey (fields.get? scopesKey)
    let closes ← readScopes "scopesEnd" (fields.firstOf? closesKeys)
    return ⟨⟨source, opens, scopes, closes⟩, fields⟩

end Entry

end TokenScopes
