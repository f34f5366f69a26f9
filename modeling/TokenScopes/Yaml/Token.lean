import TokenScopes.Yaml.Fault

namespace TokenScopes.Yaml

/-- Block collections, which the text shows by indentation only, start and end with tokens of their
own. -/
inductive Token where
  | versionDirective (major : Nat)
  | tagDirective (handle start : String)
  | otherDirective
  | documentStart
  | documentEnd
  | blockSequenceStart
  | blockMappingStart
  | blockEnd
  | flowSequenceStart
  | flowSequenceEnd
  | flowMappingStart
  | flowMappingEnd
  | blockEntry
  | flowEntry
  | key
  | value
  | alias (name : String)
  | anchor (name : String)
  /-- A tag; without a handle the suffix is the whole tag. -/
  | tag (handle : Option String) (suffix : String)
  | scalar (text : Text) (plain : Bool)
  | streamEnd
  /-- The text goes on, but not with a token. -/
  | fault (f : Fault)

end TokenScopes.Yaml
