import TokenScopes.Text.Blank

namespace TokenScopes.Scope

def rootName : Text := "source"

/-- The markers that grammars decorate their names with at the end. -/
def defaultSuffixes : List Text := ["c", "cpp", "objc", "objcpp"]

/-- What stays of the text after a dot when that text is a decoration: nothing, or the newline
that may end it. The whole text is tried first, so the longer of two suffixes goes. -/
def afterDecoration? (suffixes : List Text) (rest : List CodePoint) : Option (List CodePoint) :=
  let isSuffix (cs : List CodePoint) : Bool := !cs.isEmpty && suffixes.contains (Text.ofList cs)
  if isSuffix rest then some []
  else if rest.getLast? = some (.char '\n') && isSuffix rest.dropLast then some ['\n']
  else none

def stripChars (suffixes : List Text) : List CodePoint → List CodePoint
  | [] => []
  | c :: cs =>
    match if c = '.' then afterDecoration? suffixes cs else none with
    | some kept => kept
    | none => c :: stripChars suffixes cs

def isDecoratedChars (suffixes : List Text) : List CodePoint → Bool
  | [] => false
  | c :: cs =>
    (c == '.' && (afterDecoration? suffixes cs).isSome) || isDecoratedChars suffixes cs

/-- The name without its decoration. The leftmost dot that starts one decides. -/
def stripDecoration (suffixes : List Text) (name : Text) : Text :=
  Text.ofList (stripChars suffixes name.toList)

def isDecorated (suffixes : List Text) (name : Text) : Bool :=
  isDecoratedChars suffixes name.toList

def stripDecorations (suffixes : List Text) (names : List Text) : List Text :=
  names.map (stripDecoration suffixes)

/-- The path without the entries that are the root marker. -/
def withoutRoot (root : Text) (path : List Text) : List Text :=
  path.filter (· != root)

/-- The scopes of a tag string, whose first word is a root marker. -/
def ofTagString (tags : Text) : List Text :=
  (Text.words tags).drop 1

end TokenScopes.Scope
