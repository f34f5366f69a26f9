import TokenScopes.Yaml.Timestamp

namespace TokenScopes.Yaml

inductive Tag where
  | null
  | bool
  | int
  | float
  | binary
  | timestamp
  | omap
  | pairs
  | set
  | str
  | seq
  | map
  | merge
  | value
  /-- A tag without a meaning here. -/
  | unknown
  deriving DecidableEq

namespace Tag

/-- What the handle of two exclamation marks stands for. -/
def standardStart : String := "tag:yaml.org,2002:"

def names : List (String × Tag) :=
  [("null", .null), ("bool", .bool), ("int", .int), ("float", .float), ("binary", .binary),
    ("timestamp", .timestamp), ("omap", .omap), ("pairs", .pairs), ("set", .set), ("str", .str),
    ("seq", .seq), ("map", .map), ("merge", .merge), ("value", .value)]

def ofText (s : String) : Tag :=
  match names.find? fun (name, _) => standardStart ++ name == s with
  | some (_, tag) => tag
  | none => .unknown

end Tag

/-- A word in lower case, with a capital, or in capitals. -/
def isCasedWord (word : String) (cs : List Char) : Bool :=
  let lower := word.toList
  let capital := match lower with
    | c :: rest => c.toUpper :: rest
    | [] => []
  cs == lower || cs == capital || cs == lower.map Char.toUpper

def trueWords : List String := ["yes", "true", "on"]
def falseWords : List String := ["no", "false", "off"]

def isTruth (cs : List Char) : Bool :=
  (trueWords ++ falseWords).any (isCasedWord · cs)

def unsigned : List Char → List Char
  | '+' :: cs | '-' :: cs => cs
  | cs => cs

def isGrouped (p : Char → Bool) (cs : List Char) : Bool :=
  cs.all fun c => p c || c == '_'

/-- A digit, then digits and underscores. -/
def startsWithDigit : List Char → Bool
  | c :: cs => c.isDigit && isGrouped Char.isDigit cs
  | [] => false

/-- A number of minutes or seconds below sixty. -/
def isSixtieth : List Char → Bool
  | [c] => c.isDigit
  | [c, d] => '0' ≤ c && c ≤ '5' && d.isDigit
  | _ => false

/-- Numbers with colons: a number and at least one part below sixty. -/
def isSexagesimal (cs : List Char) : Bool :=
  match Text.splitOn ':' cs with
  | first :: part :: parts => startsWithDigit first && (part :: parts).all isSixtieth
  | _ => false

def isOctalDigit (c : Char) : Bool :=
  '0' ≤ c && c ≤ '7'

def isInteger (cs : List Char) : Bool :=
  match unsigned cs with
  | ['0'] => true
  | '0' :: 'b' :: ds => !ds.isEmpty && isGrouped (fun c => c == '0' || c == '1') ds
  | '0' :: 'x' :: ds => !ds.isEmpty && isGrouped (fun c => (Text.hexDigit? c).isSome) ds
  | '0' :: ds => !ds.isEmpty && isGrouped isOctalDigit ds
  | cs => startsWithDigit cs || isSexagesimal cs

/-- Nothing, or an exponent with its sign. -/
def isSignedExponent : List Char → Bool
  | [] => true
  | e :: sign :: ds =>
    (e == 'e' || e == 'E') && (sign == '+' || sign == '-') && !ds.isEmpty && ds.all Char.isDigit
  | _ => false

/-- Digits and underscores up to an exponent. -/
def isFraction (cs : List Char) : Bool :=
  isSignedExponent (cs.dropWhile fun c => c.isDigit || c == '_')

def isPointNumber (cs : List Char) : Bool :=
  match (unsigned cs).span (· != '.') with
  | (whole, '.' :: fraction) =>
    (startsWithDigit whole && isFraction fraction) ||
      (isSexagesimal whole && isGrouped Char.isDigit fraction)
  | _ => false

def isFloat (cs : List Char) : Bool :=
  isPointNumber cs ||
    (match cs with
      | '.' :: c :: rest => (c.isDigit && isFraction rest) || isCasedNaN (c :: rest)
      | _ => false) ||
    (match unsigned cs with
      | '.' :: rest => isCasedWord "inf" rest
      | _ => false)
where
  isCasedNaN (cs : List Char) : Bool :=
    cs == "nan".toList || cs == "NaN".toList || cs == "NAN".toList

def isNullText (cs : List Char) : Bool :=
  cs.isEmpty || cs == ['~'] || isCasedWord "null" cs

/-- The tag that a plain scalar has by its looks. The last line end of the text does not count. -/
def Tag.ofPlain (cs : List Char) : Tag :=
  let body := if 1 < cs.length && cs.getLast? == some '\n' then cs.dropLast else cs
  if isTruth body then .bool
  else if isFloat body then .float
  else if isInteger body then .int
  else if body == ['<', '<'] then .merge
  else if isNullText body then .null
  else if isTimestamp body then .timestamp
  else if body == ['='] then .value
  else if body == ['!'] || body == ['&'] || body == ['*'] then .unknown
  else .str

end TokenScopes.Yaml
