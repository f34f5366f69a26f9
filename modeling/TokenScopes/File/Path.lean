import TokenScopes.Text.Basic

namespace TokenScopes

/-- A path in a normal form, without empty parts and without `.`; the parts `..` stay. -/
structure Path where
  /-- Empty for a relative path, else one slash or two. -/
  anchor : String
  parts : List String
  deriving DecidableEq

namespace Path

def anchorOf : List Char → String
  | '/' :: '/' :: '/' :: _ => "/"
  | '/' :: '/' :: _ => "//"
  | '/' :: _ => "/"
  | _ => ""

def of (s : String) : Path where
  anchor := anchorOf s.toList
  parts := ((Text.splitOn '/' s.toList).map String.ofList).filter fun p => p != "" && p != "."

def toText (p : Path) : String :=
  if p.anchor = "" && p.parts.isEmpty then "." else p.anchor ++ "/".intercalate p.parts

def child (p : Path) (name : String) : Path :=
  { p with parts := p.parts ++ [name] }

def parent (p : Path) : Path :=
  { p with parts := p.parts.dropLast }

def name (p : Path) : String :=
  p.parts.getLast?.getD ""

/-- A name cut before its last dot. A dot at either end of the name cuts nothing. -/
def splitName (name : List Char) : List Char × List Char :=
  let reversed := name.reverse
  let after := reversed.takeWhile (· != '.')
  match reversed.dropWhile (· != '.') with
  | _ :: before =>
    if before.isEmpty || after.isEmpty then (name, []) else (before.reverse, '.' :: after.reverse)
  | [] => (name, [])

def stem (p : Path) : String :=
  String.ofList (splitName p.name.toList).1

/-- The end of the name from its last dot on, in lower case. -/
def lowerSuffix (p : Path) : String :=
  String.ofList ((splitName p.name.toList).2.map Char.toLower)

/-- Paths are ordered part by part. -/
def before (p q : Path) : Bool :=
  !decide (q.anchor :: q.parts < p.anchor :: p.parts)

end Path

end TokenScopes
