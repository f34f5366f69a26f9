import TokenScopes.Value.Basic

namespace TokenScopes.Value

/-- The number a value denotes, if it is one. -/
inductive Numeric where
  | exact (i : Int)
  | binary (x : Binary64)

def numeric? : Value → Option Numeric
  | .bool b => some (.exact (if b then 1 else 0))
  | .int i => some (.exact i)
  | .float x => some (.binary x)
  | _ => none

def Numeric.same : Numeric → Numeric → Bool
  | .exact i, .exact j => i == j
  | .exact i, .binary x | .binary x, .exact i => x.equalsInt i
  | .binary x, .binary y => x.equal y

def sameScalar (a b : Value) : Bool :=
  match a.numeric?, b.numeric? with
  | some x, some y => x.same y
  | some _, none | none, some _ => false
  | none, none =>
    match a, b with
    | .null, .null => true
    | .text s, .text t => s == t
    | .bytes s, .bytes t => s == t
    | .date s, .date t => s == t
    | .time s, .time t => s == t
    | .dateTime s, .dateTime t => s.sameMoment t
    | .span s, .span t => s == t
    | _, _ => false

mutual

/-- The same key. Numbers are compared by what they denote, so `true`, `1` and `1.0` are one key. -/
def sameKey : Value → Value → Bool
  | .tuple xs, .tuple ys => sameKeys xs ys
  | .null, b => sameScalar .null b
  | .bool x, b => sameScalar (.bool x) b
  | .int x, b => sameScalar (.int x) b
  | .float x, b => sameScalar (.float x) b
  | .text x, b => sameScalar (.text x) b
  | .bytes x, b => sameScalar (.bytes x) b
  | .date x, b => sameScalar (.date x) b
  | .time x, b => sameScalar (.time x) b
  | .dateTime x, b => sameScalar (.dateTime x) b
  | .span x, b => sameScalar (.span x) b
  | _, _ => false

def sameKeys : List Value → List Value → Bool
  | [], [] => true
  | x :: xs, y :: ys => sameKey x y && sameKeys xs ys
  | _, _ => false

end

mutual

/-- Only values that cannot change serve as keys. -/
def isKey : Value → Bool
  | .list _ | .set _ | .map _ => false
  | .tuple items => areKeys items
  | _ => true

def areKeys : List Value → Bool
  | [] => true
  | v :: vs => isKey v && areKeys vs

end

/-- Puts a value under a key. A later entry for a key replaces the value of the first and leaves its
key and place. -/
def insert (key value : Value) : List (Value × Value) → List (Value × Value)
  | [] => [(key, value)]
  | (k, v) :: rest =>
    if sameKey k key then (k, value) :: rest else (k, v) :: insert key value rest

/-- The entries that repeated insertion leaves. -/
def insertAll (entries : List (Value × Value)) (more : List (Value × Value)) :
    List (Value × Value) :=
  more.foldl (fun acc (k, v) => insert k v acc) entries

def distinct (items : List Value) : List Value :=
  items.foldl (fun acc v => if acc.any (sameKey v) then acc else acc ++ [v]) []

/-- Adds an entry with a text key to entries whose keys are texts. -/
def insertField (fields : List (Text × Value)) (key : Text) (value : Value) :
    List (Text × Value) :=
  match fields with
  | [] => [(key, value)]
  | (k, v) :: rest => if k = key then (k, value) :: rest else (k, v) :: insertField rest key value

end TokenScopes.Value
