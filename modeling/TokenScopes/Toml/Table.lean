import TokenScopes.Value.Basic

namespace TokenScopes.Toml

/-- What a key stands for. A table is defined in one section only, by its header or by dotted keys.
-/
inductive Item where
  | value (v : Value)
  /-- A table, with the section that defined it. One that only lies on the way to another has not
  been defined yet. -/
  | table (definedIn : Option Nat) (entries : List (String × Item))
  /-- A list of tables, the last of which may still grow. -/
  | tables (earlier : List (List (String × Item))) (last : List (String × Item))

abbrev Entries := List (String × Item)

namespace Entries

def put (key : String) (item : Item) : Entries → Entries
  | [] => [(key, item)]
  | (k, old) :: rest => if k = key then (key, item) :: rest else (k, old) :: put key item rest

/-- Assigns a value to a dotted key. The tables on the way are defined by the section of the
assignment, and no earlier one; nothing is assigned twice. -/
def assign (number : Nat) (v : Value) : List String → Entries → Option Entries
  | [], _ => none
  | [key], es => if (es.lookup key).isSome then none else some (put key (.value v) es)
  | key :: path, es =>
    let assignIn (inner : Entries) : Option Entries :=
      (assign number v path inner).map fun after => put key (.table (some number) after) es
    match es.lookup key with
    | none => assignIn []
    | some (.table definedIn inner) => if definedIn.any (· < number) then none else assignIn inner
    | some _ => none

/-- Changes the table that a path of keys leads to. Missing tables are made, and a list of tables
stands for its last. -/
def change (f : Entries → Option Entries) : List String → Entries → Option Entries
  | [], es => f es
  | key :: path, es =>
    match es.lookup key with
    | none => (change f path []).map fun inner => put key (.table none inner) es
    | some (.table definedIn inner) =>
      (change f path inner).map fun after => put key (.table definedIn after) es
    | some (.tables earlier last) =>
      (change f path last).map fun after => put key (.tables earlier after) es
    | some (.value _) => none

/-- Defines a table by its header, which nothing may have done before. -/
def define (number : Nat) (key : String) (es : Entries) : Option Entries :=
  match es.lookup key with
  | none => some (put key (.table (some number) []) es)
  | some (.table none inner) => some (put key (.table (some number) inner) es)
  | some _ => none

/-- Starts the next table of a list of tables. -/
def extend (key : String) (es : Entries) : Option Entries :=
  match es.lookup key with
  | none => some (put key (.tables [] []) es)
  | some (.tables earlier last) => some (put key (.tables (earlier ++ [last]) []) es)
  | some _ => none

/-- Applies a change to the last of a path of keys, in the table that the others lead to. -/
def atLast (f : String → Entries → Option Entries) (path : List String) (es : Entries) :
    Option Entries :=
  match path.getLast? with
  | none => none
  | some key => change (f key) path.dropLast es

end Entries

mutual

def Item.toValue : Item → Value
  | .value v => v
  | .table _ es => .map (entryValues es)
  | .tables earlier last => .list (tableValues earlier ++ [.map (entryValues last)])

def entryValues : List (String × Item) → List (Value × Value)
  | [] => []
  | (key, item) :: rest => (.text key, item.toValue) :: entryValues rest

def tableValues : List (List (String × Item)) → List Value
  | [] => []
  | es :: rest => .map (entryValues es) :: tableValues rest

end

end TokenScopes.Toml
