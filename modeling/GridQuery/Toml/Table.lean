import GridQuery.Assoc

/-! # TOML values and tables under construction

A table may be opened once by a header and filled by the assignments below it. Tables on the way
to it exist implicitly and may still be opened; tables made by a key of several parts may only
grow by such keys. -/

namespace GridQuery

/-- A TOML value. A table lists its keys in the order of their definition. -/
inductive Toml where
  | string (s : String)
  | integer (n : Int)
  | float (x : Float)
  /-- A number too large for every type of numbers. -/
  | overflow
  | boolean (b : Bool)
  | dateTime (text : String)
  | array (items : List Toml)
  | table (entries : List (String × Toml))

namespace Toml

/-- An integer, which needs at most 128 bits, with or without a sign. -/
def ofInt (n : Int) : Toml :=
  if -0x80000000000000000000000000000000 ≤ n ∧ n < 0x100000000000000000000000000000000 then
    integer n
  else overflow

mutual

/-- Whether no number in the value is too large. -/
def fits : Toml → Bool
  | overflow => false
  | array items => allFit items
  | table entries => entriesFit entries
  | _ => true

def allFit : List Toml → Bool
  | [] => true
  | v :: rest => fits v && allFit rest

def entriesFit : List (String × Toml) → Bool
  | [] => true
  | (_, v) :: rest => fits v && entriesFit rest

end

/-- How a table came about. -/
inductive Origin where
  /-- By a header of its own. -/
  | opened
  /-- On the way to another header. -/
  | implied
  /-- By a key of several parts. -/
  | dotted
  deriving DecidableEq

/-- A value under construction. -/
inductive Node where
  /-- A value that cannot grow. -/
  | leaf (v : Toml)
  | table (origin : Origin) (entries : List (String × Node))
  /-- An array of tables, of which the last grows. -/
  | tables (done : List (List (String × Node))) (last : List (String × Node))

abbrev Entries := Assoc String Node

namespace Node

mutual

def value : Node → Toml
  | leaf v => v
  | table _ entries => .table (values entries)
  | tables done last => .array (allValues done ++ [.table (values last)])

def values : List (String × Node) → List (String × Toml)
  | [] => []
  | (k, n) :: rest => (k, value n) :: values rest

def allValues : List (List (String × Node)) → List Toml
  | [] => []
  | t :: rest => .table (values t) :: allValues rest

end

def update (f : Entries → Option Entries) : Node → Option Node
  | leaf _ => none
  | table origin entries => (f entries).map (table origin)
  | tables done last => (f last).map (tables done)

/-- Changes the table at the end of a path; tables on the way are made where they are missing. -/
def updateAt (f : Entries → Option Entries) : List String → Entries → Option Entries
  | [], t => f t
  | k :: path, t => do
    let node ← update (updateAt f path) ((t.lookup k).getD (table .implied []))
    pure (Assoc.put t k node)

/-- Adds a value under a key of a table whose own key had more than one part or not. -/
def assignLast (isDotted : Bool) (k : String) (v : Toml) (origin : Origin) (t : Entries) :
    Option Entries :=
  if (origin == .dotted) == isDotted && (t.lookup k).isNone then
    some (Assoc.put t k (leaf v))
  else none

/-- Adds a value under a key of several parts, below at least one part. -/
def assignBelow (v : Toml) : List String → Origin → Entries → Option Entries
  | [], _, _ => none
  | [k], origin, t => assignLast true k v origin t
  | k :: path, _, t =>
    match t.lookup k with
    | none => (assignBelow v path .dotted []).map fun sub => Assoc.put t k (table .dotted sub)
    | some (table .opened _) => none
    | some (table origin sub) =>
      (assignBelow v path origin sub).map fun sub => Assoc.put t k (table origin sub)
    | some (tables done last) =>
      (assignBelow v path .opened last).map fun last => Assoc.put t k (tables done last)
    | some (leaf _) => none

def assignAll (path : List String) (v : Toml) (t : Entries) : Option Entries :=
  match path with
  | [k] => assignLast false k v .opened t
  | path => assignBelow v path .opened t

def openTable (k : String) (t : Entries) : Option Entries :=
  match t.lookup k with
  | none => some (Assoc.put t k (table .opened []))
  | some (table .implied sub) => some (Assoc.put t k (table .opened sub))
  | some _ => none

def openItem (k : String) (t : Entries) : Option Entries :=
  match t.lookup k with
  | none => some (Assoc.put t k (tables [] []))
  | some (tables done last) => some (Assoc.put t k (tables (done ++ [last]) []))
  | some _ => none

end Node

end Toml
end GridQuery
