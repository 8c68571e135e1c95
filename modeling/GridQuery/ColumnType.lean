import GridQuery.Text.Basic
import GridQuery.Text.Lowercase

/-! # Column types

The types of columns: their names in the database, the program type of their values, the kind
of JSON value a client sees, and how a definition writes their length or precision. Of the types
with one program type, one is canonical and is chosen when a column is defined. -/

namespace GridQuery
open Text

/-- The kind of JSON value that a column has for a client. -/
inductive WireType where
  | string
  | number
  | boolean
  deriving DecidableEq

def WireType.name : WireType → String
  | string => "string"
  | number => "number"
  | boolean => "boolean"

/-- What a definition writes behind the name of a type. -/
inductive TypeShape where
  | plain
  /-- A length up to a bound, `MAX` without one or beyond it. -/
  | length (bound : Nat)
  /-- A length up to a bound, which is 1 by default. -/
  | fixed (bound : Nat)
  | precision (digits scale : Nat)
  deriving DecidableEq

structure ColumnType where
  name : String
  runtime : String
  wire : WireType
  shape : TypeShape
  canonical : Bool
  deriving DecidableEq

inductive TypeError where
  | unsupported (name : String)
  | invalidLength (name : String) (length : Nat)
  deriving DecidableEq

def TypeError.message : TypeError → String
  | unsupported name => "Unsupported type: " ++ name
  | invalidLength name length => "Invalid length " ++ toString length ++ " for " ++ name

namespace ColumnType

def catalog : List ColumnType :=
  [⟨"bit", "bool", .boolean, .plain, true⟩,
    ⟨"tinyint", "u8", .number, .plain, true⟩,
    ⟨"smallint", "i16", .number, .plain, true⟩,
    ⟨"int", "i32", .number, .plain, true⟩,
    ⟨"bigint", "i64", .number, .plain, true⟩,
    ⟨"real", "f32", .number, .plain, true⟩,
    ⟨"float", "f64", .number, .plain, true⟩,
    ⟨"decimal", "Decimal", .number, .precision 18 10, true⟩,
    ⟨"numeric", "Decimal", .number, .precision 18 10, false⟩,
    ⟨"money", "Decimal", .number, .plain, false⟩,
    ⟨"smallmoney", "Decimal", .number, .plain, false⟩,
    ⟨"nvarchar", "String", .string, .length 4000, true⟩,
    ⟨"varchar", "String", .string, .length 8000, false⟩,
    ⟨"nchar", "char", .string, .fixed 4000, true⟩,
    ⟨"char", "char", .string, .fixed 8000, false⟩,
    ⟨"ntext", "String", .string, .plain, false⟩,
    ⟨"text", "String", .string, .plain, false⟩,
    ⟨"xml", "String", .string, .plain, false⟩,
    ⟨"date", "NaiveDate", .string, .plain, true⟩,
    ⟨"datetime2", "NaiveDateTime", .string, .plain, true⟩,
    ⟨"datetime", "NaiveDateTime", .string, .plain, false⟩,
    ⟨"smalldatetime", "NaiveDateTime", .string, .plain, false⟩,
    ⟨"datetimeoffset", "DateTime<FixedOffset>", .string, .plain, true⟩,
    ⟨"time", "TimeDelta", .string, .plain, true⟩,
    ⟨"uniqueidentifier", "Uuid", .string, .plain, true⟩,
    ⟨"varbinary", "Vec<u8>", .string, .length 8000, true⟩,
    ⟨"binary", "Vec<u8>", .string, .fixed 8000, false⟩,
    ⟨"image", "Vec<u8>", .string, .plain, false⟩]

/-- The name in a type text: what stands before a parenthesis, trimmed and in lower case. -/
def baseName (text : String) : String :=
  lower (String.ofList (trim (text.toList.takeWhile (· != '('))))

/-- The type that a type text names, in any case and with any length or precision. -/
def named (text : String) : Except TypeError ColumnType :=
  match catalog.find? (·.name == baseName text) with
  | some t => .ok t
  | none => .error (.unsupported text)

/-- The canonical type for a program type. -/
def forRuntime (runtime : String) : Except TypeError ColumnType :=
  match catalog.find? (fun t => t.canonical && t.runtime == runtime) with
  | some t => .ok t
  | none => .error (.unsupported runtime)

def keyword (t : ColumnType) : String := String.ofList (t.name.toList.map Char.toUpper)

/-- The type as a definition writes it. A length or precision that the type does not have is
ignored. -/
def definition (t : ColumnType) (length : Option Nat) (precision : Option (Nat × Nat)) :
    Except TypeError String :=
  match t.shape with
  | .plain => .ok t.keyword
  | .length bound =>
    match length with
    | some n =>
      if 0 < n ∧ n ≤ bound then .ok (t.keyword ++ "(" ++ toString n ++ ")")
      else .ok (t.keyword ++ "(MAX)")
    | none => .ok (t.keyword ++ "(MAX)")
  | .fixed bound =>
    let n := length.getD 1
    if 0 < n ∧ n ≤ bound then .ok (t.keyword ++ "(" ++ toString n ++ ")")
    else .error (.invalidLength t.keyword n)
  | .precision digits scale =>
    let (p, s) := precision.getD (digits, scale)
    .ok (t.keyword ++ "(" ++ toString p ++ "," ++ toString s ++ ")")

def definitionFor (runtime : String) (length : Option Nat) (precision : Option (Nat × Nat)) :
    Except TypeError String := do
  (← forRuntime runtime).definition length precision

end ColumnType
end GridQuery
