import GridQuery.Filter.Operator
import GridQuery.Literal.Basic
import GridQuery.Text.Quoted

/-! # Filters

A filter is a tree of comparisons, connectives and negations over columns and literals. -/

namespace GridQuery
open Text

inductive Filter where
  | column (name : String)
  | literal (v : Literal)
  | compare (left : Filter) (op : Comparison) (right : Filter)
  | combine (left : Filter) (op : Connective) (right : Filter)
  | not (inner : Filter)

def Literal.describe : Literal → String
  | null => "Null"
  | bool b => "Bool(" ++ (if b then "true" else "false") ++ ")"
  | int n => "Int(" ++ toString n.toInt ++ ")"
  | float x => "Float(" ++ Decimal.narrow.text x ++ ")"
  | string s => "String(" ++ quoted s ++ ")"
  | dateTime t => "DateTime(" ++ t.exactText ++ ")"
  | timeSpan s =>
    "TimeSpan(TimeDelta \x7b secs: " ++ toString s.seconds ++ ", nanos: " ++
      toString s.nanoseconds ++ " \x7d)"
  | guid g => "Guid(" ++ g.text ++ ")"
  | bytes b => "Bytes([" ++ String.intercalate ", " (b.map fun x => toString x.toNat) ++ "])"

def Comparison.describe : Comparison → String
  | eq => "Eq"
  | ne => "Ne"
  | lt => "Lt"
  | le => "Le"
  | gt => "Gt"
  | ge => "Ge"
  | contains => "Contains"
  | notContains => "NotContains"
  | startsWith => "StartsWith"
  | endsWith => "EndsWith"

def Connective.describe : Connective → String
  | and => "And"
  | or => "Or"

namespace Filter

/-- The names of the columns, from left to right, each as often as it occurs. -/
def columns : Filter → List String
  | column name => [name]
  | literal _ => []
  | compare left _ right | combine left _ right => left.columns ++ right.columns
  | not inner => inner.columns

/-- Whether the outermost node is a connective. -/
def isCombination : Filter → Bool
  | combine .. => true
  | _ => false

def describe : Filter → String
  | column name => "Column(" ++ quoted name ++ ")"
  | literal v => "Literal(" ++ v.describe ++ ")"
  | compare left op right =>
    "Compare \x7b left: " ++ left.describe ++ ", op: " ++ op.describe ++ ", right: " ++
      right.describe ++ " \x7d"
  | combine left op right =>
    "Logical \x7b left: " ++ left.describe ++ ", op: " ++ op.describe ++ ", right: " ++
      right.describe ++ " \x7d"
  | not inner => "Not(" ++ inner.describe ++ ")"

end Filter
end GridQuery
