import GridQuery.Text.Basic

/-! # Operators of filters -/

namespace GridQuery
open Text

inductive Comparison where
  | eq
  | ne
  | lt
  | le
  | gt
  | ge
  | contains
  | notContains
  | startsWith
  | endsWith
  deriving DecidableEq

namespace Comparison

def all : List Comparison :=
  [eq, ne, lt, le, gt, ge, contains, notContains, startsWith, endsWith]

def keyword : Comparison → String
  | eq => "eq"
  | ne => "ne"
  | lt => "lt"
  | le => "le"
  | gt => "gt"
  | ge => "ge"
  | contains => "contains"
  | notContains => "notcontains"
  | startsWith => "startswith"
  | endsWith => "endswith"

/-- The comparison with a keyword, in any ASCII case. -/
def ofKeyword? (text : String) : Option Comparison :=
  all.find? fun op => op.keyword == lowerAscii text

/-- The comparison with a symbol or a keyword. -/
def ofToken? (text : String) : Option Comparison :=
  match text with
  | "=" => some eq
  | "<>" => some ne
  | "<" => some lt
  | "<=" => some le
  | ">" => some gt
  | ">=" => some ge
  | other => ofKeyword? other

def sqlOperator : Comparison → String
  | eq => "="
  | ne => "<>"
  | lt => "<"
  | le => "<="
  | gt => ">"
  | ge => ">="
  | contains | startsWith | endsWith => "LIKE"
  | notContains => "NOT LIKE"

def isPattern : Comparison → Bool
  | contains | notContains | startsWith | endsWith => true
  | _ => false

/-- The pattern for a text, with a wildcard on each open side. -/
def pattern (op : Comparison) (text : String) : String :=
  match op with
  | contains | notContains => "%" ++ text ++ "%"
  | startsWith => text ++ "%"
  | endsWith => "%" ++ text
  | _ => text

theorem ofKeyword?_keyword (op : Comparison) : ofKeyword? op.keyword = some op := by
  cases op <;> decide

end Comparison

inductive Connective where
  | and
  | or
  deriving DecidableEq

namespace Connective

def sqlKeyword : Connective → String
  | and => "AND"
  | or => "OR"

def ofKeyword? (text : String) : Option Connective :=
  if equalIgnoringCase text "and" then some and
  else if equalIgnoringCase text "or" then some or
  else none

end Connective
end GridQuery
