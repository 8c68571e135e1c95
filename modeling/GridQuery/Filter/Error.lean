import GridQuery.Filter.Basic
import GridQuery.Json.Basic

/-! # Errors of filters -/

namespace GridQuery

/-- What a filter text lacks at some place. -/
inductive ScanCause where
  | expectedOperand
  | expectedComparison
  | expectedValue
  | expectedConnective
  | numberOutOfRange
  | unbalancedClose
  | unbalancedOpen
  | unexpectedEnd
  | noOpenGroup
  | noLeftOperand
  | emptyGroup
  | emptyFilter
  deriving DecidableEq

def ScanCause.message : ScanCause → String
  | expectedOperand => "expected a column name or '('"
  | expectedComparison => "expected a comparison operator"
  | expectedValue => "expected a value"
  | expectedConnective => "expected 'and', 'or' or ')'"
  | numberOutOfRange => "number out of range"
  | unbalancedClose => "unbalanced ')' in filter"
  | unbalancedOpen => "unbalanced '(' in filter"
  | unexpectedEnd => "unexpected end of filter"
  | noOpenGroup => "no open group"
  | noLeftOperand => "connective without a left operand"
  | emptyGroup => "empty group"
  | emptyFilter => "empty filter"

inductive ArrayCause where
  | notArray (found : Json)
  | emptyGroup
  | negatedGroups
  | notOperator (found : Json)
  | noRightOperand (operator : String)
  | notOperand (found : Json)
  | bareColumn (name : String)

def ArrayCause.message : ArrayCause → String
  | notArray found => "expected a filter array, found " ++ found.compact
  | emptyGroup => "empty filter group"
  | negatedGroups => "'!' must be followed by exactly one group"
  | notOperator found => "expected an operator, found " ++ found.compact
  | noRightOperand operator => "operator '" ++ operator ++ "' has no right operand"
  | notOperand found => "expected a column name or group, found " ++ found.compact
  | bareColumn name => "column '" ++ name ++ "' has no comparison"

inductive FilterError where
  /-- The text cannot be read from a place on, of which the start is given. -/
  | scan (cause : ScanCause) (fragment : String)
  | unknownOperator (text : String)
  | array (cause : ArrayCause)
  | operandKind (e : KindError)
  /-- A pattern operator has no literal on its right. -/
  | patternOperand (op : Comparison) (found : Filter)

def FilterError.message : FilterError → String
  | scan cause fragment => cause.message ++ " near '" ++ fragment ++ "'"
  | unknownOperator text => "Unsupported operator: " ++ text
  | array cause => "Invalid filter: " ++ cause.message
  | operandKind e => "Invalid operand: " ++ e.message
  | patternOperand op found =>
    "Invalid operand: '" ++ op.keyword ++ "' needs a literal right operand, found " ++
      found.describe

end GridQuery
