import GridQuery.Filter.Error

/-! # Filters as arrays

A filter array alternates operands and operators and is read from left to right. Operands are
column names and nested arrays; a group right behind a condition is joined by `and`, and a column
with only a value is an equality. -/

namespace GridQuery.Filter

def literalOf (v : Json) : Except FilterError Filter :=
  match Literal.ofJson v with
  | .ok l => .ok (literal l)
  | .error e => .error (.operandKind e)

mutual

def ofGroup : Json → Except FilterError Filter
  | .array items => ofItems items
  | v => .error (.array (.notArray v))

def ofItems : List Json → Except FilterError Filter
  | [] => .error (.array .emptyGroup)
  | .string "!" :: rest =>
    match rest with
    | [inner] => do pure (not (← ofGroup inner))
    | _ => .error (.array .negatedGroups)
  | .string name :: rest =>
    match rest with
    | [v] => do pure (compare (column name) .eq (← literalOf v))
    | rest => ofRest (column name) rest
  | .array items :: rest => do ofRest (← ofItems items) rest
  | v :: _ => .error (.array (.notOperand v))

/-- The filter of the operators and operands behind a condition or a first column. -/
def ofRest (left : Filter) : List Json → Except FilterError Filter
  | [] =>
    match left with
    | column name => .error (.array (.bareColumn name))
    | condition => .ok condition
  | .array items :: rest => do ofRest (combine left .and (← ofItems items)) rest
  | .string text :: rest =>
    match rest with
    | [] => .error (.array (.noRightOperand text))
    | next :: rest =>
      match Connective.ofKeyword? text with
      | some op => do ofRest (combine left op (← ofGroup next)) rest
      | none =>
        match Comparison.ofToken? text with
        | some op =>
          match next with
          | .array items => do ofRest (compare left op (← ofItems items)) rest
          | v => do ofRest (compare left op (← literalOf v)) rest
        | none => .error (.unknownOperator text)
  | v :: _ => .error (.array (.notOperator v))

end

def ofJson (v : Json) : Except FilterError Filter := ofGroup v

end GridQuery.Filter
