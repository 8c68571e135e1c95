import GridQuery.Bindings
import GridQuery.Filter.Error
import GridQuery.Fragment
import GridQuery.Script.Basic

/-! # Conditions

A filter becomes the text of a condition. Columns are written as identifiers, literals other than
null are bound and written as placeholders, and a connective stands on a line of its own. A
connective under a connective, and anything but a column or literal under a comparison, is
grouped by parentheses. -/

namespace GridQuery

/-- A script being written, and the literals bound for it. -/
structure Rendering where
  script : Script := {}
  bindings : Bindings := {}

/-- Writing that binds literals and may fail; a failure keeps text and bindings so far. -/
abbrev Binding (α : Type) := ExceptT FilterError (StateM Rendering) α

namespace Binding

def emit (f : Script → Script) : Binding Unit :=
  modify fun r => { r with script := f r.script }

/-- Binds a literal and gives its placeholder. -/
def register (v : Literal) : Binding String :=
  modifyGet fun r =>
    let (name, bindings) := r.bindings.bind v
    (name, { r with bindings })

/-- Runs a body some levels deeper and returns to the depth before, whatever happens. -/
def indented {α : Type} (levels : Nat) (body : Binding α) : Binding α :=
  ExceptT.mk fun r =>
    let (result, after) :=
      body.run.run { r with script := { r.script with depth := r.script.depth + levels } }
    (result, { after with script := { after.script with depth := after.script.depth - levels } })

def grouped (body : Binding Unit) : Binding Unit := do
  emit (·.literal "(")
  indented 1 body
  emit (·.literal ")")

end Binding

namespace Filter
open Binding

def isLeaf : Filter → Bool
  | column _ | literal _ => true
  | _ => false

def isNull : Filter → Bool
  | literal v => v.isNull
  | _ => false

/-- Writes a literal: null as such, any other value as a placeholder. -/
def writeLiteral (v : Literal) : Binding Unit := do
  if v.isNull then emit (·.literal "NULL")
  else
    let name ← register v
    emit (·.literal name)

/-- The operator between two operands; null on the right is compared by `IS`. -/
def operatorText (op : Comparison) (right : Filter) : String :=
  match op with
  | .eq => if right.isNull then "IS" else "="
  | .ne => if right.isNull then "IS NOT" else "<>"
  | op => op.sqlOperator

def patternOf (op : Comparison) : Filter → Except FilterError Literal
  | literal v =>
    match v.patternText with
    | .ok text => .ok (.string (op.pattern text))
    | .error e => .error (.operandKind e)
  | other => .error (.patternOperand op other)

def writePattern (op : Comparison) (right : Filter) : Binding Unit := do
  let pattern ← patternOf op right
  emit (·.literal (" " ++ op.sqlOperator ++ " "))
  writeLiteral pattern

/-- Writes the condition of a filter on the open line. -/
def write : Filter → Binding Unit
  | column name => emit (·.literal (identifier name))
  | literal v => writeLiteral v
  | compare left op right => do
    if left.isLeaf then left.write else grouped left.write
    if op.isPattern then writePattern op right
    else
      emit (·.literal (" " ++ operatorText op right ++ " "))
      if right.isLeaf then right.write else grouped right.write
  | combine left op right => do
    if left.isCombination then grouped left.write else left.write
    emit (·.startLine op.sqlKeyword)
    emit (·.startLine "")
    if right.isCombination then grouped right.write else right.write
  | not inner => do
    emit (·.literal "NOT (")
    inner.write
    emit (·.literal ")")

/-- The condition of a filter, and the bindings after it. Literals bound before a failure stay
bound. -/
def condition (filter : Filter) (bindings : Bindings) : Except FilterError String × Bindings :=
  let (result, after) := filter.write.run.run { bindings }
  (result.map fun _ => after.script.text, after.bindings)

/-- Writes conditions one after the other onto one script, each on a line of its own at some
depth. Gives for each filter its error and the state after it. -/
def conditions (levels : Nat) (start : Rendering) :
    List Filter → List (Option FilterError × Rendering)
  | [] => []
  | filter :: rest =>
    let body : Binding Unit := do
      emit (·.startLine ">")
      filter.write
    let (result, after) := (indented levels body).run.run start
    let error := match result with
      | .ok _ => none
      | .error e => some e
    (error, after) :: conditions levels after rest

end Filter
end GridQuery
