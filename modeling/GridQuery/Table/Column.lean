import GridQuery.ColumnType
import GridQuery.Fragment
import GridQuery.Script.Block

/-! # Columns and tables

Scripts that create a table or add a column, each only where it is missing. Everything that can
fail is settled before the first line is written. -/

namespace GridQuery

inductive StatementError where
  | kind (e : KindError)
  | type (e : TypeError)
  | noColumns (table : String)
  | noRows
  | noKeys
  | strayKey (key : String)
  | raggedRow (index found expected : Nat)
  /-- A failure with a text of the caller's. -/
  | custom (text : String)
  deriving DecidableEq

def StatementError.detail? : StatementError → Option String
  | kind _ | type _ => none
  | noColumns table => some ("table " ++ table ++ " has no columns")
  | noRows => some "upsert has no rows"
  | noKeys => some "upsert has no key columns"
  | strayKey key => some ("key column " ++ key ++ " is not among the upserted columns")
  | raggedRow index found expected =>
    some ("row " ++ toString index ++ " has " ++ toString found ++ " values, expected " ++
      toString expected)
  | custom text => some text

def StatementError.message (e : StatementError) : String :=
  match e, e.detail? with
  | kind e, _ => e.message
  | type e, _ => e.message
  | _, some detail => "Invalid statement: " ++ detail
  | _, none => ""

def defaultSchema : String := "dbo"

structure Column where
  name : String
  /-- The program type of its values. -/
  runtime : String
  length : Option Nat := none
  precision : Option (Nat × Nat) := none
  nullable : Bool := true

def Column.definition (c : Column) : Except StatementError String := do
  let type ← (ColumnType.definitionFor c.runtime c.length c.precision).mapError .type
  pure (identifier c.name ++ " " ++ type ++ " " ++ if c.nullable then "NULL" else "NOT NULL")

structure CreateTable where
  schema : Option String := none
  name : String
  columns : List Column := []
  primaryKey : List String := []

namespace CreateTable
variable (t : CreateTable)

def object : String := qualified (t.schema.getD defaultSchema) t.name

def keyConstraint : List String :=
  if t.primaryKey.isEmpty then []
  else ["CONSTRAINT " ++ identifier ("PK_" ++ t.name) ++ " PRIMARY KEY (" ++
    commaList (t.primaryKey.map identifier) ++ ")"]

/-- The definitions between the parentheses of the statement. -/
def items : Except StatementError (List String) := do
  if t.columns.isEmpty then .error (.noColumns t.name)
  let columns ← t.columns.mapM Column.definition
  pure (columns ++ t.keyConstraint)

/-- Creates the table unless it exists. -/
def write : Writing StatementError Unit := do
  let items ← t.items
  Writing.ifBlock (objectId t.object .table ++ " IS NULL") do
    Writing.emit (·.line ("CREATE TABLE " ++ t.object ++ " ("))
    Writing.indented 1 (Writing.emit (·.lines (commaLines items)))
    Writing.emit (·.line ");")

end CreateTable

structure AddColumn where
  schema : Option String := none
  table : String
  column : Column

namespace AddColumn
variable (a : AddColumn)

def object : String := qualified (a.schema.getD defaultSchema) a.table

def write : Writing StatementError Unit := do
  let definition ← a.column.definition
  let length := "COL_LENGTH(" ++ nameLiteral a.object ++ ", " ++
    nameLiteral (sanitize a.column.name) ++ ")"
  Writing.ifBlock (length ++ " IS NULL") do
    Writing.emit (·.line ("ALTER TABLE " ++ a.object ++ " ADD " ++ definition ++ ";"))

end AddColumn

/-- The script that a writing leaves on an empty page. -/
def Writing.script {ε : Type} (w : Writing ε Unit) : Except ε String :=
  match w.run.run {} with
  | (.ok _, s) => .ok s.text
  | (.error e, _) => .error e

end GridQuery
