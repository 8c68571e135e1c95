import GridQuery.Table.Column

/-! # Upserts

One statement that updates the rows of a table with known keys and inserts the others. The rows
are written as literals. -/

namespace GridQuery

/-- Rows to put into a table. -/
structure Upsert where
  schema : Option String := none
  table : String
  /-- The columns that tell rows apart. -/
  keys : List String := []
  /-- The columns of each row, keys included. -/
  columns : List String := []
  rows : List (List Literal) := []

namespace Upsert
variable (u : Upsert)

/-- The first row with a wrong number of cells, and its index. -/
def raggedRow? : Option (Nat × List Literal) :=
  (u.rows.mapIdx fun i row => (i, row)).find? fun (_, row) => row.length != u.columns.length

/-- Refuses an upsert without rows or keys, with a key that is no column, or with a row of
another length. -/
def validate : Except StatementError Unit := do
  if u.rows.isEmpty then .error .noRows
  if u.keys.isEmpty then .error .noKeys
  if let some key := u.keys.find? fun k => !u.columns.contains k then .error (.strayKey key)
  if let some (i, row) := u.raggedRow? then .error (.raggedRow i row.length u.columns.length)

def rowLiteral (row : List Literal) : Except StatementError String := do
  pure (rowText (← row.mapM fun cell => cell.quote.mapError .kind))

def rowTexts : Except StatementError (List String) := do
  u.validate
  u.rows.mapM rowLiteral

def equated (column : String) : String :=
  "TARGET." ++ identifier column ++ " = SOURCE." ++ identifier column

/-- The columns that an update sets. -/
def updated : List String := u.columns.filter fun c => !u.keys.contains c

def write : Writing StatementError Unit := do
  let rows ← u.rowTexts
  let columns := u.columns.map identifier
  Writing.emit
    (·.line ("MERGE INTO " ++ qualified (u.schema.getD defaultSchema) u.table ++ " AS TARGET"))
  Writing.emit (·.line "USING (VALUES")
  Writing.indented 1 (Writing.emit (·.lines (commaLines rows)))
  Writing.emit (·.line (") AS SOURCE (" ++ commaList columns ++ ")"))
  Writing.emit (·.line ("ON " ++ String.intercalate " AND " (u.keys.map equated)))
  if !u.updated.isEmpty then
    Writing.emit (·.line "WHEN MATCHED THEN")
    Writing.indented 1
      (Writing.emit (·.line ("UPDATE SET " ++ commaList (u.updated.map equated))))
  Writing.emit (·.line "WHEN NOT MATCHED THEN")
  Writing.indented 1
    (Writing.emit (·.line ("INSERT (" ++ commaList columns ++ ") VALUES (" ++
      commaList (columns.map ("SOURCE." ++ ·)) ++ ");")))

end Upsert
end GridQuery
