import GridQuery.Fragment
import GridQuery.Literal.Basic
import GridQuery.Script.Basic

/-! # Blocks

Parts of a script with bodies. A body may fail: what was written by then stays, and the
indentation is the one before the block. -/

namespace GridQuery

/-- Writing to a script, possibly failing; a failure keeps the text written so far. -/
abbrev Writing (ε α : Type) := ExceptT ε (StateM Script) α

namespace Writing
variable {ε α : Type}

def emit (f : Script → Script) : Writing ε Unit := modify f

/-- Runs a body some levels deeper and returns to the depth before, whatever happens. -/
def indented (levels : Nat) (body : Writing ε α) : Writing ε α :=
  ExceptT.mk fun s =>
    let (result, after) := body.run.run { s with depth := s.depth + levels }
    (result, { after with depth := after.depth - levels })

/-- An indented body that ends its last line. -/
def body (b : Writing ε Unit) : Writing ε Unit :=
  indented 1 do
    b
    emit (·.endLine)

def block (b : Writing ε Unit) : Writing ε Unit := do
  emit (·.line "BEGIN")
  body b
  emit (·.line "END")

def tryCatch (attempt handler : Writing ε Unit) : Writing ε Unit := do
  emit (·.line "BEGIN TRY")
  body attempt
  emit (·.line "END TRY")
  emit (·.line "BEGIN CATCH")
  body handler
  emit (·.line "END CATCH")

def ifBlock (condition : String) (b : Writing ε Unit) : Writing ε Unit := do
  emit (·.line ("IF " ++ condition))
  block b

def ifElse (condition : String) (yes no : Writing ε Unit) : Writing ε Unit := do
  ifBlock condition yes
  emit (·.line "ELSE")
  block no

/-- A body in a transaction, which is undone and the error raised again if the body fails when
it is executed. -/
def transaction (b : Writing ε Unit) : Writing ε Unit := do
  emit (·.line "BEGIN TRANSACTION;")
  tryCatch
    (do b; emit (·.line "COMMIT TRANSACTION;"))
    (do
      emit (·.line "IF @@TRANCOUNT > 0")
      indented 1 (emit (·.line "ROLLBACK TRANSACTION;"))
      emit (·.line "THROW;"))

end Writing

inductive ObjectType where
  | table
  | view
  | inlineFunction
  | tableFunction
  deriving DecidableEq

def ObjectType.code : ObjectType → String
  | table => "U"
  | view => "V"
  | inlineFunction => "IF"
  | tableFunction => "TF"

/-- A national string literal for names. -/
def nameLiteral (s : String) : String := "N" ++ quoteString s

/-- The expression for the number of an object, null if there is none. -/
def objectId (object : String) (type : ObjectType) : String :=
  "OBJECT_ID(" ++ nameLiteral object ++ ", N'" ++ type.code ++ "')"

def Writing.ifObjectExists {ε : Type} (schema name : String) (type : ObjectType)
    (yes no : Writing ε Unit) : Writing ε Unit :=
  Writing.ifElse (objectId (qualified schema name) type ++ " IS NOT NULL") yes no

end GridQuery
