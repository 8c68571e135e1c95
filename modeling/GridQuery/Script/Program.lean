import GridQuery.Table.Upsert

/-! # Programs of steps

A script is written by a program: lines and blocks nested in one another. -/

namespace GridQuery

inductive Step where
  | line (t : String)
  | lines (t : String)
  | literal (t : String)
  | start (t : String)
  | endLine
  | blankLine
  | showDepth
  | fail (t : String)
  | indented (levels : Nat) (body : List Step)
  | block (body : List Step)
  | tryCatch (attempt handler : List Step)
  | ifBlock (condition : String) (body : List Step)
  | ifElse (condition : String) (yes no : List Step)
  | transaction (body : List Step)
  | ifObjectExists (schema name : String) (type : ObjectType) (yes no : List Step)
  | createTable (t : CreateTable)
  | addColumn (a : AddColumn)
  | upsert (u : Upsert)

namespace Step
open Writing

mutual

def write : Step → Writing StatementError Unit
  | line t => emit (·.line t)
  | lines t => emit (·.lines t)
  | literal t => emit (·.literal t)
  | start t => emit (·.startLine t)
  | endLine => emit (·.endLine)
  | blankLine => emit (·.blankLine)
  | showDepth => emit fun s => s.literal ("indent=" ++ toString s.depth)
  | fail t => throw (.custom t)
  | indented levels body => Writing.indented levels (writeAll body)
  | block body => Writing.block (writeAll body)
  | tryCatch attempt handler => Writing.tryCatch (writeAll attempt) (writeAll handler)
  | ifBlock condition body => Writing.ifBlock condition (writeAll body)
  | ifElse condition yes no => Writing.ifElse condition (writeAll yes) (writeAll no)
  | transaction body => Writing.transaction (writeAll body)
  | ifObjectExists schema name type yes no =>
    Writing.ifObjectExists schema name type (writeAll yes) (writeAll no)
  | createTable t => t.write
  | addColumn a => a.write
  | upsert u => u.write

/-- What the steps write, up to the first that fails. -/
def writeAll : List Step → Writing StatementError Unit
  | [] => pure ()
  | step :: rest => do
    write step
    writeAll rest

end

/-- What a top-level step did to the script. -/
structure Report where
  added : String
  script : Script
  error : Option StatementError

/-- Runs steps one after the other; one that fails does not stop the next. -/
def runAll (s : Script) : List Step → List Report
  | [] => []
  | step :: rest =>
    let (result, after) := (write step).run.run s
    let added := String.ofList (after.text.toList.drop s.text.length)
    let error := match result with
      | .ok _ => none
      | .error e => some e
    ⟨added, after, error⟩ :: runAll after rest

end Step
end GridQuery
