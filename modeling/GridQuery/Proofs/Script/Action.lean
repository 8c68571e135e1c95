import GridQuery.Script.Program

/-! # Writings and actions

A writing turns one script into another, and ends well or with an error. What parts do to a script
one after the other is put together by `Writing.run_bind`, so that nothing has to look into the
writing itself.

Every program of steps comes down to a few actions: a line or a piece of one, a failure, or
actions some levels deeper. A block comes down to the lines it writes itself and, between them,
the actions of its bodies. Carrying out actions checks the depth: had a body less depth to give
back than was taken for it, there would be no result. -/

namespace GridQuery

namespace Writing
variable {ε α β : Type} (s : Script)

theorem run_bind (w : Writing ε α) (next : α → Writing ε β) :
    (w >>= next).run.run s =
      match w.run.run s with
      | (.ok a, after) => (next a).run.run after
      | (.error e, after) => (.error e, after) := by
  simp only [ExceptT.run_bind, StateT.run_bind]
  rcases w.run.run s with ⟨_ | _, after⟩ <;> rfl

@[simp] theorem run_emit (f : Script → Script) :
    (emit f : Writing ε Unit).run.run s = (.ok (), f s) := rfl

theorem run_indented (levels : Nat) (w : Writing ε α) :
    (indented levels w).run.run s =
      ((w.run.run { s with depth := s.depth + levels }).1,
        { (w.run.run { s with depth := s.depth + levels }).2 with
          depth := (w.run.run { s with depth := s.depth + levels }).2.depth - levels }) := rfl

theorem script_eq_ok_iff {w : Writing ε Unit} {text : String} :
    w.script = .ok text ↔ ∃ after, w.run.run {} = (.ok (), after) ∧ after.text = text := by
  unfold script
  rcases w.run.run {} with ⟨e | _, after⟩
  · exact ⟨nofun, nofun⟩
  · constructor
    · intro h
      exact ⟨after, rfl, Except.ok.inj h⟩
    · rintro ⟨_, ⟨⟩, rfl⟩
      rfl

end Writing

/-- The parts of a script that have a first and a last line of their own. -/
inductive Enclosure where
  | block
  | attempt
  | handler
  deriving DecidableEq

/-- The lines that blocks write themselves. -/
inductive Keyword where
  | opens (e : Enclosure)
  | closes (e : Enclosure)
  | otherwise
  deriving DecidableEq

namespace Keyword

def text : Keyword → String
  | opens .block => "BEGIN"
  | opens .attempt => "BEGIN TRY"
  | opens .handler => "BEGIN CATCH"
  | closes .block => "END"
  | closes .attempt => "END TRY"
  | closes .handler => "END CATCH"
  | otherwise => "ELSE"

end Keyword

inductive Action where
  | keyword (k : Keyword)
  | line (t : String)
  | literal (t : String)
  | start (t : String)
  | endLine
  | blankLine
  | showDepth
  | fail (e : StatementError)
  | indented (levels : Nat) (body : List Action)

namespace Action

mutual

/-- What an action does to a script, unless it gives back more depth than there is. -/
def run? : Action → Script → Option (Except StatementError Unit × Script)
  | keyword k, s => some (.ok (), s.line k.text)
  | line t, s => some (.ok (), s.line t)
  | literal t, s => some (.ok (), s.literal t)
  | start t, s => some (.ok (), s.startLine t)
  | endLine, s => some (.ok (), s.endLine)
  | blankLine, s => some (.ok (), s.blankLine)
  | showDepth, s => some (.ok (), s.literal ("indent=" ++ toString s.depth))
  | fail e, s => some (.error e, s)
  | indented levels body, s =>
    match runAll? body { s with depth := s.depth + levels } with
    | some (result, after) =>
      if levels ≤ after.depth then some (result, { after with depth := after.depth - levels })
      else none
    | none => none

/-- What actions do to a script, one after the other up to the first that fails. -/
def runAll? : List Action → Script → Option (Except StatementError Unit × Script)
  | [], s => some (.ok (), s)
  | action :: rest, s =>
    match action.run? s with
    | some (.ok _, after) => runAll? rest after
    | other => other

end

def lines (t : String) : List Action :=
  (Text.lines t.toList).map fun l => line (String.ofList l)

def enclosed (e : Enclosure) (body : List Action) : List Action :=
  [keyword (.opens e), indented 1 (body ++ [endLine]), keyword (.closes e)]

def attempted (body handler : List Action) : List Action :=
  enclosed .attempt body ++ enclosed .handler handler

def provided (condition : String) (body : List Action) : List Action :=
  line ("IF " ++ condition) :: enclosed .block body

def decided (condition : String) (yes no : List Action) : List Action :=
  provided condition yes ++ keyword .otherwise :: enclosed .block no

def undone : List Action :=
  [line "IF @@TRANCOUNT > 0", indented 1 [line "ROLLBACK TRANSACTION;"], line "THROW;"]

def transacted (body : List Action) : List Action :=
  line "BEGIN TRANSACTION;" :: attempted (body ++ [line "COMMIT TRANSACTION;"]) undone

/-- The actions for what can be worked out, or the failure to work it out. -/
def ofExcept {α : Type} (x : Except StatementError α) (actions : α → List Action) : List Action :=
  match x with
  | .ok a => actions a
  | .error e => [fail e]

end Action

open GridQuery.Action

def CreateTable.actions (t : CreateTable) : List Action :=
  ofExcept t.items fun items =>
    provided (objectId t.object .table ++ " IS NULL")
      [line ("CREATE TABLE " ++ t.object ++ " ("), indented 1 (lines (commaLines items)),
        line ");"]

def AddColumn.actions (a : AddColumn) : List Action :=
  ofExcept a.column.definition fun definition =>
    provided ("COL_LENGTH(" ++ nameLiteral a.object ++ ", " ++
        nameLiteral (sanitize a.column.name) ++ ")" ++ " IS NULL")
      [line ("ALTER TABLE " ++ a.object ++ " ADD " ++ definition ++ ";")]

namespace Upsert
variable (u : Upsert)

def updateActions : List Action :=
  if u.updated.isEmpty then []
  else [line "WHEN MATCHED THEN",
    indented 1 [line ("UPDATE SET " ++ commaList (u.updated.map equated))]]

def insertActions : List Action :=
  let columns := u.columns.map identifier
  [line "WHEN NOT MATCHED THEN",
    indented 1 [line ("INSERT (" ++ commaList columns ++ ") VALUES (" ++
      commaList (columns.map ("SOURCE." ++ ·)) ++ ");")]]

def actions : List Action :=
  ofExcept u.rowTexts fun rows =>
    [line ("MERGE INTO " ++ qualified (u.schema.getD defaultSchema) u.table ++ " AS TARGET"),
      line "USING (VALUES", indented 1 (lines (commaLines rows)),
      line (") AS SOURCE (" ++ commaList (u.columns.map identifier) ++ ")"),
      line ("ON " ++ String.intercalate " AND " (u.keys.map equated))] ++
    u.updateActions ++ u.insertActions

end Upsert

namespace Step

mutual

/-- What a step comes down to. -/
def actions : Step → List Action
  | line t => [.line t]
  | lines t => Action.lines t
  | literal t => [.literal t]
  | start t => [.start t]
  | endLine => [.endLine]
  | blankLine => [.blankLine]
  | showDepth => [.showDepth]
  | fail t => [.fail (.custom t)]
  | indented levels body => [.indented levels (allActions body)]
  | block body => enclosed .block (allActions body)
  | tryCatch attempt handler => attempted (allActions attempt) (allActions handler)
  | ifBlock condition body => provided condition (allActions body)
  | ifElse condition yes no => decided condition (allActions yes) (allActions no)
  | transaction body => transacted (allActions body)
  | ifObjectExists schema name type yes no =>
    decided (objectId (qualified schema name) type ++ " IS NOT NULL") (allActions yes)
      (allActions no)
  | createTable t => t.actions
  | addColumn a => a.actions
  | upsert u => u.actions

def allActions : List Step → List Action
  | [] => []
  | step :: rest => step.actions ++ allActions rest

end

end Step

end GridQuery
