import GridQuery.Decimal.Numeral
import GridQuery.Filter.Condition
import GridQuery.Request.Basic
import GridQuery.Request.Error
import GridQuery.Source.Directory

/-! # Batches

A request against a row source becomes a batch: the statement for its rows and, where a total is
asked for, the statement that counts them, with the literals bound to their placeholders. -/

namespace GridQuery
open Text

structure Options where
  /-- The size of a page that only says where it starts. -/
  defaultTake : UInt64 := 200
  defaultSchema : String := "dbo"
  deriving DecidableEq

/-- A compiled query. -/
structure Batch where
  sql : String
  bindings : Bindings

namespace Batch

/-- How often a line ends in a semicolon. -/
def semicolonLines : List Char → Nat
  | ';' :: '\n' :: rest => semicolonLines rest + 1
  | _ :: rest => semicolonLines rest
  | [] => 0

def statementCount (b : Batch) : Nat := semicolonLines b.sql.toList

def toJson (b : Batch) : Json :=
  .object [("sql", .string b.sql), ("params", b.bindings.toJson)]

/-- The start of a projection, with the tag of its rows. -/
def typeTag (tag : String) : Fragments :=
  [.select, .space, .raw "[$Type]", .space, .equals, .space, .string tag, .comma, .space]

def rowProjection (fields : List String) : Fragments :=
  typeTag "Result" ++
    if fields.isEmpty then [.raw rowsAlias, .dot, .star]
    else Fragments.commaSeparated (fields.map fun f => [.raw rowsAlias, .dot, .name f])

def countProjection : Fragments :=
  typeTag "$Root" ++
    [.name "TotalRecords", .space, .equals, .space, .count, .leftParen, .star, .rightParen]

def sortFragments (item : SortItem) : Fragments :=
  let key : Fragment := match item.key with
    | .column name => .name name
    | .expression text => .raw (sanitize text)
  [key, .space, if item.descending then .desc else .asc]

/-- The sort items; the first column sorts where a page needs an order. -/
def orderBy? (r : Request) : Option Fragments :=
  if r.sort.isEmpty then
    if r.skip.isSome || r.take.isSome then some [.number 1, .space, .asc] else none
  else some (Fragments.commaSeparated (r.sort.map sortFragments))

/-- A row count, which must fit 63 bits. -/
def rowCount (name : String) (n : UInt64) : Except QueryError Int :=
  match signed? n.toNat with
  | some count => .ok count.toInt
  | none => .error (.request (.outOfRange name n.toNat))

/-- The clause that cuts out a page. -/
def paging (options : Options) (r : Request) : Except QueryError Fragments := do
  let skip ← rowCount "skip" (r.skip.getD 0)
  let take ← rowCount "take" (r.take.getD options.defaultTake)
  pure [.offset, .space, .number skip, .space, .rows, .space, .fetch, .space, .next, .space,
    .number take, .space, .rows, .space, .only]

def paging? (options : Options) (r : Request) : Except QueryError (Option Fragments) :=
  if r.isPaged then (paging options r).map some else .ok none

/-- Writes a clause; further lines of its text start at the margin. -/
def writeClause (keyword text : String) (s : Script) : Script :=
  let start := (s.startLine keyword).literal " "
  match lines text.toList with
  | [] => start
  | first :: rest =>
    rest.foldl (fun s line => s.startLine (String.ofList line))
      (start.literal (String.ofList first))

def writeClause? (keyword : String) (text : Option String) (s : Script) : Script :=
  match text with
  | some text => writeClause keyword text s
  | none => s

def endStatement (s : Script) : Script := (s.literal ";").blankLine

/-- Writes the start of a statement, up to its condition. -/
def writeSelection (projection source : Fragments) (condition : Option String) (s : Script) :
    Script :=
  writeClause? "WHERE" condition
    ((s.startLine projection.text).startLine ("FROM " ++ source.text))

def grouping? (r : Request) : Option Fragments :=
  if r.grouping.isEmpty then none
  else some (Fragments.commaSeparated (r.grouping.map fun g => [.name g.column]))

def writeRows (r : Request) (source : Fragments) (condition : Option String)
    (page : Option Fragments) (s : Script) : Script :=
  let s := writeSelection (rowProjection r.fields) source condition s
  let s := writeClause? "GROUP BY" ((grouping? r).map Fragments.text) s
  let s := writeClause? "ORDER BY" ((orderBy? r).map Fragments.text) s
  let s := match page with
    | some page => s.startLine (Fragments.text page)
    | none => s
  endStatement s

def writeCount (source : Fragments) (condition : Option String) (s : Script) : Script :=
  endStatement (writeSelection countProjection source condition s)

/-- The condition of a request, and the bindings after it. -/
def conditionOf (r : Request) (bindings : Bindings) :
    Except QueryError (Option String × Bindings) :=
  match r.filter with
  | none => .ok (none, bindings)
  | some filter =>
    match filter.condition bindings with
    | (.ok text, bindings) => .ok (some text, bindings)
    | (.error e, _) => .error (.filter e)

/-- Compiles a request against a row source whose arguments are bound already. -/
def compile (options : Options) (r : Request) (target : Target) (bindings : Bindings) :
    Except QueryError Batch := do
  let (condition, bindings) ← conditionOf r bindings
  let page ← paging? options r
  let s := writeRows r target.source condition page {}
  let s := if r.showTotal then writeCount target.source condition s else s
  pure { sql := s.text, bindings }

def targetOf (name : ObjectName) (info : ObjectInfo) (r : Request) : Target × Bindings :=
  match info.kind with
  | .view => (⟨name, .view, []⟩, {})
  | .function =>
    let (arguments, bindings) := resolveArguments r.userData {} info.parameters
    (⟨name, .function, arguments⟩, bindings)

/-- Compiles a request against a named object. -/
def ofRequest (describe : Describe) (object : String) (r : Request) (options : Options) :
    Except QueryError Batch :=
  match ObjectName.parse? object options.defaultSchema with
  | none => .error (.invalidName object)
  | some name =>
    match describe name with
    | .error reason => .error (.unavailable reason)
    | .ok none => .error (.objectNotFound name)
    | .ok (some info) =>
      let (target, bindings) := targetOf name info r
      compile options r target bindings

end Batch
end GridQuery
