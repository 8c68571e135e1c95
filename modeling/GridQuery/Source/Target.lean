import GridQuery.Fragment

/-! # Row sources

A query reads from a view, or from a table-valued function with positional arguments. Either is
named by its schema and its name within the schema. In a text the schema may be missing, and brackets
around a part are dropped. -/

namespace GridQuery
open Text

/-- The name of a view or function. -/
structure ObjectName where
  schema : String
  name : String
  deriving DecidableEq

namespace ObjectName

def text (n : ObjectName) : String := n.schema ++ "." ++ n.name

/-- A part of a name text without white space and brackets around it. -/
def bare (part : List Char) : List Char :=
  (((trim part).dropWhile (· == '[')).reverse.dropWhile (· == ']')).reverse

/-- Reads one or two parts, none of them empty; a single part gets the default schema. -/
def parse? (text : String) (defaultSchema : String) : Option ObjectName :=
  let parts := (text.toList.splitOn '.').map bare
  if parts.any List.isEmpty then none
  else
    match parts with
    | [name] => some ⟨defaultSchema, String.ofList name⟩
    | [schema, name] => some ⟨String.ofList schema, String.ofList name⟩
    | _ => none

end ObjectName

inductive ObjectKind where
  | view
  | function
  deriving DecidableEq

namespace ObjectKind

def name : ObjectKind → String
  | view => "view"
  | function => "function"

def named? (text : String) : Option ObjectKind :=
  match lowerAscii text with
  | "view" => some view
  | "function" => some function
  | "tvf" => some function
  | _ => none

end ObjectKind

inductive Argument where
  | placeholder (name : String)
  /-- The default that the function declares. -/
  | default
  deriving DecidableEq

def Argument.fragment : Argument → Fragment
  | placeholder name => .placeholder name
  | default => .default

structure Target where
  object : ObjectName
  kind : ObjectKind
  arguments : List Argument
  deriving DecidableEq

def rowsAlias : String := "RESULTS"

/-- The row source as the query names it. -/
def Target.source (t : Target) : Fragments :=
  let call := match t.kind with
    | .view => []
    | .function =>
      [.leftParen] ++ Fragments.commaSeparated (t.arguments.map fun a => [a.fragment]) ++
        [.rightParen]
  [.qualifiedName t.object.schema t.object.name] ++ call ++ [.space, .raw rowsAlias]

end GridQuery
