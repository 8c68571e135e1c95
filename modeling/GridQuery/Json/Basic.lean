import GridQuery.Decimal.Layout

/-! # JSON

Numbers are integers where they were written so; an object keeps its keys in order. The compact text
has no white space; the indented text has one item a line. Strings escape only what must be
escaped. -/

namespace GridQuery

inductive Json where
  | null
  | bool (b : Bool)
  | int (n : Int)
  | float (x : Float)
  | string (s : String)
  | array (items : List Json)
  | object (fields : List (String × Json))

namespace Json
open Decimal

def escapedChar (c : Char) : List Char :=
  if c = '"' then ['\\', '"']
  else if c = '\\' then ['\\', '\\']
  else if c = '\n' then ['\\', 'n']
  else if c = '\r' then ['\\', 'r']
  else if c = '\t' then ['\\', 't']
  else if c.toNat = 8 then ['\\', 'b']
  else if c.toNat = 12 then ['\\', 'f']
  else if c.toNat < 32 then
    ['\\', 'u', '0', '0', (c.toNat / 16).digitChar, (c.toNat % 16).digitChar]
  else [c]

def stringText (s : String) : String :=
  String.ofList ('"' :: s.toList.flatMap escapedChar ++ ['"'])

/-- The text of a double; JSON has none for an infinite or undefined one. -/
def floatText (x : Float) : String := if isFinite x then signed.text x else "null"

mutual

def compact : Json → String
  | null => "null"
  | bool b => if b then "true" else "false"
  | int n => toString n
  | float x => floatText x
  | string s => stringText s
  | array items => "[" ++ compactItems items ++ "]"
  | object fields => "\x7b" ++ compactFields fields ++ "\x7d"

def compactItems : List Json → String
  | [] => ""
  | [v] => compact v
  | v :: rest => compact v ++ "," ++ compactItems rest

def compactFields : List (String × Json) → String
  | [] => ""
  | [(k, v)] => stringText k ++ ":" ++ compact v
  | (k, v) :: rest => stringText k ++ ":" ++ compact v ++ "," ++ compactFields rest

end

def lineBreak (level : Nat) : String :=
  String.ofList ('\n' :: List.replicate (2 * level) ' ')

mutual

/-- The indented form, two spaces a level. -/
def indentedAt (level : Nat) : Json → String
  | array (v :: rest) =>
    "[" ++ indentedItems (level + 1) (v :: rest) ++ lineBreak level ++ "]"
  | object (f :: rest) =>
    "\x7b" ++ indentedFields (level + 1) (f :: rest) ++ lineBreak level ++ "\x7d"
  | array [] => "[]"
  | object [] => "\x7b\x7d"
  | null => "null"
  | bool b => if b then "true" else "false"
  | int n => toString n
  | float x => floatText x
  | string s => stringText s

def indentedItems (level : Nat) : List Json → String
  | [] => ""
  | [v] => lineBreak level ++ indentedAt level v
  | v :: rest => lineBreak level ++ indentedAt level v ++ "," ++ indentedItems level rest

def indentedFields (level : Nat) : List (String × Json) → String
  | [] => ""
  | [(k, v)] => lineBreak level ++ stringText k ++ ": " ++ indentedAt level v
  | (k, v) :: rest =>
    lineBreak level ++ stringText k ++ ": " ++ indentedAt level v ++ "," ++
      indentedFields level rest

end

def indented (v : Json) : String := indentedAt 0 v

end Json
end GridQuery
