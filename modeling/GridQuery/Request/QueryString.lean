import GridQuery.Filter.Scanner
import GridQuery.Request.Basic
import GridQuery.Request.Error
import GridQuery.Text.Bytes

/-! # Query strings

A query string is form-encoded: pairs of keys and values are separated by `&`; in each a `+` stands
for a space and `%` with two digits for a byte. Its options replace parts of a request one after the
other. A key without a dollar sign gives a value for a parameter. -/

namespace GridQuery
open Text Decimal

namespace Form

def escapedByte? (percent high low : UInt8) : Option UInt8 := do
  guard (percent = 37)
  let h ← hexDigit? (Char.ofNat high.toNat)
  let l ← hexDigit? (Char.ofNat low.toNat)
  pure (UInt8.ofNat (16 * h + l))

/-- Replaces escaped bytes; a `%` without two digits stands for itself. -/
def unescape : List UInt8 → List UInt8
  | a :: high :: low :: rest =>
    match escapedByte? a high low with
    | some b => b :: unescape rest
    | none => a :: unescape (high :: low :: rest)
  | short => short

def decode (s : List UInt8) : String :=
  String.ofList (decodeLossy (unescape (s.map fun b => if b = 43 then 32 else b)))

/-- The key and value of a pair; without `=` the value is empty. -/
def pair (s : List UInt8) : String × String :=
  (decode (s.takeWhile (· != 61)), decode ((s.dropWhile (· != 61)).drop 1))

/-- The pairs of a query text; empty ones are skipped. -/
def pairs (query : String) : List (String × String) :=
  (((utf8 query).splitOn 38).filter (!·.isEmpty)).map pair

end Form

/-- Reads a number of 64 bits, with an optional plus sign. -/
def readCount? (s : List Char) : Option UInt64 :=
  let digits := match s with
    | '+' :: rest => rest
    | s => s
  if !digits.isEmpty && digits.all Char.isDigit then unsigned? (digitsValue digits) else none

def countOf (option value : String) : Except QueryError UInt64 :=
  match readCount? (trim value.toList) with
  | some n => .ok n
  | none => .error (.request (.badCount option value))

/-- Whether a direction is descending. -/
def readDirection (text : String) : Except QueryError Bool :=
  if equalIgnoringCase text "asc" then .ok false
  else if equalIgnoringCase text "desc" then .ok true
  else .error (.request (.badDirection text))

/-- The sort key of a name; digits alone are the number of a column. -/
def SortKey.ofName (name : List Char) : SortKey :=
  if name.all Char.isDigit then .expression (String.ofList name) else .column (String.ofList name)

def SortItem.ofText (item : List Char) : Except QueryError SortItem :=
  match words item with
  | [] => .ok ⟨.ofName [], false⟩
  | [name] => .ok ⟨.ofName name, false⟩
  | [name, direction] => do pure ⟨.ofName name, ← readDirection (String.ofList direction)⟩
  | _ :: direction :: _ => do
    let _ ← readDirection (String.ofList direction)
    .error (.request (.badSortItem (String.ofList item)))

def sortOfText (value : String) : Except QueryError (List SortItem) :=
  (commaItems value.toList).mapM SortItem.ofText

/-- The columns of a text, separated by commas; a star stands for all. -/
def fieldsOfText (value : String) : List String :=
  if trim value.toList = ['*'] then [] else (commaItems value.toList).map String.ofList

/-- The filter of a text, none if it is blank. -/
def filterOfText (value : String) : Except QueryError (Option Filter) :=
  if (trim value.toList).isEmpty then .ok none
  else ((Filter.ofText value).map some).mapError .filter

def inlineCountOf (value : String) : Except QueryError Bool :=
  if value = "allpages" then .ok true
  else if value = "none" then .ok false
  else .error (.request (.badInlineCount value))

namespace Request

def applyPair (r : Request) (key value : String) : Except QueryError Request :=
  if key = "$take" then do pure { r with take := some (← countOf key value) }
  else if key = "$skip" then do pure { r with skip := some (← countOf key value) }
  else if key = "$filter" then do pure { r with filter := ← filterOfText value }
  else if key = "$orderby" then do pure { r with sort := ← sortOfText value }
  else if key = "$select" then .ok { r with fields := fieldsOfText value }
  else if key = "$inlinecount" then do pure { r with showTotal := ← inlineCountOf value }
  else if key = "$expand" ∨ key = "$format" then .error (.request (.unsupportedOption key))
  else if key.toList.head? = some '$' then .error (.request (.unknownOption key))
  else .ok (r.withValue key (.string value))

/-- Applies pairs up to the first that fails; those before it stay applied. -/
def applyPairs (r : Request) : List (String × String) → Option QueryError × Request
  | [] => (none, r)
  | (key, value) :: rest =>
    match r.applyPair key value with
    | .ok r => applyPairs r rest
    | .error e => (some e, r)

theorem applyPairs_append (r : Request) (first rest : List (String × String)) :
    r.applyPairs (first ++ rest) =
      match r.applyPairs first with
      | (none, r) => r.applyPairs rest
      | failed => failed := by
  induction first generalizing r with
  | nil => rfl
  | cons p first ih =>
    simp only [List.cons_append, applyPairs]
    split
    · exact ih _
    · rfl

/-- A query text without a leading question mark. -/
def bareQuery (query : String) : String :=
  match query.toList with
  | '?' :: rest => String.ofList rest
  | _ => query

def applyQuery (r : Request) (query : String) : Option QueryError × Request :=
  r.applyPairs (Form.pairs (bareQuery query))

def ofQuery (query : String) : Except QueryError Request :=
  match ({} : Request).applyQuery query with
  | (none, r) => .ok r
  | (some e, _) => .error e

end Request

end GridQuery
