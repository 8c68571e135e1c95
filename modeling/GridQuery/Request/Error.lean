import GridQuery.Filter.Error
import GridQuery.Source.Target

/-! # Errors of requests and queries -/

namespace GridQuery
open Text

inductive Expectation where
  | record (name : String)
  | sequence
  | string
  | boolean
  | unsigned
  | map
  deriving DecidableEq

def Expectation.message : Expectation → String
  | record name => "struct " ++ name
  | sequence => "a sequence"
  | string => "a string"
  | boolean => "a boolean"
  | unsigned => "u64"
  | map => "a map"

def Json.found : Json → String
  | null => "null"
  | bool b => "boolean `" ++ (if b then "true" else "false") ++ "`"
  | int n => "integer `" ++ toString n ++ "`"
  | float x => "floating point `" ++ floatText x ++ "`"
  | string s => "string " ++ quoted s
  | array _ => "sequence"
  | object _ => "map"

inductive ShapeError where
  | missingField (name : String)
  | wrongType (found : Json) (expected : Expectation)
  | wrongValue (found : Json) (expected : Expectation)
  /-- A record as an array lacks an item that it needs. -/
  | tooShort (length : Nat) (record : String) (fields : Nat)
  /-- A record as an array has more items than fields. -/
  | tooLong (length : Nat)

def ShapeError.message : ShapeError → String
  | missingField name => "missing field `" ++ name ++ "`"
  | wrongType found expected =>
    "invalid type: " ++ found.found ++ ", expected " ++ expected.message
  | wrongValue found expected =>
    "invalid value: " ++ found.found ++ ", expected " ++ expected.message
  | tooShort length record fields =>
    "invalid length " ++ toString length ++ ", expected struct " ++ record ++ " with " ++
      toString fields ++ " elements"
  | tooLong length =>
    "invalid length " ++ toString length ++ ", expected fewer elements in array"

inductive RequestCause where
  | twoSortKeys
  | noSortKey
  | badCount (option value : String)
  | badDirection (text : String)
  | badSortItem (text : String)
  | badInlineCount (value : String)
  | unsupportedOption (key : String)
  | unknownOption (key : String)
  | outOfRange (name : String) (value : Nat)
  deriving DecidableEq

def RequestCause.message : RequestCause → String
  | twoSortKeys => "orderby item has both selector and expression"
  | noSortKey => "orderby item needs a selector or an expression"
  | badCount option value => option ++ " must be a non-negative integer, got '" ++ value ++ "'"
  | badDirection text => "invalid sort direction '" ++ text ++ "'"
  | badSortItem text => "invalid $orderby item '" ++ text ++ "'"
  | badInlineCount value => "invalid $inlinecount '" ++ value ++ "'"
  | unsupportedOption key => key ++ " is not supported"
  | unknownOption key => "unknown query option " ++ key
  | outOfRange name value => name ++ " is out of range: " ++ toString value

inductive QueryError where
  | filter (e : FilterError)
  | unavailable (reason : String)
  | invalidName (text : String)
  | objectNotFound (name : ObjectName)
  | request (cause : RequestCause)
  | malformedBody
  | body (e : ShapeError)

def QueryError.message : QueryError → String
  | filter e => e.message
  | unavailable reason => "Schema metadata unavailable: " ++ reason
  | invalidName text => "Invalid identifier chain: " ++ text
  | objectNotFound name => "Object not found: " ++ name.text
  | request cause => "Invalid request: " ++ cause.message
  | malformedBody => "Invalid request JSON: not a JSON text"
  | body e => "Invalid request JSON: " ++ e.message

end GridQuery
