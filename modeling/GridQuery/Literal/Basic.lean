import GridQuery.Decimal.Numeral
import GridQuery.Json.Basic
import GridQuery.Literal.Calendar
import GridQuery.Text.Basic
import GridQuery.Text.Bytes

/-! # Literals

The typed values that a caller supplies. A literal is read from a JSON scalar, shown as JSON, turned
into the text of a pattern, and written into a script. There a string stands between single quotes
with its own quotes doubled, marked by an `N` when it has a character beyond ASCII. -/

namespace GridQuery
open Text Decimal

/-- An identifier of 128 bits. -/
structure Guid where
  bits : BitVec 128
  deriving DecidableEq

/-- Thirty-two lower-case digits in groups of 8, 4, 4, 4 and 12. -/
def Guid.text (g : Guid) : String :=
  let digits := Nat.toDigits 16 g.bits.toNat
  let d := List.replicate (32 - digits.length) '0' ++ digits
  let group (start size : Nat) := String.ofList ((d.drop start).take size)
  String.intercalate "-" [group 0 8, group 8 4, group 12 4, group 16 4, group 20 12]

/-- Reads digits of either case; hyphens may stand anywhere. -/
def Guid.read? (s : String) : Option Guid := do
  let digits := s.toList.filter (· != '-')
  guard (digits.length = 32)
  let n ← hexValue? digits
  pure ⟨BitVec.ofNat 128 n⟩

/-- A value of one of the kinds that can be bound or written into a script. -/
inductive Literal where
  | null
  | bool (b : Bool)
  | int (n : Int64)
  | float (x : Float)
  | string (s : String)
  | dateTime (t : DateTime)
  | timeSpan (s : TimeSpan)
  | guid (g : Guid)
  | bytes (b : List UInt8)

inductive KindError where
  /-- The JSON value or literal has no written form. -/
  | unsupported (kind : String)
  /-- The literal has no text to match. -/
  | inPattern (kind : String)
  deriving DecidableEq

def KindError.message : KindError → String
  | unsupported kind => "Unsupported value kind: " ++ kind
  | inPattern kind => "Unsupported value kind: " ++ kind ++ " in a pattern"

namespace Literal

def kind : Literal → String
  | null => "null"
  | bool _ => "bool"
  | int _ => "int"
  | float _ => "float"
  | string _ => "string"
  | dateTime _ => "datetime"
  | timeSpan _ => "timespan"
  | guid _ => "guid"
  | bytes _ => "bytes"

def isNull : Literal → Bool
  | null => true
  | _ => false

/-- The literal of a JSON scalar; an integer beyond 64 signed bits becomes a double. -/
def ofJson : Json → Except KindError Literal
  | .null => .ok null
  | .bool b => .ok (bool b)
  | .int n =>
    match signed? n with
    | some m => .ok (int m)
    | none => .ok (float (Float.ofInt n))
  | .float x => .ok (float x)
  | .string s => .ok (string s)
  | .array _ => .error (.unsupported "array")
  | .object _ => .error (.unsupported "object")

def hexText (b : List UInt8) : String := String.ofList (b.flatMap hexByte)

/-- The literal as JSON: a span of time in seconds, bytes as hexadecimal digits. -/
def toJson : Literal → Json
  | null => .null
  | bool b => .bool b
  | int n => .int n.toInt
  | float x => if isFinite x then .float x else .null
  | string s => .string s
  | dateTime t => .string (t.text "T")
  | timeSpan s => .float (Float.ofInt s.milliseconds / 1000.0)
  | guid g => .string g.text
  | bytes b => .string (hexText b)

/-- The text that a pattern operator searches for. -/
def patternText : Literal → Except KindError String
  | string s => .ok s
  | int n => .ok (toString n.toInt)
  | float x => if isFinite x then .ok (plain.text x) else .error (.inPattern "float")
  | guid g => .ok g.text
  | other => .error (.inPattern other.kind)

end Literal

def quotedText (s : String) : String := String.ofList ('\'' :: doubled '\'' s.toList ++ ['\''])

def quoteString (s : String) : String := if isAscii s then quotedText s else "N" ++ quotedText s

/-- A literal as a script writes it; spans of time and unbounded doubles have no written form. -/
def Literal.quote : Literal → Except KindError String
  | null => .ok "NULL"
  | bool b => .ok (if b then "1" else "0")
  | int n => .ok (toString n.toInt)
  | float x => if isFinite x then .ok (plain.text x) else .error (.unsupported "float")
  | string s => .ok (quoteString s)
  | dateTime t => .ok ("'" ++ t.text " " ++ "'")
  | timeSpan _ => .error (.unsupported "timespan")
  | guid g => .ok ("'" ++ g.text ++ "'")
  | bytes b => .ok ("CONVERT(VARBINARY(MAX), '0x" ++ Literal.hexText b ++ "', 1)")

def commaList (items : List String) : String := String.intercalate ", " items

def rowText (cells : List String) : String := "(" ++ commaList cells ++ ")"

def rowList (rows : List (List String)) : String := commaList (rows.map rowText)

/-- Items on lines of their own, each but the last ending in a comma. -/
def commaLines (items : List String) : String := String.intercalate ",\n" items

end GridQuery
