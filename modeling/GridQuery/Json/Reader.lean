import GridQuery.Assoc
import GridQuery.Json.Number
import GridQuery.Text.Basic
import GridQuery.Text.Bytes

/-! # Reading JSON

Arrays and objects nest at most 127 deep. A repeated key keeps its first place and takes its
last value. -/

namespace GridQuery.Json
open Text

def skipSpace (s : List Char) : List Char :=
  s.dropWhile fun c => c = ' ' || c = '\t' || c = '\n' || c = '\r'

def readUnit : Reader Nat
  | a :: b :: c :: d :: rest => (hexValue? [a, b, c, d]).map (·, rest)
  | _ => none

/-- Reads the code unit of a `\u` escape; a high surrogate needs a low one behind it. -/
def readEscapedUnit (s : List Char) : Option (Char × List Char) := do
  let (unit, s) ← readUnit s
  if 0xD800 ≤ unit ∧ unit < 0xDC00 then
    match s with
    | '\\' :: 'u' :: s =>
      let (low, s) ← readUnit s
      guard (0xDC00 ≤ low ∧ low < 0xE000)
      pure (Char.ofNat (0x10000 + (unit - 0xD800) * 0x400 + (low - 0xDC00)), s)
    | _ => none
  else
    guard (unit < 0xDC00 ∨ 0xE000 ≤ unit)
    pure (Char.ofNat unit, s)

def readEscape : Reader Char
  | '"' :: s => some ('"', s)
  | '\\' :: s => some ('\\', s)
  | '/' :: s => some ('/', s)
  | 'b' :: s => some (Char.ofNat 8, s)
  | 'f' :: s => some (Char.ofNat 12, s)
  | 'n' :: s => some ('\n', s)
  | 'r' :: s => some ('\r', s)
  | 't' :: s => some ('\t', s)
  | 'u' :: s => readEscapedUnit s
  | _ => none

/-- Reads at most `fuel` characters of a string up to its closing quote. -/
def readChars : Nat → Reader (List Char)
  | 0, _ => none
  | _, [] => none
  | fuel + 1, c :: s =>
    if c = '"' then some ([], s)
    else do
      guard (32 ≤ c.toNat)
      let (d, s) ← if c = '\\' then readEscape s else some (c, s)
      let (text, s) ← readChars fuel s
      pure (d :: text, s)

def readString (s : List Char) : Option (String × List Char) :=
  (readChars (s.length + 1) s).map fun (text, rest) => (String.ofList text, rest)

/-- Reads items behind a first one, up to the closing bracket. -/
def readMore {α : Type} (item : Reader α) (close : Char) : Nat → Reader (List α)
  | 0, _ => none
  | fuel + 1, s =>
    match skipSpace s with
    | [] => none
    | c :: s =>
      if c = close then some ([], s)
      else do
        guard (c = ',')
        let (x, s) ← item s
        let (xs, s) ← readMore item close fuel s
        pure (x :: xs, s)

/-- Reads a comma-separated list behind its opening bracket. -/
def readList {α : Type} (item : Reader α) (close : Char) (s : List Char) :
    Option (List α × List Char) :=
  match skipSpace s with
  | [] => none
  | c :: rest =>
    if c = close then some ([], rest)
    else do
      let (x, rest) ← item (c :: rest)
      let (xs, rest) ← readMore item close (rest.length + 1) rest
      pure (x :: xs, rest)

def readField (value : Reader Json) (s : List Char) : Option ((String × Json) × List Char) :=
  match skipSpace s with
  | '"' :: s => do
    let (key, s) ← readString s
    match skipSpace s with
    | ':' :: s =>
      let (v, s) ← value s
      pure ((key, v), s)
    | _ => none
  | _ => none

def readWord (word : String) (v : Json) (s : List Char) : Option (Json × List Char) :=
  if word.toList.isPrefixOf s then some (v, s.drop word.length) else none

/-- Reads a value with `depth` more levels of arrays and objects. -/
def readValue : Nat → Reader Json
  | depth, s =>
    match skipSpace s with
    | 'n' :: s => readWord "ull" null s
    | 't' :: s => readWord "rue" (bool true) s
    | 'f' :: s => readWord "alse" (bool false) s
    | '"' :: s => (readString s).map fun (text, rest) => (string text, rest)
    | '[' :: s =>
      match depth with
      | 0 => none
      | depth + 1 => (readList (readValue depth) ']' s).map fun (items, rest) => (array items, rest)
    | '{' :: s =>
      match depth with
      | 0 => none
      | depth + 1 =>
        (readList (readField (readValue depth)) '}' s).map fun (fields, rest) =>
          (object (fields.foldl (fun m (k, v) => Assoc.put m k v) []), rest)
    | s => readNumber? s

/-- Reads a whole document; `none` if the text is not JSON. -/
def read? (s : String) : Option Json := do
  let (v, rest) ← readValue 127 s.toList
  guard (skipSpace rest).isEmpty
  pure v

end GridQuery.Json
