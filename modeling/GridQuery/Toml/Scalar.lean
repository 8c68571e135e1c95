import GridQuery.Decimal.Layout
import GridQuery.Decimal.Numeral
import GridQuery.Text.Basic
import GridQuery.Text.Bytes
import GridQuery.Toml.Table

/-! # Scalars of TOML

Strings in their four forms, and the words that stand for numbers, truth values, dates and
times. -/

namespace GridQuery.Toml
open Text Decimal

def isPrintable (c : Char) : Bool := c = '\t' || (32 ≤ c.toNat && c.toNat != 127)

def scalarOfHex? (digits : List Char) : Option Char := do
  let n ← hexValue? digits
  guard (n < 0xD800 ∨ 0xDFFF < n ∧ n < 0x110000)
  pure (Char.ofNat n)

def readHexScalar (count : Nat) (s : List Char) : Option (Char × List Char) := do
  guard (count ≤ s.length)
  pure (← scalarOfHex? (s.take count), s.drop count)

def readEscape : Reader Char
  | '"' :: s => some ('"', s)
  | '\\' :: s => some ('\\', s)
  | 'b' :: s => some (Char.ofNat 8, s)
  | 't' :: s => some ('\t', s)
  | 'n' :: s => some ('\n', s)
  | 'f' :: s => some (Char.ofNat 12, s)
  | 'r' :: s => some ('\r', s)
  | 'e' :: s => some (Char.ofNat 27, s)
  | 'x' :: s => readHexScalar 2 s
  | 'u' :: s => readHexScalar 4 s
  | 'U' :: s => readHexScalar 8 s
  | _ => none

/-- Reads at most `fuel` characters of a basic string up to its closing quote. -/
def readBasic : Nat → Reader (List Char)
  | 0, _ => none
  | _, [] => none
  | fuel + 1, c :: s =>
    if c = '"' then some ([], s)
    else do
      guard (isPrintable c)
      let (d, s) ← if c = '\\' then readEscape s else some (c, s)
      let (text, s) ← readBasic fuel s
      pure (d :: text, s)

def readLiteral : Reader (List Char)
  | [] => none
  | c :: s =>
    if c = '\'' then some ([], s)
    else if isPrintable c then (readLiteral s).map fun (text, rest) => (c :: text, rest)
    else none

def dropLineBreak : List Char → List Char
  | '\n' :: s => s
  | '\r' :: '\n' :: s => s
  | s => s

def dropBlanks : List Char → List Char
  | [] => []
  | '\r' :: '\n' :: s => dropBlanks s
  | c :: s => if c = ' ' ∨ c = '\t' ∨ c = '\n' then dropBlanks s else c :: s

/-- Drops the white space behind a backslash at the end of a line; `none` if more stands on the
line. -/
def dropContinuation (s : List Char) : Option (List Char) :=
  match s.dropWhile fun c => c = ' ' || c = '\t' with
  | '\n' :: s => some (dropBlanks s)
  | '\r' :: '\n' :: s => some (dropBlanks s)
  | _ => none

/-- Splits a run of quotes that holds a closing triple into the quotes before it and the rest. -/
def splitClosing (quote : Char) (s : List Char) : Option (List Char × List Char) :=
  let run := (s.takeWhile (· == quote)).length
  if run < 3 then none
  else
    let extra := min (run - 3) 2
    some (List.replicate extra quote, s.drop (extra + 3))

def readMultiBasic : Nat → Reader (List Char)
  | 0, _ => none
  | _, [] => none
  | fuel + 1, c :: s =>
    match splitClosing '"' (c :: s) with
    | some closing => some closing
    | none =>
      if c = '\\' then
        match dropContinuation s with
        | some s => readMultiBasic fuel s
        | none => do
          let (d, s) ← readEscape s
          let (text, s) ← readMultiBasic fuel s
          pure (d :: text, s)
      else do
        guard (isPrintable c ∨ c = '\n' ∨ c = '\r' ∧ s.head? = some '\n')
        let (text, s) ← readMultiBasic fuel s
        pure (c :: text, s)

def readMultiLiteral : Reader (List Char)
  | [] => none
  | c :: s =>
    match splitClosing '\'' (c :: s) with
    | some closing => some closing
    | none =>
      if isPrintable c || c = '\n' || (c = '\r' && s.head? = some '\n') then
        (readMultiLiteral s).map fun (text, rest) => (c :: text, rest)
      else none

def readSingle : Reader String
  | '"' :: s => (readBasic (s.length + 1) s).map fun (text, rest) => (String.ofList text, rest)
  | '\'' :: s => (readLiteral s).map fun (text, rest) => (String.ofList text, rest)
  | _ => none

def readString (s : List Char) : Option (String × List Char) :=
  match s with
  | '"' :: '"' :: '"' :: s =>
    (readMultiBasic (s.length + 1) (dropLineBreak s)).map fun (text, rest) =>
      (String.ofList text, rest)
  | '\'' :: '\'' :: '\'' :: s =>
    (readMultiLiteral (dropLineBreak s)).map fun (text, rest) => (String.ofList text, rest)
  | s => readSingle s

/-- Digits without the single underscores between them. -/
def bareDigits? (isDigit : Char → Bool) (s : List Char) : Option (List Char) :=
  let groups := s.splitOn '_'
  if groups.all fun g => !g.isEmpty && g.all isDigit then some groups.flatten else none

/-- Decimal digits without a superfluous zero in front. -/
def wholeDigits? (s : List Char) : Option (List Char) := do
  let digits ← bareDigits? Char.isDigit s
  guard (s.length = 1 ∨ s.head? ≠ some '0')
  pure digits

def basedInteger? (base : Nat) (s : List Char) : Option Toml := do
  let digits ← bareDigits? (fun c => (hexDigit? c).any (· < base)) s
  pure (ofInt (digits.foldl (fun n c => base * n + (hexDigit? c).getD 0) 0))

def integer? (word : List Char) : Option Toml :=
  match word with
  | '0' :: 'x' :: s => basedInteger? 16 s
  | '0' :: 'o' :: s => basedInteger? 8 s
  | '0' :: 'b' :: s => basedInteger? 2 s
  | word => do
    let (negative, s) := splitSign word
    let n := digitsValue (← wholeDigits? s)
    pure (ofInt (if negative then -n else n))

/-- The float that a word with a fraction or an exponent denotes. -/
def fractional? (word : List Char) : Option Toml := do
  let (negative, s) := splitSign word
  let (mantissa, power) := s.span fun c => c != 'e' && c != 'E'
  let (whole, rest) := mantissa.span (· != '.')
  let whole ← wholeDigits? whole
  let fraction ← if rest.isEmpty then some [] else bareDigits? Char.isDigit (rest.drop 1)
  let exponent : Int ←
    if power.isEmpty then some 0
    else do
      let (down, digits) := splitSign (power.drop 1)
      let n : Int := digitsValue (← bareDigits? Char.isDigit digits)
      pure (if down then -n else n)
  let x := (Numeral.ofDigits negative whole fraction exponent).toFloat
  pure (if isFinite x then float x else overflow)

def float? (word : List Char) : Option Toml :=
  let (negative, s) := splitSign word
  if s = "inf".toList then some (float (if negative then -infinity else infinity))
  else if s = "nan".toList then some (float (Float.ofBits 0x7FF8000000000000))
  else fractional? word

def digitsOf? (count : Nat) (s : List Char) : Option Nat :=
  if s.length = count ∧ s.all Char.isDigit then some (digitsValue s) else none

def daysIn (year month : Nat) : Nat :=
  if month = 2 then
    if year % 4 = 0 ∧ (year % 100 ≠ 0 ∨ year % 400 = 0) then 29 else 28
  else if month ∈ [4, 6, 9, 11] then 30
  else 31

def isDate (s : List Char) : Bool :=
  match s.splitOn '-' with
  | [y, m, d] =>
    match digitsOf? 4 y, digitsOf? 2 m, digitsOf? 2 d with
    | some y, some m, some d => 1 ≤ m && m ≤ 12 && 1 ≤ d && d ≤ daysIn y m
    | _, _, _ => false
  | _ => false

def isPair (bound : Nat) (s : List Char) : Bool := (digitsOf? 2 s).any (· ≤ bound)

def isSeconds (s : List Char) : Bool :=
  match s.splitOn '.' with
  | [whole] => isPair 60 whole
  | [whole, fraction] => isPair 60 whole && !fraction.isEmpty && fraction.all Char.isDigit
  | _ => false

def isTime (s : List Char) : Bool :=
  match s.splitOn ':' with
  | [h, m] => isPair 23 h && isPair 59 m
  | [h, m, sec] => isPair 23 h && isPair 59 m && isSeconds sec
  | _ => false

def isOffsetTime (s : List Char) : Bool :=
  let (time, offset) := s.span fun c => c.isDigit || c = ':' || c = '.'
  isTime time &&
    match offset with
    | [] => true
    | [c] => c = 'Z' || c = 'z'
    | c :: offset =>
      (c = '+' || c = '-') &&
        match offset.splitOn ':' with
        | [h, m] => isPair 23 h && isPair 59 m
        | _ => false

def dateTime? (word : List Char) : Option Toml :=
  let date := word.take 10
  let valid := match word.drop 10 with
    | [] => isDate date
    | c :: time => isDate date && (c = 'T' || c = 't' || c = ' ') && isOffsetTime time
  if valid || isTime word then some (dateTime (String.ofList word)) else none

def ofWord? (word : List Char) : Option Toml :=
  if word = "true".toList then some (boolean true)
  else if word = "false".toList then some (boolean false)
  else integer? word <|> float? word <|> dateTime? word

def endsWord (c : Char) : Bool := c ∈ [' ', '\t', '\n', '\r', ',', ']', '}', '#', '=']

/-- Reads a word; a date may be followed by a space and a time. -/
def readWord (s : List Char) : List Char × List Char :=
  let (word, rest) := s.span (!endsWord ·)
  match rest with
  | ' ' :: d :: rest' =>
    if isDate word && d.isDigit then
      let (time, rest) := (d :: rest').span (!endsWord ·)
      (word ++ ' ' :: time, rest)
    else (word, rest)
  | _ => (word, rest)

/-- Reads a value that is no string, array or table. -/
def readScalar (s : List Char) : Option (Toml × List Char) :=
  (ofWord? (readWord s).1).map (·, (readWord s).2)

end GridQuery.Toml
