/-! # Bytes

Bytes as hexadecimal digits, and as UTF-8. The decoding accepts every byte sequence: each longest
beginning of a character that cannot be completed becomes one replacement character. -/

namespace GridQuery.Text

/-- A number in lower-case hexadecimal digits, without leading zeros. -/
def hex (n : Nat) : String := String.ofList (Nat.toDigits 16 n)

/-- The value of a hexadecimal digit of either case. -/
def hexDigit? (c : Char) : Option Nat :=
  if c.isDigit then some (c.toNat - 48)
  else if 'a' ≤ c && c ≤ 'f' then some (c.toNat - 87)
  else if 'A' ≤ c && c ≤ 'F' then some (c.toNat - 55)
  else none

def hexValue? (digits : List Char) : Option Nat :=
  digits.foldl (fun value c => value.bind fun n => (hexDigit? c).map (16 * n + ·)) (some 0)

/-- A byte as two upper-case hexadecimal digits. -/
def hexByte (b : UInt8) : List Char :=
  [(b.toNat / 16).digitChar.toUpper, (b.toNat % 16).digitChar.toUpper]

def bytesOfHex? : List Char → Option (List UInt8)
  | [] => some []
  | [_] => none
  | high :: low :: rest => do
    let h ← hexDigit? high
    let l ← hexDigit? low
    let bytes ← bytesOfHex? rest
    pure (UInt8.ofNat (16 * h + l) :: bytes)

def utf8 (s : String) : List UInt8 := s.toList.flatMap String.utf8EncodeChar

/-- A character of several bytes whose last bytes are still to come. -/
structure Unfinished where
  /-- The bits read so far. -/
  code : Nat
  missing : Nat
  /-- The least and greatest byte that may come next. -/
  low : Nat
  high : Nat

/-- What a first byte of a longer character begins. -/
def Unfinished.ofLead? (b : Nat) : Option Unfinished :=
  if 0xC2 ≤ b ∧ b ≤ 0xDF then some ⟨b - 0xC0, 1, 0x80, 0xBF⟩
  else if b = 0xE0 then some ⟨0, 2, 0xA0, 0xBF⟩
  else if b = 0xED then some ⟨0xD, 2, 0x80, 0x9F⟩
  else if 0xE1 ≤ b ∧ b ≤ 0xEF then some ⟨b - 0xE0, 2, 0x80, 0xBF⟩
  else if b = 0xF0 then some ⟨0, 3, 0x90, 0xBF⟩
  else if 0xF1 ≤ b ∧ b ≤ 0xF3 then some ⟨b - 0xF0, 3, 0x80, 0xBF⟩
  else if b = 0xF4 then some ⟨4, 3, 0x80, 0x8F⟩
  else none

def replacement : Char := Char.ofNat 0xFFFD

def decodeFrom : Option Unfinished → List UInt8 → List Char
  | none, [] => []
  | some _, [] => [replacement]
  | state, byte :: rest =>
    let b := byte.toNat
    let fresh (lost : List Char) : List Char :=
      if b < 0x80 then lost ++ Char.ofNat b :: decodeFrom none rest
      else match Unfinished.ofLead? b with
        | some u => lost ++ decodeFrom (some u) rest
        | none => lost ++ replacement :: decodeFrom none rest
    match state with
    | none => fresh []
    | some u =>
      if u.low ≤ b ∧ b ≤ u.high then
        let code := 64 * u.code + (b - 0x80)
        if u.missing = 1 then Char.ofNat code :: decodeFrom none rest
        else decodeFrom (some ⟨code, u.missing - 1, 0x80, 0xBF⟩) rest
      else fresh [replacement]

/-- Decodes bytes, putting the replacement character where they are not UTF-8. -/
def decodeLossy (bytes : List UInt8) : List Char := decodeFrom none bytes

end GridQuery.Text
