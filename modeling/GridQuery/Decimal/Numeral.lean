/-! # Numbers in decimal digits

An integer may fit 64 bits. A numeral denotes the double nearest to its exact value; a value too
large for the doubles denotes infinity. -/

namespace GridQuery

def signed? (n : Int) : Option Int64 :=
  if Int64.minValue.toInt ≤ n ∧ n ≤ Int64.maxValue.toInt then some (Int64.ofInt n) else none

def unsigned? (n : Int) : Option UInt64 :=
  if 0 ≤ n ∧ n < UInt64.size then some (UInt64.ofNat n.toNat) else none

theorem toInt_of_signed? {n : Int} {m : Int64} (h : signed? n = some m) : m.toInt = n := by
  unfold signed? at h
  split at h
  · rename_i hn
    cases h
    rw [Int64.toInt_minValue, Int64.toInt_maxValue] at hn
    exact Int64.toInt_ofInt_of_le hn.1 (by omega)
  · simp at h

theorem signed?_toInt (m : Int64) : signed? m.toInt = some m := by
  have := m.le_toInt
  have := m.toInt_lt
  rw [signed?, Int64.toInt_minValue, Int64.toInt_maxValue, if_pos (by omega), Int64.ofInt_toInt]

theorem unsigned?_toNat (m : UInt64) : unsigned? m.toNat = some m := by
  unfold unsigned?
  have := m.toNat_lt
  rw [if_pos ⟨by omega, by simp only [UInt64.size]; omega⟩]
  simp

namespace Decimal

/-- The number `± digits · 10 ^ scale`. -/
structure Numeral where
  negative : Bool
  digits : Nat
  scale : Int

def digitsValue (digits : List Char) : Nat := Nat.ofDigitChars 10 digits 0

def infinity : Float := Float.ofBits 0x7FF0000000000000

def Numeral.toFloat (n : Numeral) : Float :=
  let size := (Nat.toDigits 10 n.digits).length + n.scale
  let x :=
    if n.digits = 0 ∨ size < -330 then 0.0
    else if 310 < size then infinity
    else Float.ofScientific n.digits (n.scale < 0) n.scale.natAbs
  if n.negative then -x else x

def Numeral.ofDigits (negative : Bool) (whole fraction : List Char) (exponent : Int) : Numeral :=
  ⟨negative, digitsValue (whole ++ fraction), exponent - fraction.length⟩

/-- Splits off a leading sign; the first component says whether it is a minus. -/
def splitSign : List Char → Bool × List Char
  | '-' :: rest => (true, rest)
  | '+' :: rest => (false, rest)
  | s => (false, s)

/-- Reads digits with an optional fraction and an optional exponent. -/
def Numeral.read? (s : List Char) : Option Numeral := do
  let (negative, s) := splitSign s
  let (whole, s) := s.span Char.isDigit
  let (fraction, s) := match s with
    | '.' :: r => r.span Char.isDigit
    | r => ([], r)
  guard !(whole.isEmpty && fraction.isEmpty)
  match s with
  | [] => pure (ofDigits negative whole fraction 0)
  | c :: r =>
    guard (c = 'e' ∨ c = 'E')
    let (down, r) := splitSign r
    guard (!r.isEmpty && r.all Char.isDigit)
    let size : Int := digitsValue r
    pure (ofDigits negative whole fraction (if down then -size else size))

/-- Reads a double, also an infinite or undefined one. -/
def read? (s : String) : Option Float :=
  match s with
  | "NaN" => some (Float.ofBits 0x7FF8000000000000)
  | "inf" => some infinity
  | "-inf" => some (-infinity)
  | s => (Numeral.read? s.toList).map Numeral.toFloat

end Decimal
end GridQuery
