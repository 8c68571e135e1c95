import GridQuery.Decimal.Shortest

/-! # Decimal text of a double

The digits are the shortest that read back. A layout says which sizes are written positionally,
how an exponent is marked and which way a tie between two last digits goes. -/

namespace GridQuery.Decimal

/-- A way to lay out the digits of a double. -/
structure Layout where
  /-- The least decimal exponent written positionally. -/
  least : Int
  /-- The first decimal exponent too large to be written positionally. -/
  limit : Int
  /-- Whether a positive exponent carries a plus sign. -/
  plus : Bool
  tie : Tie

/-- Digits `d₀ d₁ …` that stand for `d₀.d₁… · 10 ^ e`. -/
def Layout.digitsText (l : Layout) (digits : List Char) (e : Int) : List Char :=
  if l.least ≤ e ∧ e < l.limit then
    if e < 0 then '0' :: '.' :: List.replicate (-e - 1).toNat '0' ++ digits
    else
      let whole := e.toNat + 1
      let fraction := digits.drop whole
      digits.take whole ++ List.replicate (whole - digits.length) '0' ++
        '.' :: if fraction.isEmpty then ['0'] else fraction
  else
    let sign := if e < 0 then ['-'] else if l.plus then ['+'] else []
    let fraction := digits.drop 1
    digits.take 1 ++ (if fraction.isEmpty then [] else '.' :: fraction) ++
      'e' :: sign ++ Nat.toDigits 10 e.natAbs

def isFinite (x : Float) : Bool := x.toBits.toNat / leadingBit % 2048 != 2047

def Layout.text (l : Layout) (x : Float) : String :=
  let bits := x.toBits.toNat
  let fraction := bits % leadingBit
  let scale := bits / leadingBit % 2048
  let sign := if bits / leadingBit / 2048 = 1 then "-" else ""
  if scale = 2047 then if fraction = 0 then sign ++ "inf" else "NaN"
  else if scale = 0 ∧ fraction = 0 then sign ++ "0.0"
  else
    let binary : Binary :=
      if scale = 0 then ⟨fraction, -1074⟩ else ⟨fraction + leadingBit, Int.ofNat scale - 1075⟩
    let (d, k) := binary.shortest l.tie
    let digits := Nat.toDigits 10 d
    sign ++ String.ofList (l.digitsText digits (k + digits.length - 1))

/-- Plain text: positional from `10 ^ -5` up to `10 ^ 16`. -/
def plain : Layout := ⟨-5, 16, false, .even⟩

/-- As plain text, with a plus sign on positive exponents. -/
def signed : Layout := ⟨-5, 16, true, .even⟩

/-- As plain text, positional only from `10 ^ -4`; a tie goes up. -/
def narrow : Layout := ⟨-4, 16, false, .up⟩

end GridQuery.Decimal
