/-! # Shortest decimals

A positive binary number is written with the fewest decimal digits that read back as the same
number. The grids of multiples of a power of ten are tried from the coarsest on, and on each grid
only the two neighbours of the number. -/

namespace GridQuery.Decimal

/-- Which of two neighbours on a grid stands for a number halfway between them. -/
inductive Tie where
  /-- The even multiple of the step. -/
  | even
  /-- The larger one. -/
  | up

def Tie.isBelow (tie : Tie) (below : Nat) : Bool :=
  match tie with
  | even => below % 2 = 0
  | up => false

/-- The number `significand · 2 ^ exponent`. -/
structure Binary where
  significand : Nat
  exponent : Int

/-- The weight of the leading bit of a double's significand. -/
def leadingBit : Nat := 0x10000000000000

namespace Binary
variable (b : Binary)

/-- The lower end of the reals that round to the number, in quarters of its last place. -/
def low : Nat :=
  4 * b.significand - if b.significand = leadingBit ∧ -1074 < b.exponent then 1 else 2

/-- The upper end of the reals that round to the number, in quarters of its last place. -/
def high : Nat := 4 * b.significand + 2

/-- The step of the grid of multiples of `10 ^ k`, in the unit that makes all sides whole. -/
def step (k : Int) : Nat := Nat.pow 10 k.toNat * Nat.pow 2 (2 - b.exponent).toNat

/-- A quarter of the number's last place, in the same unit. -/
def quarter (k : Int) : Nat := Nat.pow 2 (b.exponent - 2).toNat * Nat.pow 10 (-k).toNat

/-- Whether `d · 10 ^ k` reads back as the number; the ends of the interval do so only for an
even significand. -/
def readsBack (k : Int) (d : Nat) : Bool :=
  let x := d * b.step k
  let l := b.low * b.quarter k
  let h := b.high * b.quarter k
  if b.significand % 2 = 0 then l ≤ x && x ≤ h else l < x && x < h

/-- The nearest multiple of `10 ^ k` that reads back. -/
def onGrid (tie : Tie) (k : Int) : Option Nat :=
  let x := 4 * b.significand * b.quarter k
  let below := x / b.step k
  let under := x - below * b.step k
  let above := (below + 1) * b.step k - x
  match b.readsBack k below, b.readsBack k (below + 1) with
  | true, true =>
    some (if under < above ∨ under = above ∧ tie.isBelow below then below else below + 1)
  | true, false => some below
  | false, true => some (below + 1)
  | false, false => none

def search (tie : Tie) : Nat → Int → Nat × Int
  | 0, k => (0, k)
  | n + 1, k =>
    match b.onGrid tie k with
    | some d => (d, k)
    | none => search tie n (k - 1)

/-- The shortest decimal `d · 10 ^ k` that reads back as the number. All doubles lie between the
coarsest grid and the finest. -/
def shortest (tie : Tie) : Nat × Int := b.search tie 660 309

end Binary
end GridQuery.Decimal
