import GridQuery.Decimal.Numeral
import GridQuery.Json.Basic

/-! # JSON numbers

An integer of 64 bits, signed or unsigned, stays an integer. Every other number is a double: the
leading digits that fit 64 bits, scaled once by a power of ten. -/

namespace GridQuery.Json
open Decimal

/-- Appends digits to a significand as long as it stays below `2 ^ 64`; also says how many were
taken. -/
def absorb (significand : Nat) : List Char → Nat × Nat
  | [] => (significand, 0)
  | c :: rest =>
    let next := 10 * significand + (c.toNat - 48)
    if next < UInt64.size then
      let (final, taken) := absorb next rest
      (final, taken + 1)
    else (significand, 0)

def power (e : Nat) : Float := Float.ofScientific 1 false e

/-- The number `x · 10 ^ e`; `none` where it exceeds the doubles. -/
def scale? (x : Float) (e : Int) : Option Float :=
  if 308 < e then if x == 0.0 then some 0.0 else none
  else if 0 ≤ e then
    let y := x * power e.toNat
    if y.isInf then none else some y
  else if -308 ≤ e then some (x / power (-e).toNat)
  else if -616 ≤ e then some (x / power 308 / power (-(e + 308)).toNat)
  else some 0.0

structure Digits where
  negative : Bool
  whole : List Char
  /-- The digits behind a point; empty without a point. -/
  fraction : List Char
  exponent : Option Int

def Digits.toJson? (d : Digits) : Option Json :=
  let n := digitsValue d.whole
  let isInteger := d.fraction.isEmpty && d.exponent.isNone
  if isInteger && !d.negative && n < UInt64.size then some (int n)
  else if isInteger && d.negative && 0 < n && (signed? (-n)).isSome then some (int (-n))
  else
    let (significand, taken) := absorb 0 d.whole
    let (significand, takenFraction) := absorb significand d.fraction
    let e := (d.whole.length : Int) - taken - takenFraction + d.exponent.getD 0
    (scale? (Float.ofNat significand) e).map fun x => float (if d.negative then -x else x)

def readNumber? (s : List Char) : Option (Json × List Char) := do
  let (negative, s) := match s with
    | '-' :: r => (true, r)
    | r => (false, r)
  let (whole, s) := s.span Char.isDigit
  guard (!whole.isEmpty && (whole.head? != some '0' || whole.length == 1))
  let (fraction, s) ← match s with
    | '.' :: r =>
      let (fraction, r) := r.span Char.isDigit
      if fraction.isEmpty then none else some (fraction, r)
    | r => some ([], r)
  let (exponent, s) ← match s with
    | c :: r =>
      if c = 'e' ∨ c = 'E' then
        let (down, r) := splitSign r
        let (digits, r) := r.span Char.isDigit
        let e : Int := digitsValue digits
        if digits.isEmpty then none else some (some (if down then -e else e), r)
      else some (none, c :: r)
    | [] => some (none, [])
  let v ← Digits.toJson? ⟨negative, whole, fraction, exponent⟩
  pure (v, s)

end GridQuery.Json
