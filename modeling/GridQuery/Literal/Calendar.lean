/-! # Points and spans of time

A point of time counts its seconds up to 59; a leap second is held as nanoseconds from one
thousand million on. -/

namespace GridQuery

/-- Digits of `n`, filled up with zeros to a width. -/
def padded (width n : Nat) : String :=
  let digits := Nat.toDigits 10 n
  String.ofList (List.replicate (width - digits.length) '0' ++ digits)

structure DateTime where
  year : Int
  month : Nat
  day : Nat
  hour : Nat
  minute : Nat
  second : Nat
  nanosecond : Nat
  deriving DecidableEq

namespace DateTime
variable (t : DateTime)

/-- Four digits; a year outside them carries its sign. -/
def yearText : String :=
  if 0 ≤ t.year ∧ t.year ≤ 9999 then padded 4 t.year.toNat
  else (if t.year < 0 then "-" else "+") ++ padded 4 t.year.natAbs

def dateText : String := t.yearText ++ "-" ++ padded 2 t.month ++ "-" ++ padded 2 t.day

/-- The time of day without a fraction; a leap second is second 60. -/
def clockText : String :=
  padded 2 t.hour ++ ":" ++ padded 2 t.minute ++ ":" ++
    padded 2 (t.second + t.nanosecond / 1000000000)

def fraction : Nat := t.nanosecond % 1000000000

def text (separator : String) : String :=
  t.dateText ++ separator ++ t.clockText ++ "." ++ padded 3 (t.fraction / 1000000)

/-- Date and time with as many of three, six or nine decimals as are needed. -/
def exactText : String :=
  let f := t.fraction
  let decimals :=
    if f = 0 then ""
    else if f % 1000000 = 0 then "." ++ padded 3 (f / 1000000)
    else if f % 1000 = 0 then "." ++ padded 6 (f / 1000)
    else "." ++ padded 9 f
  t.dateText ++ "T" ++ t.clockText ++ decimals

end DateTime

/-- A span of time: whole seconds rounded down, and the nanoseconds above them. -/
structure TimeSpan where
  seconds : Int
  nanoseconds : Nat
  deriving DecidableEq

/-- Whole milliseconds, rounded towards zero. -/
def TimeSpan.milliseconds (s : TimeSpan) : Int :=
  (s.seconds * 1000000000 + s.nanoseconds).tdiv 1000000

end GridQuery
