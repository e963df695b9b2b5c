import RecordStore.Decimal.Binary64

/-! # Shortest decimals

`Binary64.shortest` finds the decimal with the fewest digits that rounds to a given number. On the
grid of `n` digits only the two neighbours of the number can be candidates, so each grid costs two
tests in exact arithmetic; the first grid with a hit wins, and of two hits the nearer. -/

namespace RecordStore.Decimal

/-- The decimal `digits * 10 ^ exponent`. -/
structure Digits where
  digits : Nat
  exponent : Int
  deriving DecidableEq, Repr

/-- How many decimal digits `n` has; zero has none. -/
def digitCount (n : Nat) : Nat := if n = 0 then 0 else (Nat.toDigits 10 n).length

/-- The exponent of the leading digit of `num / den`. -/
def leadingExponent (num den : Nat) : Int :=
  if den ≤ num then (digitCount (num / den) : Int) - 1
  else -(digitCount ((den + num - 1) / num - 1) : Int)

/-- The quotient `num / den / 10 ^ e` as a quotient of natural numbers. -/
def scaleTen (num den : Nat) (e : Int) : Nat × Nat :=
  if 0 ≤ e then (num, den * Nat.pow 10 e.toNat) else (num * Nat.pow 10 (-e).toNat, den)

namespace Binary64

/-- The magnitudes that round to a number: from `low / unit` to `high / unit`, with the ends
included when the significand is even. The number itself is `mid / unit`. -/
structure Interval where
  low : Nat
  mid : Nat
  high : Nat
  unit : Nat
  closed : Bool

/-- The magnitudes that round to `x`. Below a power of two the neighbours are twice as near. -/
def interval (x : Binary64) : Interval :=
  let below := if x.significand = Nat.pow 2 52 ∧ leastExponent < x.exponent then 1 else 2
  let up := Nat.pow 2 x.exponent.toNat
  { low := (4 * x.significand - below) * up
    mid := 4 * x.significand * up
    high := (4 * x.significand + 2) * up
    unit := 4 * Nat.pow 2 (-x.exponent).toNat
    closed := x.significand % 2 = 0 }

/-- Whether `c * 10 ^ e` lies in the interval. -/
def Interval.contains (i : Interval) (c : Nat) (e : Int) : Bool :=
  let c := c * i.unit * Nat.pow 10 e.toNat
  let s := Nat.pow 10 (-e).toNat
  if i.closed then decide (i.low * s ≤ c) && decide (c ≤ i.high * s)
  else decide (i.low * s < c) && decide (c < i.high * s)

/-- The candidate of the grid `10 ^ e`: the nearer of the two neighbours that lie in the interval,
the even one of two as near. -/
def Interval.candidate (i : Interval) (e : Int) : Option Nat :=
  let (n, d) := Decimal.scaleTen i.mid i.unit e
  let q := n / d
  let r := n % d
  match i.contains q e, i.contains (q + 1) e with
  | true, true =>
    if 2 * r < d then some q else if d < 2 * r then some (q + 1)
    else if q % 2 = 0 then some q else some (q + 1)
  | true, false => some q
  | false, true => some (q + 1)
  | false, false => none

/-- The first hit on the grids of the exponents `e`, `e - 1`, …, at most `n` of them. -/
def Interval.search (i : Interval) (e : Int) : Nat → Option Digits
  | 0 => none
  | n + 1 =>
    match i.candidate e with
    | some c => if c = 0 then i.search (e - 1) n else some ⟨c, e⟩
    | none => i.search (e - 1) n

/-- Seventeen digits are enough for every number. -/
def mostDigits : Nat := 17

/-- Moves zeros at the end of the digits into the exponent. -/
def stripZeros (d : Digits) : Digits :=
  if d.digits ≠ 0 ∧ d.digits % 10 = 0 then stripZeros ⟨d.digits / 10, d.exponent + 1⟩ else d
termination_by d.digits
decreasing_by omega

/-- The decimal of fewest digits that rounds to the magnitude of `x`; no digits for zero. -/
def shortest (x : Binary64) : Digits :=
  if x.isZero then ⟨0, 0⟩
  else
    let i := x.interval
    match i.search (leadingExponent i.mid i.unit) mostDigits with
    | some d => stripZeros d
    | none => ⟨0, 0⟩

end Binary64

end RecordStore.Decimal
