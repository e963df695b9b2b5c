/-! # Binary floating-point numbers of 64 bits

A finite number is a sign, a natural significand and a power of two. `Binary64.ofRatio` rounds a
quotient of natural numbers to the nearest such number, ties going to the even significand; it is
the only place where anything is rounded, so multiplication and division are exact up to one
rounding. -/

namespace RecordStore.Decimal

/-- The number `± significand * 2 ^ exponent`. A normal number has a significand of 53 bits; a
subnormal one and zero have the least exponent, `-1074`. -/
structure Binary64 where
  negative : Bool
  significand : Nat
  exponent : Int
  deriving DecidableEq, Repr

namespace Binary64

def leastExponent : Int := -1074

def greatestExponent : Int := 971

def zero (negative : Bool) : Binary64 := ⟨negative, 0, leastExponent⟩

def isZero (x : Binary64) : Bool := x.significand = 0

def withSign (negative : Bool) (x : Binary64) : Binary64 := { x with negative := negative }

/-- The quotient `num / den` as a natural number: the nearest, or the even one of two as near. -/
def roundDiv (num den : Nat) : Nat :=
  let q := num / den
  let r := num % den
  if 2 * r < den then q
  else if den < 2 * r then q + 1
  else if q % 2 = 0 then q
  else q + 1

/-- The quotient `num / den / 2 ^ e` as a quotient of natural numbers. -/
def scaleTwo (num den : Nat) (e : Int) : Nat × Nat :=
  if 0 ≤ e then (num, den * Nat.pow 2 e.toNat) else (num * Nat.pow 2 (-e).toNat, den)

/-- The exponent that leaves `num / den` a significand of 53 bits, but no less than the least. -/
def exponentFor (num den : Nat) : Int :=
  let e : Int := (num.log2 : Int) - den.log2 - 52
  let (n, d) := scaleTwo num den e
  max leastExponent (if n / d < Nat.pow 2 52 then e - 1 else e)

/-- The number nearest to `num / den`; nothing when that is beyond the greatest one. -/
def ofRatio (num den : Nat) : Option Binary64 :=
  if num = 0 then some (zero false)
  else
    let e := exponentFor num den
    let (n, d) := scaleTwo num den e
    let m := roundDiv n d
    let (m, e) := if m = Nat.pow 2 53 then (Nat.pow 2 52, e + 1) else (m, e)
    if greatestExponent < e then none else some ⟨false, m, e⟩

def ratio (x : Binary64) : Nat × Nat :=
  if 0 ≤ x.exponent then (x.significand * Nat.pow 2 x.exponent.toNat, 1)
  else (x.significand, Nat.pow 2 (-x.exponent).toNat)

/-- The product of two magnitudes, rounded once. -/
def mul (x y : Binary64) : Option Binary64 :=
  ofRatio (x.ratio.1 * y.ratio.1) (x.ratio.2 * y.ratio.2)

/-- The quotient of two magnitudes, rounded once; nothing for a divisor of zero. -/
def div (x y : Binary64) : Option Binary64 :=
  if y.isZero then none else ofRatio (x.ratio.1 * y.ratio.2) (x.ratio.2 * y.ratio.1)

/-- The greatest power of ten that is a finite number. -/
def greatestPower : Nat := 308

/-- Brings `x * 10 ^ -n` into the reach of one division by a power of ten: while `n` is too large,
`x` is divided by the greatest power. -/
def descend (x : Binary64) (n : Nat) : Option (Binary64 × Nat) :=
  if n ≤ greatestPower ∨ x.isZero then some (x, n)
  else do descend (← x.div (← ofRatio (Nat.pow 10 greatestPower) 1)) (n - greatestPower)
termination_by n
decreasing_by simp only [greatestPower] at *; omega

/-- The magnitude `significand * 10 ^ exponent`. The significand is rounded first and then scaled
by a power of ten; each step rounds. Nothing when the result is too large. -/
def scaleTen (significand : Nat) (exponent : Int) : Option Binary64 := do
  let x ← ofRatio significand 1
  if x.isZero then some x
  else if 0 ≤ exponent then
    if greatestPower < exponent.toNat then none
    else x.mul (← ofRatio (Nat.pow 10 exponent.toNat) 1)
  else
    let (y, n) ← descend x (-exponent).toNat
    if y.isZero then some y else y.div (← ofRatio (Nat.pow 10 n) 1)

end Binary64

end RecordStore.Decimal
