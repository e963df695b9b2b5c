import RecordStore.Decimal.Shortest

/-! # The text of a number

Numbers are written with the fewest digits that read back. Between the limits of `Layout` they
are written out in full, with a fraction even when it is zero; outside them as a digit, the other
digits after a point, and a signed exponent. -/

namespace RecordStore.Decimal

/-- Where positional writing ends: the exponents of the leading digit for which it is used. -/
structure Layout where
  least : Int
  greatest : Int

/-- Positional from `1e-5` up to, but without, `1e16`. -/
def layout : Layout := ⟨-5, 15⟩

/-- The digits written out: `point` digits stand before the point, which may lie outside them. -/
def positional (digits : List Char) (point : Int) : List Char :=
  if point ≤ 0 then ['0', '.'] ++ List.replicate (-point).toNat '0' ++ digits
  else if digits.length ≤ point.toNat then
    digits ++ List.replicate (point.toNat - digits.length) '0' ++ ['.', '0']
  else digits.take point.toNat ++ ['.'] ++ digits.drop point.toNat

def scientific (digits : List Char) (exponent : Int) : List Char :=
  let fraction := digits.drop 1
  digits.take 1 ++ (if fraction.isEmpty then [] else '.' :: fraction) ++ ['e'] ++
    [if exponent < 0 then '-' else '+'] ++ Nat.toDigits 10 exponent.natAbs

def Binary64.magnitudeText (x : Binary64) : List Char :=
  let d := x.shortest
  if d.digits = 0 then ['0', '.', '0']
  else
    let digits := Nat.toDigits 10 d.digits
    let leading := d.exponent + digits.length - 1
    if layout.least ≤ leading ∧ leading ≤ layout.greatest then positional digits (leading + 1)
    else scientific digits leading

def Binary64.text (x : Binary64) : String :=
  String.ofList ((if x.negative then ['-'] else []) ++ x.magnitudeText)

end RecordStore.Decimal
