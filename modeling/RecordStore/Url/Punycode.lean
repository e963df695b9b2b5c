/-! # Punycode

A text whose letters are partly beyond ASCII is written in letters and digits alone: first its ASCII
characters, then, behind a hyphen, where the others stand. These come in ascending order of their
code points. An integer says how far the next one is from the last, counted in places first and in
code points second; its digits come in base 36, the lowest first, and the first digit below its
threshold ends it. -/

namespace RecordStore.Url.Punycode

/-- The value of a digit: a small letter, or one of the ten digits behind them. -/
def digit? (c : Char) : Option Nat :=
  if 'a' ≤ c ∧ c ≤ 'z' then some (c.toNat - 'a'.toNat)
  else if c.isDigit then some (c.toNat - '0'.toNat + 26)
  else none

/-- The threshold of the digit at a place, counted from 0. -/
def threshold (bias place : Nat) : Nat := min 26 (max 1 (36 * (place + 1) - bias))

/-- The bias for integers that are about as large as `delta`. -/
def biasOf (delta : Nat) : Nat :=
  if 455 < delta then 36 + biasOf (delta / 35) else 36 * delta / (delta + 38)
termination_by delta
decreasing_by omega

/-- The bias behind an integer with which a text comes to have `size` characters. -/
def adapt (first : Bool) (delta size : Nat) : Nat :=
  let delta := delta / (if first then 700 else 2)
  biasOf (delta + delta / size)

structure State where
  /-- The text without the characters that are still to come. -/
  text : List Char
  /-- The code point of the last character that came. -/
  code : Nat := 128
  /-- The place behind that character. -/
  start : Nat := 0
  /-- The place `start` and the integer so far. -/
  index : Nat := 0
  /-- What the next digit of the integer counts. -/
  weight : Nat := 1
  /-- How many digits of the integer there were. -/
  place : Nat := 0
  /-- What the thresholds are fitted by. -/
  bias : Nat := 72
  deriving Repr

def limit : Nat := Nat.pow 2 32

/-- Puts the character in whose integer has ended. -/
def State.insert? (st : State) : Option State :=
  let size := st.text.length + 1
  let code := st.code + st.index / size
  let place := st.index % size
  if code.isValidChar then
    some (
      { text := st.text.insertIdx place (Char.ofNat code)
        code
        start := place + 1
        index := place + 1
        bias := adapt (st.start = 0) (st.index - st.start) size } : State)
  else none

def State.read? (st : State) (c : Char) : Option State := do
  let digit ← digit? c
  let st := { st with index := st.index + digit * st.weight }
  if limit ≤ st.index then none
  else if digit < threshold st.bias st.place then st.insert?
  else
    let weight := st.weight * (36 - threshold st.bias st.place)
    if limit ≤ weight then none else some { st with weight, place := st.place + 1 }

/-- The ASCII characters and the digits behind them; a hyphen in front of everything parts nothing. -/
def splitBase (s : List Char) : List Char × List Char :=
  let digits := (s.reverse.takeWhile (· ≠ '-')).reverse
  let base := s.take (s.length - digits.length - 1)
  if base.isEmpty then ([], s) else (base, digits)

def decode? (s : List Char) : Option (List Char) := do
  let (base, digits) := splitBase s
  let last ← digits.foldlM State.read? ({ text := base } : State)
  if last.place = 0 then some last.text else none

end RecordStore.Url.Punycode
