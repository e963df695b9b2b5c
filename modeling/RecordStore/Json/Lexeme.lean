import RecordStore.Json.Basic
import RecordStore.Json.Fault
import RecordStore.Text.Digits

/-! # Strings, numbers and literals

The smallest parts of a JSON text. Each reader takes the text from where its part starts and
gives the value with the rest of the text. -/

namespace RecordStore.Json

def isSpace (c : Char) : Bool := c = ' ' || c = '\t' || c = '\n' || c = '\r'

def skipSpace (s : List Char) : List Char := s.dropWhile isSpace

/-- Reads the characters of `word`. -/
def readLiteral : List Char → List Char → Except Fault (List Char)
  | [], s => .ok s
  | _ :: _, [] => .error .truncated
  | w :: word, c :: s => if c = w then readLiteral word s else .error .malformed

/-! ## Strings -/

/-- Whether the text has at least `n` bytes in UTF-8. -/
def hasBytes : Nat → List Char → Bool
  | 0, _ => true
  | _ + 1, [] => false
  | n + 1, c :: s => hasBytes (n + 1 - c.utf8Size) s

/-- Where a reader stands within a string. The last three places follow an escape that holds the
upper half of a character beyond U+FFFF: the lower half must come at once. -/
inductive Place where
  | plain
  | escape
  | hex (left value : Nat)
  | lowEscape (high : Nat)
  | lowMark (high : Nat)
  | lowHex (high left value : Nat)
  deriving DecidableEq, Repr

def simpleEscape? (c : Char) : Option Char :=
  if c = '"' ∨ c = '\\' ∨ c = '/' then some c
  else if c = 'b' then some (Char.ofNat 0x08)
  else if c = 'f' then some (Char.ofNat 0x0C)
  else if c = 'n' then some '\n'
  else if c = 'r' then some '\r'
  else if c = 't' then some '\t'
  else none

/-- What a finished escape of four digits leads to: a character, or the wait for a lower half. In
a string that is skipped any four digits will do. -/
def finishEscape (purpose : Purpose) (value : Nat) : Except Fault (Option Char × Place) :=
  if purpose = .skip then .ok (none, .plain)
  else if 0xDC00 ≤ value ∧ value ≤ 0xDFFF then .error .malformed
  else if 0xD800 ≤ value ∧ value ≤ 0xDBFF then .ok (none, .lowEscape value)
  else .ok (some (Char.ofNat value), .plain)

def joinHalves (high low : Nat) : Char :=
  Char.ofNat (0x10000 + (high - 0xD800) * 0x400 + (low - 0xDC00))

/-- One step within a string: the character added, if any, and the next place. `rest` is the text
after `c`; an escape of four digits needs as many bytes there. -/
def stringStep (purpose : Purpose) (c : Char) (rest : List Char) :
    Place → Except Fault (Option Char × Place)
  | .plain =>
    if c = '\\' then .ok (none, .escape)
    else if c < ' ' then .error .malformed
    else .ok (some c, .plain)
  | .escape =>
    if c = 'u' then
      if hasBytes 4 rest then .ok (none, .hex 4 0) else .error .truncated
    else match simpleEscape? c with
      | some d => .ok (some d, .plain)
      | none => .error .malformed
  | .hex left value =>
    match Text.hexValue? c with
    | none => .error .malformed
    | some d =>
      if left ≤ 1 then finishEscape purpose (value * 16 + d)
      else .ok (none, .hex (left - 1) (value * 16 + d))
  | .lowEscape high => if c = '\\' then .ok (none, .lowMark high) else .error .malformed
  | .lowMark high =>
    if c = 'u' then
      if hasBytes 4 rest then .ok (none, .lowHex high 4 0) else .error .truncated
    else .error .malformed
  | .lowHex high left value =>
    match Text.hexValue? c with
    | none => .error .malformed
    | some d =>
      let value := value * 16 + d
      if 1 < left then .ok (none, .lowHex high (left - 1) value)
      else if 0xDC00 ≤ value ∧ value ≤ 0xDFFF then .ok (some (joinHalves high value), .plain)
      else .error .malformed

/-- Reads a string from behind its opening quote; `read` holds what is read so far, backwards. -/
def readString (purpose : Purpose) : Place → List Char → List Char → Except Fault (String × List Char)
  | _, _, [] => .error .truncated
  | place, read, c :: s =>
    if place = .plain ∧ c = '"' then .ok (String.ofList read.reverse, s)
    else match stringStep purpose c s place with
      | .error fault => .error fault
      | .ok (added, next) => readString purpose next (added.toList ++ read) s

/-! ## Numbers -/

def spanDigits (s : List Char) : List Char × List Char :=
  (s.takeWhile Char.isDigit, s.dropWhile Char.isDigit)

def significandBound : Nat := Nat.pow 2 64

/-- Appends digits to a significand as long as it stays within its bound, and counts them. -/
def appendDigits (significand : Nat) : List Char → Nat × Nat
  | [] => (significand, 0)
  | c :: digits =>
    let next := significand * 10 + Text.digitValue c
    if next < significandBound then
      let (n, count) := appendDigits next digits
      (n, count + 1)
    else (significand, 0)

structure Numeral where
  negative : Bool
  whole : List Char
  fraction : Option (List Char)
  exponent : Option Int

/-- The number that a numeral denotes. Without fraction and exponent it is an integer if one of
64 bits holds it; otherwise its first digits, as many as a significand holds, are scaled. -/
def Numeral.value? (n : Numeral) : Option Number :=
  let (significand, kept) := appendDigits 0 n.whole
  let dropped := n.whole.length - kept
  let integral := n.fraction.isNone && n.exponent.isNone && dropped = 0
  if integral && !n.negative then some (.integer significand)
  else if integral && 0 < significand && significand ≤ Nat.pow 2 63 then
    some (.integer (-significand))
  else
    let (significand, places) := appendDigits significand (n.fraction.getD [])
    let exponent := (dropped : Int) - places + n.exponent.getD 0
    (Decimal.Binary64.scaleTen significand exponent).map fun x => .real (x.withSign n.negative)

/-- What to say of a number that breaks off before `rest`. -/
def cutNumber (purpose : Purpose) (rest : List Char) : Fault :=
  if purpose = .keep ∧ rest.isEmpty then .truncated else .malformed

/-- Reads digits, at least one. -/
def readDigits (purpose : Purpose) (s : List Char) : Except Fault (List Char × List Char) :=
  let (digits, rest) := spanDigits s
  if digits.isEmpty then .error (cutNumber purpose rest) else .ok (digits, rest)

/-- Reads the digits before the point: a leading zero stands alone. -/
def readWhole (purpose : Purpose) (s : List Char) : Except Fault (List Char × List Char) := do
  let (digits, rest) ← readDigits purpose s
  if 1 < digits.length ∧ digits.head? = some '0' then .error .malformed else .ok (digits, rest)

def readFraction (purpose : Purpose) : List Char → Except Fault (Option (List Char) × List Char)
  | '.' :: s => do
    let (digits, rest) ← readDigits purpose s
    .ok (some digits, rest)
  | s => .ok (none, s)

def exponentSign : List Char → Bool × List Char
  | '+' :: s => (false, s)
  | '-' :: s => (true, s)
  | s => (false, s)

def readExponent (purpose : Purpose) : List Char → Except Fault (Option Int × List Char)
  | [] => .ok (none, [])
  | c :: s =>
    if c = 'e' ∨ c = 'E' then do
      let (negative, s) := exponentSign s
      let (digits, rest) ← readDigits purpose s
      let n : Int := Text.decimalValue digits
      .ok (some (if negative then -n else n), rest)
    else .ok (none, c :: s)

def readNumeral (purpose : Purpose) (s : List Char) : Except Fault (Numeral × List Char) := do
  let negative := s.head? = some '-'
  let (whole, s) ← readWhole purpose (if negative then s.drop 1 else s)
  let (fraction, s) ← readFraction purpose s
  let (exponent, s) ← readExponent purpose s
  .ok (⟨negative, whole, fraction, exponent⟩, s)

/-- Reads a number. One that is kept must not be too large. -/
def readNumber (purpose : Purpose) (s : List Char) : Except Fault (Number × List Char) := do
  let (numeral, s) ← readNumeral purpose s
  match numeral.value?, purpose with
  | some n, _ => .ok (n, s)
  | none, .skip => .ok (.integer 0, s)
  | none, .keep => .error .malformed

def startsNumber (c : Char) : Bool := c = '-' || c.isDigit

end RecordStore.Json
