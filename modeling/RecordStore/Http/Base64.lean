/-! # Base64

Bytes in groups of three, each written as four digits of six bits; a last group that is not full
is filled up with equality signs. -/

namespace RecordStore.Http

def base64Digit (n : Nat) : Char :=
  if n < 26 then Char.ofNat ('A'.toNat + n)
  else if n < 52 then Char.ofNat ('a'.toNat + n - 26)
  else if n < 62 then Char.ofNat ('0'.toNat + n - 52)
  else if n = 62 then '+'
  else '/'

/-- Digit `i` of the four digits of a group, the first one being digit 0. -/
def groupDigit (group i : Nat) : Char := base64Digit (group / Nat.pow 64 (3 - i) % 64)

def base64 : List UInt8 → List Char
  | [] => []
  | [a] =>
    let g := a.toNat * 65536
    [groupDigit g 0, groupDigit g 1, '=', '=']
  | [a, b] =>
    let g := a.toNat * 65536 + b.toNat * 256
    [groupDigit g 0, groupDigit g 1, groupDigit g 2, '=']
  | a :: b :: c :: rest =>
    let g := a.toNat * 65536 + b.toNat * 256 + c.toNat
    [groupDigit g 0, groupDigit g 1, groupDigit g 2, groupDigit g 3] ++ base64 rest

end RecordStore.Http
