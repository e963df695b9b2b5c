import RecordStore.Text.Split
import RecordStore.Url.Encode
import RecordStore.Url.Label

/-! # Hosts

A host is a name or an address of version 4 or 6. Where the scheme is special, names are decoded
and lower-cased, and a name whose last label is a number is an address of version 4; elsewhere a
name is kept as it is. Addresses of version 6 stand in brackets. -/

namespace RecordStore.Url

inductive Fault where
  | relativeWithoutBase
  | emptyHost
  | invalidPort
  | invalidIpv4
  | invalidIpv6
  | invalidName
  | invalidCharacter
  deriving DecidableEq, Repr

def Fault.message : Fault → String
  | relativeWithoutBase => "relative URL without a base"
  | emptyHost => "empty host"
  | invalidPort => "invalid port number"
  | invalidIpv4 => "invalid IPv4 address"
  | invalidIpv6 => "invalid IPv6 address"
  | invalidName => "invalid international domain name"
  | invalidCharacter => "invalid domain character"

/-- Where a resource is kept. The pieces of an address of version 6 have 16 bits each. -/
inductive Host where
  | domain (name : String)
  | ipv4 (address : Nat)
  | ipv6 (pieces : List Nat)
  deriving DecidableEq, Repr

/-! ## Addresses of version 4 -/

/-- The number that a part of an address denotes: hexadecimal behind `0x`, octal behind `0`,
decimal otherwise. -/
def ipv4Number? (s : List Char) : Option Nat :=
  if s.isEmpty then none
  else
    let (base, digits) := match s with
      | '0' :: 'x' :: r => (16, r)
      | '0' :: 'X' :: r => (16, r)
      | '0' :: c :: r => (8, c :: r)
      | r => (10, r)
    if digits.all (Text.isDigitIn base) then some (Text.valueInBase base digits) else none

/-- The parts of a name between dots, without an empty last one. -/
def labels (s : List Char) : List (List Char) :=
  let parts := Text.splitOn (· = '.') s
  if parts.getLast? = some [] ∧ 1 < parts.length then parts.dropLast else parts

/-- Whether the last label of a name is a number, so that the name has to be an address. -/
def endsInNumber (s : List Char) : Bool :=
  match (labels s).getLast? with
  | some last => (!last.isEmpty && last.all Char.isDigit) || (ipv4Number? last).isSome
  | none => false

/-- The address of a name that ends in a number. All parts but the last are bytes; the last one
fills the bytes that are left. -/
def parseIpv4 (s : List Char) : Except Fault Nat :=
  match (labels s).mapM ipv4Number? with
  | none => .error .invalidIpv4
  | some numbers =>
    let bytes := numbers.dropLast
    let rest := numbers.getLastD 0
    if numbers.length ≤ 4 ∧ bytes.all (· < 256) ∧ rest < Nat.pow 256 (4 - bytes.length) then
      .ok (bytes.foldr (fun b (n, weight) => (n + b * weight, weight * 256))
        (rest, Nat.pow 256 (4 - bytes.length))).1
    else .error .invalidIpv4

def ipv4Text (address : Nat) : List Char :=
  Text.decimal (address / Nat.pow 2 24 % 256) ++ ['.'] ++
    Text.decimal (address / Nat.pow 2 16 % 256) ++ ['.'] ++
    Text.decimal (address / Nat.pow 2 8 % 256) ++ ['.'] ++ Text.decimal (address % 256)

/-! ## Addresses of version 6 -/

/-- A byte in an address of version 4 at the end of one of version 6: no leading zeros. -/
def embeddedByte? (s : List Char) : Option Nat :=
  if s.isEmpty || !s.all Char.isDigit || (1 < s.length && s.head? = some '0') then none
  else
    let n := Text.decimalValue s
    if n < 256 then some n else none

def embeddedIpv4? (s : List Char) : Option (List Nat) :=
  match (Text.splitOn (· = '.') s).mapM embeddedByte? with
  | some [a, b, c, d] => some [a * 256 + b, c * 256 + d]
  | _ => none

def piece? (s : List Char) : Option Nat :=
  if s.isEmpty || 4 < s.length || !s.all (Text.isDigitIn 16) then none else some (Text.valueInBase 16 s)

/-- The pieces between colons; the last group may be an address of version 4 if `ending` says so. -/
def groups? (ending : Bool) : List (List Char) → Option (List Nat)
  | [] => some []
  | [g] => if ending && g.contains '.' then embeddedIpv4? g else (piece? g).map ([·])
  | g :: gs => do some ((← piece? g) :: (← groups? ending gs))

/-- The pieces of a text without gap; none for the empty text. -/
def pieces? (ending : Bool) (s : List Char) : Option (List Nat) :=
  if s.isEmpty then some [] else groups? ending (Text.splitOn (· = ':') s)

/-- The texts before and behind the first gap, which is written as two colons. -/
def splitGap : List Char → Option (List Char × List Char)
  | [] => none
  | ':' :: ':' :: s => some ([], s)
  | c :: s => (splitGap s).map fun (before, behind) => (c :: before, behind)

/-- The address of version 6 that a text denotes. A gap stands for at least one piece of zero. -/
def parseIpv6 (s : List Char) : Except Fault (List Nat) :=
  let pieces := match splitGap s with
    | none => (pieces? true s).filter (·.length = 8)
    | some (before, behind) => do
      let a ← pieces? false before
      let b ← pieces? true behind
      if a.length + b.length < 8 then
        some (a ++ List.replicate (8 - a.length - b.length) 0 ++ b)
      else none
  match pieces with
  | some pieces => .ok pieces
  | none => .error .invalidIpv6

def zeroRun : List Nat → Nat
  | 0 :: rest => zeroRun rest + 1
  | _ => 0

/-- The start and length of the longest run of zeros, the first of several. -/
def longestRun : List Nat → Nat × Nat
  | [] => (0, 0)
  | p :: rest =>
    let here := zeroRun (p :: rest)
    let (start, length) := longestRun rest
    if length ≤ here then (0, here) else (start + 1, length)

def joinPieces : List Nat → List Char
  | [] => []
  | [p] => Text.hex p
  | p :: q :: rest => Text.hex p ++ [':'] ++ joinPieces (q :: rest)

/-- An address of version 6; the longest run of two or more zeros is left out. -/
def ipv6Text (pieces : List Nat) : List Char :=
  let (start, length) := longestRun pieces
  if length < 2 then joinPieces pieces
  else joinPieces (pieces.take start) ++ [':', ':'] ++ joinPieces (pieces.drop (start + length))

/-! ## Names -/

def forbiddenInHost (c : Char) : Bool :=
  c = Char.ofNat 0 || c = '\t' || c = '\n' || c = '\r' || c = ' ' || c = '#' || c = '/' ||
    c = ':' || c = '<' || c = '>' || c = '?' || c = '@' || c = '[' || c = '\\' || c = ']' ||
    c = '^' || c = '|'

def forbiddenInDomain (c : Char) : Bool :=
  forbiddenInHost c || c < ' ' || c = '%' || c = Char.ofNat 0x7F

def ascii? (bytes : List UInt8) : Option (List Char) :=
  bytes.mapM fun b => if b < 128 then some (Char.ofNat b.toNat) else none

namespace Host

def ofBrackets (s : List Char) : Except Fault Host :=
  if s.getLast? = some ']' then (parseIpv6 (s.drop 1).dropLast).map ipv6 else .error .invalidIpv6

/-- The host of a special URL. A name that is not ASCII once it is decoded is refused, not mapped. -/
def ofSpecial (s : List Char) : Except Fault Host :=
  if s.head? = some '[' then ofBrackets s
  else match ascii? (percentDecode s) with
    | none => .error .invalidName
    | some name =>
      let name := name.map Char.toLower
      if name.any forbiddenInDomain || !isName name then .error .invalidName
      else if name.isEmpty then .error .emptyHost
      else if endsInNumber name then (parseIpv4 name).map ipv4
      else .ok (domain (String.ofList name))

def ofPlain (s : List Char) : Except Fault Host :=
  if s.head? = some '[' then ofBrackets s
  else if s.any forbiddenInHost then .error .invalidCharacter
  else .ok (domain (String.ofList (encode escapedControl s)))

def text : Host → String
  | domain name => name
  | ipv4 address => String.ofList (ipv4Text address)
  | ipv6 pieces => String.ofList (['['] ++ ipv6Text pieces ++ [']'])

end Host

end RecordStore.Url
