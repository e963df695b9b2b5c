import RecordStore.Text.Digits

/-! # Percent-encoding

A part of a URL is written character by character. A character that the part cannot hold is
replaced by its bytes in UTF-8, each as a percent sign and two digits in base sixteen. Which
characters these are differs from part to part; decoding is the same for all. -/

namespace RecordStore.Url

/-- What is escaped everywhere: controls and everything beyond ASCII. -/
def escapedControl (c : Char) : Bool := c < ' ' || '~' < c

def escapedInFragment (c : Char) : Bool :=
  escapedControl c || c = ' ' || c = '"' || c = '<' || c = '>' || c = '\x60'

/-- What is escaped in a query; the apostrophe only where the scheme is `special`. -/
def escapedInQuery (special : Bool) (c : Char) : Bool :=
  escapedControl c || c = ' ' || c = '"' || c = '#' || c = '<' || c = '>' ||
    (special && c = '\'')

/-- What is escaped in a path that is written as a whole. -/
def escapedInPath (c : Char) : Bool :=
  escapedInFragment c || c = '#' || c = '?' || c = '\x7b' || c = '\x7d'

/-- What is escaped in a single segment of a path; the backslash only where the scheme is
`special`, as there it separates segments. -/
def escapedInSegment (special : Bool) (c : Char) : Bool :=
  escapedInPath c || c = '/' || c = '%' || (special && c = '\\')

def escapedInUserinfo (c : Char) : Bool :=
  escapedInPath c || c = '/' || c = ':' || c = ';' || c = '=' || c = '@' || c = '[' ||
    c = '\\' || c = ']' || c = '^' || c = '|'

def upperHex (d : Nat) : Char := (Nat.digitChar d).toUpper

def escapeByte (b : UInt8) : List Char := ['%', upperHex (b.toNat / 16), upperHex (b.toNat % 16)]

def encodeChar (escaped : Char → Bool) (c : Char) : List Char :=
  if escaped c then (String.utf8EncodeChar c).flatMap escapeByte else [c]

def encode (escaped : Char → Bool) (s : List Char) : List Char := s.flatMap (encodeChar escaped)

@[simp] theorem encode_cons (escaped : Char → Bool) (c : Char) (s : List Char) :
    encode escaped (c :: s) = encodeChar escaped c ++ encode escaped s := rfl

def hexByte? (a b : Char) : Option UInt8 := do
  some (UInt8.ofNat ((← Text.hexValue? a) * 16 + (← Text.hexValue? b)))

/-- The bytes that a written text stands for. A percent sign without two digits stands for itself. -/
def percentDecode : List Char → List UInt8
  | [] => []
  | '%' :: a :: b :: s =>
    match hexByte? a b with
    | some byte => byte :: percentDecode s
    | none => String.utf8EncodeChar '%' ++ percentDecode (a :: b :: s)
  | c :: s => String.utf8EncodeChar c ++ percentDecode s

def utf8 (s : List Char) : List UInt8 := s.flatMap String.utf8EncodeChar

/-- The text that a written text stands for, if its bytes are UTF-8. -/
def decodeText? (s : List Char) : Option String :=
  String.fromUTF8? ⟨(percentDecode s).toArray⟩

end RecordStore.Url
