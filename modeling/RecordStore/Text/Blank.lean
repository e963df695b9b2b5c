/-! # Blank characters

The characters with the Unicode property `White_Space`, and the trimming of text at both ends.
A text is blank when trimming leaves nothing. -/

namespace RecordStore.Text

/-- The ranges of the property `White_Space`, in ascending order. -/
def blankRanges : List (Nat × Nat) :=
  [(0x09, 0x0D), (0x20, 0x20), (0x85, 0x85), (0xA0, 0xA0), (0x1680, 0x1680), (0x2000, 0x200A),
   (0x2028, 0x2029), (0x202F, 0x202F), (0x205F, 0x205F), (0x3000, 0x3000)]

def inRanges (ranges : List (Nat × Nat)) (c : Char) : Bool :=
  ranges.any fun (lo, hi) => decide (lo ≤ c.toNat) && decide (c.toNat ≤ hi)

/-- A character with the property `White_Space`. -/
def isBlank (c : Char) : Bool := inRanges blankRanges c

def strip (p : Char → Bool) (s : List Char) : List Char :=
  ((s.dropWhile p).reverse.dropWhile p).reverse

def trim (s : String) : String := String.ofList (strip isBlank s.toList)

def isBlankText (s : String) : Bool := s.toList.all isBlank

end RecordStore.Text
