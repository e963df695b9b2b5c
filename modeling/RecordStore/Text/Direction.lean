import RecordStore.Text.Mark

/-! # Directions of writing

The Unicode property `Bidi_Class`, as far as it matters for names: letters of one direction or the
other, two kinds of digits, marks, and everything that takes its direction from what stands around
it. A code point that no name can hold counts as those around it do. -/

namespace RecordStore.Text

/-- How a character takes part in the order of a line. -/
inductive Direction where
  | leftToRight
  | rightToLeft
  | europeanNumber
  | arabicNumber
  | nonspacingMark
  | neutral
  deriving DecidableEq, Repr

def rightToLeftRanges : List (Nat × Nat) :=
  [(0x5be, 0x5be), (0x5c0, 0x5c0), (0x5c3, 0x5c3), (0x5c6, 0x5c6), (0x5d0, 0x5f4), (0x608, 0x608),
   (0x60b, 0x60b), (0x60d, 0x60d), (0x61b, 0x64a), (0x66d, 0x66f), (0x671, 0x6d5), (0x6e5, 0x6e6),
   (0x6ee, 0x6ef), (0x6fa, 0x710), (0x712, 0x72f), (0x74d, 0x7a5), (0x7b1, 0x7ea), (0x7f4, 0x7f5),
   (0x7fa, 0x7fa), (0x7fe, 0x815), (0x81a, 0x81a), (0x824, 0x824), (0x828, 0x828), (0x830, 0x858),
   (0x85e, 0x88f), (0x8a0, 0x8c9), (0xfbb2, 0xfbc2), (0xfe73, 0xfe73), (0x10800, 0x1091b),
   (0x10920, 0x10a00), (0x10a10, 0x10a35), (0x10a40, 0x10ae4), (0x10aeb, 0x10b35),
   (0x10b40, 0x10d23), (0x10d4a, 0x10d4f), (0x10d6f, 0x10d8f), (0x10e80, 0x10ea9),
   (0x10ead, 0x10ec9), (0x10f00, 0x10f45), (0x10f51, 0x10f81), (0x10f86, 0x10ff6),
   (0x1e800, 0x1e8cf), (0x1e922, 0x1e943), (0x1e94b, 0x1ed3d)]

/-- The digits that go with either direction. -/
def europeanNumberRanges : List (Nat × Nat) :=
  [(0x30, 0x39), (0x6f0, 0x6f9), (0x102e1, 0x102fb)]

/-- The digits that go with letters written from right to left. -/
def arabicNumberRanges : List (Nat × Nat) :=
  [(0x660, 0x669), (0x66b, 0x66c), (0x10d30, 0x10d49), (0x10e60, 0x10e7e)]

/-- The characters without direction; marks may lie among them. -/
def neutralRanges : List (Nat × Nat) :=
  [(0x21, 0x2f), (0x3a, 0x40), (0x5b, 0x60), (0x7b, 0x7e), (0xa1, 0xd7), (0xf7, 0xf7),
   (0x2b9, 0x2ba), (0x2c2, 0x2cf), (0x2d2, 0x2ed), (0x2ef, 0x2ff), (0x375, 0x375), (0x3f6, 0x3f6),
   (0x58a, 0x58f), (0x606, 0x607), (0x609, 0x60a), (0x60c, 0x60c), (0x60e, 0x60f), (0x66a, 0x66a),
   (0x6de, 0x6de), (0x6e9, 0x6e9), (0x7f6, 0x7f9), (0x9f2, 0x9f3), (0x9fb, 0x9fb), (0xaf1, 0xaf1),
   (0xbf3, 0xbfa), (0xc78, 0xc7e), (0xe3f, 0xe3f), (0xf3a, 0xf3d), (0x1390, 0x1399),
   (0x1400, 0x1400), (0x169b, 0x169c), (0x17db, 0x17db), (0x17f0, 0x180a), (0x1940, 0x1945),
   (0x19de, 0x19ff), (0x200c, 0x20c3), (0x2104, 0x214d), (0x218a, 0x2335), (0x237b, 0x2394),
   (0x2396, 0x26ab), (0x26ad, 0x27ff), (0x2900, 0x2bff), (0x2ce5, 0x2cea), (0x2cf9, 0x2cff),
   (0x2e00, 0x3004), (0x3008, 0x3020), (0x3030, 0x3030), (0x3037, 0x3037), (0x303d, 0x303f),
   (0x30a0, 0x30a0), (0x30fb, 0x30fb), (0x31c0, 0x31e5), (0x4dc0, 0x4dff), (0xa490, 0xa4c6),
   (0xa60d, 0xa60f), (0xa673, 0xa673), (0xa67e, 0xa67f), (0xa700, 0xa721), (0xa788, 0xa788),
   (0xa828, 0xa82b), (0xa838, 0xa839), (0xa874, 0xa877), (0xab6a, 0xab6b), (0xfbc3, 0xfdff),
   (0xfe45, 0xfe46), (0x10101, 0x10101), (0x10140, 0x1018c), (0x10190, 0x101a0),
   (0x1091f, 0x1091f), (0x10b39, 0x10b3f), (0x10d6e, 0x10d6e), (0x10ed0, 0x10ed8),
   (0x11052, 0x11065), (0x11660, 0x1166c), (0x11fd5, 0x11ff1), (0x16fe2, 0x16fe2),
   (0x1cc00, 0x1cef0), (0x1d1e9, 0x1d241), (0x1d245, 0x1d245), (0x1d300, 0x1d356),
   (0x1e2ff, 0x1e2ff), (0x1eef0, 0x1f12f), (0x1f16d, 0x1f16f), (0x1f1ad, 0x1f1ad),
   (0x1f260, 0x1fbfa)]

/-- Whether a mark takes its direction from the letter before it. Five vowel signs that need no room
of their own have the direction of letters all the same. -/
def isUndirectedMark (c : Char) : Bool :=
  isNonspacingMark c && !inRanges
    [(0xcbf, 0xcbf), (0xcc6, 0xcc6), (0x11a07, 0x11a08), (0x11c3f, 0x11c3f)] c

def direction (c : Char) : Direction :=
  if isUndirectedMark c then .nonspacingMark
  else if inRanges rightToLeftRanges c then .rightToLeft
  else if inRanges europeanNumberRanges c then .europeanNumber
  else if inRanges arabicNumberRanges c then .arabicNumber
  else if inRanges neutralRanges c then .neutral
  else .leftToRight

/-- Whether the order of a text can be told wherever it stands: it starts with a letter and, marks
apart, ends with a letter of the same direction or a digit that goes with it, and nothing between
them has the other direction. Where letters are written from right to left, the digits behind the
first letter are of one kind. -/
def keepsDirection (s : List Char) : Bool :=
  match s.map direction with
  | [] => true
  | first :: behind =>
    match first, behind.reverse.dropWhile (· = .nonspacingMark) with
    | .leftToRight, [] => true
    | .rightToLeft, [] => true
    | .leftToRight, last :: middle =>
      (last = .leftToRight || last = .europeanNumber) &&
        middle.all fun d => d ≠ .rightToLeft && d ≠ .arabicNumber
    | .rightToLeft, last :: middle =>
      (last = .rightToLeft || last = .europeanNumber || last = .arabicNumber) &&
        middle.all (· ≠ .leftToRight) &&
        !((last :: middle).contains .europeanNumber && (last :: middle).contains .arabicNumber)
    | _, _ => false

/-- Whether a text holds letters written from right to left, or digits that go with them. The first
of them is U+05BE. -/
def hasRightToLeft (s : List Char) : Bool :=
  s.any fun c => 0x5be ≤ c.toNat && (direction c = .rightToLeft || direction c = .arabicNumber)

end RecordStore.Text
