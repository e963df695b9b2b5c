import RecordStore.Text.Composition
import RecordStore.Text.Direction
import RecordStore.Text.Joining
import RecordStore.Text.Split
import RecordStore.Url.Permitted
import RecordStore.Url.Punycode

/-! # Labels of names

A name consists of labels between dots. A label that starts with `xn--` stands for a text beyond
ASCII, which has to be one that names may hold: composed, of permitted characters, without a mark
in front, and with joiners only where they change how letters look. Where some letters of a name
are written from right to left, each of its labels has to keep to one direction. -/

namespace RecordStore.Url

/-- The character that keeps its neighbours from joining. -/
def nonJoiner : Char := Char.ofNat 0x200c

/-- The character that makes its neighbours join. -/
def joiner : Char := Char.ofNat 0x200d

/-- Whether the joiners in `s` stand where they may, behind the text whose reverse is `before`:
behind a sign that silences a vowel; the one that parts letters also between letters that would
join. -/
def joinersFit (before : List Char) : List Char → Bool
  | [] => true
  | c :: s =>
    ((c ≠ nonJoiner && c ≠ joiner) || before.head?.any Text.isVirama ||
      (c = nonJoiner &&
        (before.dropWhile Text.joinsAcross).head?.any Text.joinsNext &&
        (s.dropWhile Text.joinsAcross).head?.any Text.joinsPrevious)) &&
      joinersFit (c :: before) s

def isInternational (s : List Char) : Bool :=
  s.length ≤ 1000 && s.all (fun c => c.toNat < 128 || isPermitted c) && Text.isComposed s &&
    !s.head?.any Text.isMark && joinersFit [] s

/-- The text that a label stands for. A label that ends in a hyphen would stand for ASCII alone. -/
def labelText? : List Char → Option (List Char)
  | 'x' :: 'n' :: '-' :: '-' :: code =>
    if code.isEmpty || code.getLast? = some '-' || 2000 < code.length then none
    else (Punycode.decode? code).filter isInternational
  | s => some s

/-- Whether the labels of a name in lower case can stand together. -/
def isName (name : List Char) : Bool :=
  match (Text.splitOn (· = '.') name).mapM labelText? with
  | some texts => !texts.any Text.hasRightToLeft || texts.all Text.keepsDirection
  | none => false

end RecordStore.Url
