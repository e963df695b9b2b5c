import RecordStore.Text.Split
import RecordStore.Url.Encode

/-! # Paths

A path is a list of segments in their written form, each with a slash before it; the path `/` has
one empty segment. Segments of one or two dots are not kept: one dot stays where it is, two dots
take back the segment before. A segment that looks like a drive letter is never taken back, and on
`file` URLs the first one is written with a colon. Tabs and line ends are dropped from segments;
on `file` URLs they part a drive letter at the start from what stands behind them. -/

namespace RecordStore.Url

abbrev Path := List String

namespace Path

/-- The characters that are dropped wherever they stand. -/
def isDropped (c : Char) : Bool := c = '\t' || c = '\n' || c = '\r'

def shown (s : List Char) : List Char := s.filter fun c => !isDropped c

def text (path : Path) : String := String.ofList (path.flatMap fun segment => '/' :: segment.toList)

inductive Meaning where
  | name
  | here
  | up
  deriving DecidableEq, Repr

/-- Dots may be escaped. -/
def meaning (segment : List Char) : Meaning :=
  let s := segment.map Char.toLower
  if s = ['.'] ∨ s = ['%', '2', 'e'] then .here
  else if s = ['.', '.'] ∨ s = ['.', '%', '2', 'e'] ∨ s = ['%', '2', 'e', '.'] ∨
      s = ['%', '2', 'e', '%', '2', 'e'] then .up
  else .name

/-- A letter and a colon or bar. -/
def isDriveLetter : List Char → Bool
  | [a, b] => a.isAlpha && (b = ':' || b = '|')
  | _ => false

/-- A drive letter, with nothing behind it or with what a backslash begins. -/
def startsWithDriveLetter : List Char → Bool
  | a :: b :: rest => isDriveLetter [a, b] && (rest.isEmpty || rest.head? = some '\\')
  | _ => false

def withColon (segment : String) : String :=
  if isDriveLetter segment.toList then String.ofList (segment.toList.take 1 ++ [':']) else segment

/-- The segments without the last, unless that starts with a drive letter. -/
def ascend (path : Path) : Path :=
  match path.getLast? with
  | some last => if startsWithDriveLetter last.toList then path else path.dropLast
  | none => []

/-- Adds a segment in its written form. `final` says that no slash follows it, `file` that the
scheme is `file`. -/
def add (file final : Bool) (path : Path) (segment : String) : Path :=
  match meaning segment.toList with
  | .name => path ++ [if file && path.isEmpty then withColon segment else segment]
  | .here => if final then path ++ [""] else path
  | .up => if final then ascend path ++ [""] else ascend path

/-- A drive letter with a colon and the text that dropped characters part from it. -/
def cutDrive? (s : List Char) : Option (List Char × List Char) :=
  match s.dropWhile isDropped with
  | [] => none
  | letter :: s =>
    match s.dropWhile isDropped with
    | ':' :: s =>
      if letter.isAlpha && s.head?.any isDropped && !(shown s).isEmpty then
        some ([letter, ':'], shown s)
      else none
    | _ => none

/-- Adds the text of a segment, of which `escaped` is escaped. Where a drive letter is parted from
what stands behind it, both are segments, and dots mean nothing in the second. -/
def addText (escaped : Char → Bool) (file final : Bool) (path : Path) (s : List Char) : Path :=
  let written (t : List Char) := String.ofList (encode escaped t)
  match if file && path.isEmpty then cutDrive? s else none with
  | some (drive, behind) => [String.ofList drive, written behind]
  | none => add file final path (written (shown s))

/-- Adds the texts of segments one after the other; the last one is final. -/
def addAll (file : Bool) : Path → List (List Char) → Path
  | path, [] => path
  | path, [s] => addText escapedInPath file true path s
  | path, s :: rest => addAll file (addText escapedInPath file false path s) rest

/-- Whether a drive letter comes first, as a segment of its own, when segments of a `file` URL are
added. -/
def leadsToDrive : Path → List (List Char) → Bool
  | _, [] => false
  | path, s :: rest =>
    (path.isEmpty && isDriveLetter (shown s)) ||
      leadsToDrive (addText escapedInPath true false path s) rest

/-- On `file` URLs a path does not start with empty segments, unless it is `/`. -/
def collapse (file : Bool) (path : Path) : Path :=
  if file then
    match path.dropWhile (· = "") with
    | [] => [""]
    | rest => rest
  else path

/-- Whether a slash of the text separates segments: where the scheme is special, a backslash does
so too. -/
def isSeparator (special : Bool) (c : Char) : Bool := c = '/' || (special && c = '\\')

def segments (special : Bool) (s : List Char) : List (List Char) :=
  Text.splitOn (isSeparator special) s

def endsWithSlash (path : Path) : Bool := path.getLast? = some ""

/-- The path with a slash at its end. Its segments are added anew for that. -/
def close (file : Bool) (path : Path) : Path :=
  if endsWithSlash path then path
  else collapse file (addAll file [] (path.map String.toList ++ [[]]))

/-- The path without the slash at its end, unless it is `/`. -/
def openEnd (path : Path) : Path :=
  if endsWithSlash path ∧ 1 < path.length then path.dropLast else path

/-- Adds a text as one more segment. The texts `.` and `..` are passed over. The path `/` takes
the segment in place of its empty one. -/
def push (special file : Bool) (path : Path) (s : String) : Path :=
  if s = "." ∨ s = ".." then path
  else collapse file
    (addText (escapedInSegment special) file true (if path = [""] then [] else path) s.toList)

def pushAll (special file : Bool) (path : Path) (texts : List String) : Path :=
  texts.foldl (push special file) path

end Path

end RecordStore.Url
