import RecordStore.Text.Blank
import RecordStore.Url.Basic

/-! # Reading URLs

`Address.parse` reads a URL that stands alone, without a base to complete it. Controls and blanks
around it are dropped, tabs and line ends within it too. On `file` URLs the path has a use for the
latter, so they stay until its segments are read. A URL whose path does not start with a slash, and
has no authority before it, is opaque: nothing can be added to it. -/

namespace RecordStore.Url

/-- What a text denotes: a URL with a list of segments, or an opaque one. -/
inductive Address where
  | hierarchical (url : Url)
  | opaquePath (scheme : String)
  deriving DecidableEq, Repr

def isOuter (c : Char) : Bool := c ≤ ' '

def trimOuter (s : List Char) : List Char := Text.strip isOuter s

def isSchemeChar (c : Char) : Bool := c.isAlphanum || c = '+' || c = '-' || c = '.'

/-- The scheme in lower case and the text behind its colon. -/
def splitScheme (s : List Char) : Except Fault (String × List Char) :=
  let within (c : Char) : Bool := isSchemeChar c || Path.isDropped c
  let scheme := Path.shown (s.takeWhile within)
  match scheme.head?, s.dropWhile within with
  | some first, ':' :: rest =>
    if first.isAlpha then .ok (String.ofList (scheme.map Char.toLower), rest)
    else .error .relativeWithoutBase
  | _, _ => .error .relativeWithoutBase

def endsAuthority (special : Bool) (c : Char) : Bool :=
  Path.isSeparator special c || c = '?' || c = '#'

/-! ## User name and password -/

/-- The texts before and behind the last `@`. -/
def splitLastAt : List Char → Option (List Char × List Char)
  | [] => none
  | c :: s =>
    match splitLastAt s with
    | some (before, behind) => some (c :: before, behind)
    | none => if c = '@' then some ([], s) else none

/-- User name and password. A password that is empty is none. -/
def userinfo (s : List Char) : String × Option String :=
  let written (t : List Char) := String.ofList (encode escapedInUserinfo t)
  let username := s.takeWhile (· ≠ ':')
  let password := (s.dropWhile (· ≠ ':')).drop 1
  (written username, if password.isEmpty then none else some (written password))

/-! ## Host and port -/

/-- The text of a host, up to a colon outside brackets or the end of the authority. -/
def spanHost (special : Bool) : (bracket : Bool) → List Char → List Char × List Char
  | _, [] => ([], [])
  | bracket, c :: s =>
    if endsAuthority special c || (c = ':' && !bracket) then ([], c :: s)
    else
      let (host, rest) := spanHost special (if c = '[' then true else if c = ']' then false else bracket) s
      (c :: host, rest)

def portBound : Nat := 65536

/-- The port behind a colon, unless the scheme implies it. -/
def parsePort (scheme : String) (s : List Char) : Except Fault (Option Nat × List Char) :=
  let digits := s.takeWhile Char.isDigit
  let rest := s.dropWhile Char.isDigit
  let ended := match rest with
    | [] => true
    | c :: _ => endsAuthority true c
  let port := Text.decimalValue digits
  if !ended || portBound ≤ port then .error .invalidPort
  else if digits.isEmpty || impliedPort scheme = some port then .ok (none, rest)
  else .ok (some port, rest)

def parseHostAndPort (scheme : String) (s : List Char) :
    Except Fault (Host × Option Nat × List Char) := do
  let special := (schemeClass scheme).isSpecial
  let (hostText, rest) := spanHost special false s
  if hostText.isEmpty && (special || rest.head? = some ':') then .error .emptyHost
  else do
    let host ← if special then Host.ofSpecial hostText else Host.ofPlain hostText
    match rest with
    | ':' :: rest => do
      let (port, rest) ← parsePort scheme rest
      .ok (host, port, rest)
    | rest => .ok (host, none, rest)

def parseAuthority (scheme : String) (s : List Char) : Except Fault (Authority × List Char) := do
  let special := (schemeClass scheme).isSpecial
  let head := s.takeWhile fun c => !endsAuthority special c
  let tail := s.dropWhile fun c => !endsAuthority special c
  match splitLastAt head with
  | none => do
    let (host, port, rest) ← parseHostAndPort scheme s
    .ok (⟨"", none, host, port⟩, rest)
  | some (info, behind) =>
    if info.isEmpty && behind.isEmpty && !tail.isEmpty then .error .emptyHost
    else do
      let (username, password) := userinfo info
      let (host, port, rest) ← parseHostAndPort scheme (behind ++ tail)
      let authority : Authority := ⟨username, password, host, port⟩
      if authority.hasUserinfo ∧ host = .domain "" then .error .emptyHost
      else .ok (authority, rest)

/-! ## Path, query and fragment -/

def endsPath (c : Char) : Bool := c = '?' || c = '#'

def parseSuffix (special : Bool) (s : List Char) : Option String × Option String :=
  let fragment (t : List Char) := String.ofList (encode escapedInFragment t)
  match s with
  | '?' :: s =>
    let query := String.ofList (encode (escapedInQuery special) (s.takeWhile (· ≠ '#')))
    match s.dropWhile (· ≠ '#') with
    | '#' :: s => (some query, some (fragment s))
    | _ => (some query, none)
  | '#' :: s => (none, some (fragment s))
  | _ => (none, none)

def pathTexts (c : SchemeClass) (s : List Char) : List (List Char) :=
  Path.segments c.isSpecial (s.takeWhile fun c => !endsPath c)

/-- The path of a text, up to a query or fragment. It starts behind a slash that is written
already. -/
def parsePath (c : SchemeClass) (s : List Char) : Path := Path.addAll c.isFile [] (pathTexts c s)

/-- The URL with the path that `path` gives, and the query and fragment of the text. -/
def assemble (scheme : String) (authority : Option Authority) (path : Path) (s : List Char) : Url :=
  let c := schemeClass scheme
  let (query, fragment) := parseSuffix c.isSpecial (Path.shown (s.dropWhile fun c => !endsPath c))
  let guarded := authority.isNone && match path with
    | "" :: _ :: _ => true
    | _ => false
  ⟨scheme, authority, guarded, path.collapse c.isFile, query, fragment⟩

/-- The path behind an authority: where the scheme is special there is always one. -/
def parseAfterAuthority (scheme : String) (authority : Authority) (s : List Char) : Url :=
  let c := schemeClass scheme
  match s with
  | [] => assemble scheme (some authority) (if c.isSpecial then [""] else []) []
  | d :: rest =>
    if Path.isSeparator c.isSpecial d then assemble scheme (some authority) (parsePath c rest) rest
    else if endsPath d && !c.isSpecial then assemble scheme (some authority) [] s
    else assemble scheme (some authority) (parsePath c s) s

/-! ## Schemes -/

def noHost : Authority := ⟨"", none, .domain "", none⟩

/-- The host of a `file` URL; a drive letter is none, and neither is the local host. Without host
the text of the path is what follows. -/
def parseFileHost (s : List Char) : Except Fault (Option Host × List Char) := do
  let hostText := Path.shown (s.takeWhile fun c => !endsAuthority true c)
  let rest := s.dropWhile fun c => !endsAuthority true c
  if Path.isDriveLetter hostText then .ok (none, s)
  else if hostText.isEmpty then .ok (none, rest)
  else do
    let host ← Host.ofSpecial hostText
    .ok (if host = .domain "localhost" then none else some host, rest)

/-- The text behind a slash at its start. -/
def separated? (s : List Char) : Option (List Char) :=
  match s.dropWhile Path.isDropped with
  | c :: rest => if Path.isSeparator true c then some rest else none
  | [] => none

def dropSeparator (s : List Char) : List Char := (separated? s).getD s

/-- The rest of a `file` URL. A drive letter at the start of the path takes the host away. -/
def parseFile (s : List Char) : Except Fault Url :=
  match (separated? s).bind separated? with
  | some rest => do
    let (host, rest) ← parseFileHost rest
    match host with
    -- Without host the slash behind it is read as part of the path, where it makes an empty segment:
    -- a drive letter behind it is not the first one, and keeps its bar.
    | none => .ok (assemble "file" (some noHost) (parsePath .file rest) rest)
    | some host =>
      let rest := dropSeparator rest
      let authority :=
        if Path.leadsToDrive [] (pathTexts .file rest) then noHost else ⟨"", none, host, none⟩
      .ok (assemble "file" (some authority) (parsePath .file rest) rest)
  | none =>
    let rest := dropSeparator s
    .ok (assemble "file" (some noHost) (parsePath .file rest) rest)

def Address.parse (raw : String) : Except Fault Address := do
  let (scheme, s) ← splitScheme (trimOuter raw.toList)
  match schemeClass scheme with
  | .file => do .ok (.hierarchical (← parseFile s))
  | .special => do
    let (authority, rest) ← parseAuthority scheme ((Path.shown s).dropWhile (Path.isSeparator true))
    .ok (.hierarchical (parseAfterAuthority scheme authority rest))
  | .plain =>
    match Path.shown s with
    | '/' :: '/' :: s => do
      let (authority, rest) ← parseAuthority scheme s
      .ok (.hierarchical (parseAfterAuthority scheme authority rest))
    | '/' :: s => .ok (.hierarchical (assemble scheme none (parsePath .plain s) s))
    | _ => .ok (.opaquePath scheme)

end RecordStore.Url
