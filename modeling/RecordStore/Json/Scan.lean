import RecordStore.Json.Reader

/-! # Reading text against an expectation

A scanner reads one value of an expected shape from the start of a text. A value of another shape
is refused where it starts, before the text behind it is looked at, so that the first fault of the
text decides. -/

namespace RecordStore.Json

abbrev Scanner := List Char → Except Fault (Json × List Char)

/-- The fault of a value that has another shape. A string, number or literal has to be well formed
to be refused for its shape; an array or object is refused as it opens. -/
def refuse {α : Type} (s : List Char) : Except Fault α :=
  match s with
  | [] => .error .truncated
  | c :: _ =>
    if c = '[' ∨ c = '\x7b' then .error .mismatched
    else match readKept s with
      | .error fault => .error fault
      | .ok _ => .error .mismatched

def scanString (s : List Char) : Except Fault (String × List Char) :=
  match skipSpace s with
  | '"' :: s => readString .keep .plain [] s
  | s => refuse s

def scanText : Scanner := fun s => (scanString s).map fun (text, rest) => (.string text, rest)

def scanFlag : Scanner := fun s =>
  match skipSpace s with
  | 't' :: s => (readLiteral ['r', 'u', 'e'] s).map (.bool true, ·)
  | 'f' :: s => (readLiteral ['a', 'l', 's', 'e'] s).map (.bool false, ·)
  | s => refuse s

def scanNull : Scanner := fun s =>
  match skipSpace s with
  | 'n' :: s => (readLiteral ['u', 'l', 'l'] s).map (.null, ·)
  | s => refuse s

def scanOptional (inner : Scanner) : Scanner := fun s =>
  match skipSpace s with
  | 'n' :: s => (readLiteral ['u', 'l', 'l'] s).map (.null, ·)
  | s => inner s

def expect (c : Char) (s : List Char) : Except Fault (List Char) :=
  match skipSpace s with
  | [] => .error .truncated
  | d :: s => if d = c then .ok s else .error .malformed

def knownName (names : List String) (name : String) : Except Fault Json :=
  if name ∈ names then .ok (.string name) else .error .mismatched

/-- Reads one of `names`: a string, or the only member of an object, whose value is `null`. What
opens neither, and a member without a name, is malformed whatever it is. -/
def scanChoice (names : List String) : Scanner := fun s =>
  match skipSpace s with
  | [] => .error .truncated
  | '"' :: s => do
    let (name, s) ← readString .keep .plain [] s
    .ok (← knownName names name, s)
  | '\x7b' :: s => do
    let (name, s) ← readString .keep .plain [] (← expect '"' s)
    let choice ← knownName names name
    let (_, s) ← scanNull (← expect ':' s)
    .ok (choice, ← expect '\x7d' s)
  | _ => .error .malformed

structure FieldScanner where
  name : String
  required : Bool
  scan : Scanner

/-- Reads the members of a record's object up to its end. A field that comes twice is refused at
its name; a member that is no field is passed over. -/
def scanMembers (fields : List FieldScanner) : (steps : Nat) → (seen : Members) → List Char →
    Except Fault (Members × List Char)
  | 0, _, _ => .error .truncated
  | steps + 1, seen, s => do
    let s ← expect '"' s
    let (name, s) ← readString .keep .plain [] s
    let (seen, s) ← match fields.find? (·.name = name) with
      | some field =>
        if (Members.get? name seen).isSome then .error .mismatched
        else do
          let (value, s) ← field.scan (← expect ':' s)
          .ok (seen.insert name value, s)
      | none => do .ok (seen, ← skipValue (← expect ':' s))
    match skipSpace s with
    | [] => .error .truncated
    | ',' :: s => scanMembers fields steps seen s
    | '\x7d' :: s => .ok (seen, s)
    | _ => .error .malformed

def scanItems : (fields : List FieldScanner) → (first : Bool) → List Char →
    Except Fault (List Json × List Char)
  | [], _, s => do .ok ([], ← expect ']' s)
  | field :: fields, first, s =>
    match skipSpace s with
    | [] => .error .truncated
    | c :: s =>
      if c = ']' then
        if (field :: fields).any (·.required) then .error .mismatched else .ok ([], s)
      else do
        let s ← if first then .ok (c :: s) else if c = ',' then .ok s else .error .malformed
        let s ← match skipSpace s with
          | ']' :: _ => .error .malformed
          | s => .ok s
        let (item, s) ← field.scan s
        let (items, s) ← scanItems fields false s
        .ok (item :: items, s)

def scanRecord (fields : List FieldScanner) : Scanner := fun s =>
  match skipSpace s with
  | '[' :: s => do
    let (items, s) ← scanItems fields true s
    .ok (.array items, s)
  | '\x7b' :: s => do
    let (members, s) ← match skipSpace s with
      | '\x7d' :: s => .ok ([], s)
      | s => scanMembers fields (stepsFor s) [] s
    if fields.any fun field => field.required && (Members.get? field.name members).isNone then
      .error .mismatched
    else .ok (.object members, s)
  | s => refuse s

end RecordStore.Json
