import RecordStore.Json.Lexeme

/-! # Reading JSON text

`Json.parse` reads a whole text as one value. Faults are reported in the order of the text: what
comes first decides. -/

namespace RecordStore.Json

/-- How many arrays and objects may be open at once in a value that is kept. -/
def deepest : Nat := 127

mutual

/-- Reads a value. `depth` more arrays and objects may be opened; `steps` bounds the work. -/
def readValue (purpose : Purpose) : (steps depth : Nat) → List Char →
    Except Fault (Json × List Char)
  | 0, _, _ => .error .truncated
  | steps + 1, depth, s =>
    match skipSpace s with
    | [] => .error .truncated
    | c :: s =>
      if c = '"' then do
        let (text, s) ← readString purpose .plain [] s
        .ok (.string text, s)
      else if c = '[' then
        if depth = 0 then .error .malformed
        else match skipSpace s with
          | ']' :: s => .ok (.array [], s)
          | s => do
            let (items, s) ← readItems purpose steps (depth - 1) s
            .ok (.array items, s)
      else if c = '\x7b' then
        if depth = 0 then .error .malformed
        else match skipSpace s with
          | '\x7d' :: s => .ok (.object [], s)
          | s => do
            let (members, s) ← readMembers purpose steps (depth - 1) s
            .ok (.object (Members.ofList members), s)
      else if c = 'n' then do .ok (.null, ← readLiteral ['u', 'l', 'l'] s)
      else if c = 't' then do .ok (.bool true, ← readLiteral ['r', 'u', 'e'] s)
      else if c = 'f' then do .ok (.bool false, ← readLiteral ['a', 'l', 's', 'e'] s)
      else if startsNumber c then do
        let (n, s) ← readNumber purpose (c :: s)
        .ok (.number n, s)
      else .error .malformed

/-- Reads the items of an array, at least one, and its end. -/
def readItems (purpose : Purpose) : (steps depth : Nat) → List Char →
    Except Fault (List Json × List Char)
  | 0, _, _ => .error .truncated
  | steps + 1, depth, s => do
    let (item, s) ← readValue purpose steps depth s
    match skipSpace s with
    | [] => .error .truncated
    | c :: s =>
      if c = ',' then
        let (items, s) ← readItems purpose steps depth s
        .ok (item :: items, s)
      else if c = ']' then .ok ([item], s)
      else .error .malformed

/-- Reads the members of an object, at least one, and its end. -/
def readMembers (purpose : Purpose) : (steps depth : Nat) → List Char →
    Except Fault (List (String × Json) × List Char)
  | 0, _, _ => .error .truncated
  | steps + 1, depth, s =>
    match skipSpace s with
    | [] => .error .truncated
    | '"' :: s => do
      let (name, s) ← readString purpose .plain [] s
      match skipSpace s with
      | [] => .error .truncated
      | ':' :: s =>
        let (value, s) ← readValue purpose steps depth s
        match skipSpace s with
        | [] => .error .truncated
        | c :: s =>
          if c = ',' then
            let (members, s) ← readMembers purpose steps depth s
            .ok ((name, value) :: members, s)
          else if c = '\x7d' then .ok ([(name, value)], s)
          else .error .malformed
      | _ => .error .malformed
    | _ => .error .malformed

end

/-- Enough steps for a text: each character leads to at most two. -/
def stepsFor (s : List Char) : Nat := 2 * s.length + 2

def readKept (s : List Char) : Except Fault (Json × List Char) :=
  readValue .keep (stepsFor s) deepest s

/-- Passes over a value, however deep. -/
def skipValue (s : List Char) : Except Fault (List Char) :=
  (readValue .skip (stepsFor s) s.length s).map (·.2)

/-- Nothing but blanks may follow. -/
def finish {α : Type} : α × List Char → Except Fault α
  | (a, s) => if (skipSpace s).isEmpty then .ok a else .error .malformed

def parse (s : String) : Except Fault Json := readKept s.toList >>= finish

end RecordStore.Json
