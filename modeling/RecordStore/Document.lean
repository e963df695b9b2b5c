import RecordStore.Json.Basic
import RecordStore.Text.Digits
import RecordStore.Text.Split

/-! # Documents and paths

A document is a JSON value that is read through paths such as `data/attributes/suite` or
`data/0/id`. A path is a list of steps; a step is a member's name on an object and an index on an
array, and leads nowhere on anything else. -/

namespace RecordStore

abbrev Document := Json

namespace Document

/-- The steps of a path: its parts between slashes, without the empty ones. -/
def steps (path : String) : List String :=
  ((Text.splitOn (· = '/') path.toList).filter (fun part => !part.isEmpty)).map String.ofList

def indexBound : Nat := Nat.pow 2 64

/-- The index that a step denotes: decimal digits, with a plus sign before them or not. -/
def index? (step : String) : Option Nat :=
  let digits := match step.toList with
    | '+' :: s => s
    | s => s
  if digits.isEmpty || !digits.all Char.isDigit then none
  else
    let n := Text.decimalValue digits
    if n < indexBound then some n else none

def step (name : String) : Document → Option Document
  | .object m => Json.Members.get? name m
  | .array items => (index? name).bind (items[·]?)
  | _ => none

def walk : List String → Document → Option Document
  | [], d => some d
  | name :: rest, d => (step name d).bind (walk rest)

def lookup (path : String) (d : Document) : Option Document := walk (steps path) d

def identifierAt (path : String) (d : Document) : Option String :=
  (d.lookup path).bind Json.identifier?

/-- The items listed under `data`; none unless that is an array. -/
def dataItems (d : Document) : List Json :=
  match d.lookup "data" with
  | some (.array items) => items
  | _ => []

@[simp] theorem walk_nil (d : Document) : walk [] d = some d := rfl

@[simp] theorem walk_cons (name : String) (rest : List String) (d : Document) :
    walk (name :: rest) d = (step name d).bind (walk rest) := rfl

theorem walk_append (p q : List String) (d : Document) :
    walk (p ++ q) d = (walk p d).bind (walk q) := by
  induction p generalizing d with
  | nil => rfl
  | cons name p ih => cases h : step name d <;> simp [h, ih]

end Document

end RecordStore
