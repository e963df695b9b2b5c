import RecordStore.Kind
import RecordStore.Text.Quoted

/-! # Keys

A key addresses one record, or only a kind. Keys are the same when their kinds and their
identifiers are: an empty identifier counts as none, so one key has two forms. -/

namespace RecordStore

/-- How hashes are made: what a number and a text add to what was taken in before, and the hash of
all that was taken in. -/
structure Hasher (σ : Type) where
  number : Nat → σ → σ
  text : String → σ → σ
  finish : σ → UInt64

/-- What a kind adds to a hash: its place in the registry. -/
def Kind.feed {σ : Type} (h : Hasher σ) (k : Kind) (state : σ) : σ := h.number (all.idxOf k) state

inductive Key where
  | unaddressed (kind : Kind)
  | addressed (kind : Kind) (id : String)
  deriving DecidableEq, Repr

namespace Key

/-- The key of a kind and an identifier; without identifier when that is empty. -/
def make (kind : Kind) (id : String) : Key := if id = "" then unaddressed kind else addressed kind id

def kind : Key → Kind
  | unaddressed k => k
  | addressed k _ => k

/-- The identifier, unless it is empty. -/
def id? : Key → Option String
  | unaddressed _ => none
  | addressed _ id => if id = "" then none else some id

theorem id?_eq_some_iff {key : Key} {id : String} :
    key.id? = some id ↔ id ≠ "" ∧ ∃ kind, key = addressed kind id := by
  cases key with
  | unaddressed kind => simp [id?]
  | addressed kind given =>
    by_cases hempty : given = ""
    · simp only [id?, if_pos hempty, reduceCtorEq, addressed.injEq, false_iff]
      rintro ⟨hid, _, -, rfl⟩
      exact hid hempty
    · simp only [id?, if_neg hempty, Option.some.injEq, addressed.injEq, exists_and_right,
        exists_eq', true_and]
      exact ⟨fun h => ⟨h ▸ hempty, h⟩, And.right⟩

/-- The kind with the identifier, which is empty for a key that has none. -/
def pair (key : Key) : Kind × String := (key.kind, key.id?.getD "")

def ofPair : Kind × String → Key
  | (kind, id) => make kind id

/-- What equality and hashing see of a key. -/
def identity (key : Key) : Kind × Option String := (key.kind, key.id?)

instance : BEq Key where
  beq a b := a.identity == b.identity

theorem beq_iff {a b : Key} : (a == b) = true ↔ a.kind = b.kind ∧ a.id? = b.id? := by
  change (a.identity == b.identity) = true ↔ _
  simp [identity]

/-- What a key adds to a hash: its kind, whether it has an identifier, and the identifier. -/
def feed {σ : Type} (h : Hasher σ) (key : Key) (state : σ) : σ :=
  let state := key.kind.feed h state
  match key.id? with
  | some id => h.text id (h.number 1 state)
  | none => h.number 0 state

def distinct (keys : List Key) : List Key := keys.eraseDups

/-- The key in messages: the kind, and the identifier behind a slash. -/
def text (key : Key) : String :=
  match key.id? with
  | some id => key.kind.typeName ++ "/" ++ id
  | none => key.kind.typeName

/-- The key in logs, in the form it was given. -/
def description : Key → String
  | unaddressed k => Text.describeRecord "Unaddressed" [("kind", k.description)]
  | addressed k id =>
    Text.describeRecord "Addressed" [("kind", k.description), ("id", Text.quoted id)]

end Key

end RecordStore
