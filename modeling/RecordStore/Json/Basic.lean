import RecordStore.Decimal.Text

/-! # JSON values

A JSON value. The members of an object are a list in ascending order of their names, each name
once; `Members.insert` keeps it so, and `Members.get?` is the view through which everything else
looks at it. -/

namespace RecordStore

inductive Json.Number where
  | integer (value : Int)
  | real (value : Decimal.Binary64)
  deriving DecidableEq, Repr

inductive Json where
  | null
  | bool (value : Bool)
  | number (value : Json.Number)
  | string (value : String)
  | array (items : List Json)
  | object (members : List (String × Json))
  deriving Repr

namespace Json

def Number.text : Number → String
  | integer i => String.ofList ((if i < 0 then ['-'] else []) ++ Nat.toDigits 10 i.natAbs)
  | real x => x.text

abbrev Members := List (String × Json)

namespace Members

/-- The value of the first member called `name`. -/
def get? (name : String) : Members → Option Json
  | [] => none
  | (k, v) :: rest => if k = name then some v else get? name rest

/-- Puts a member at its place; a member of the same name is replaced. -/
def insert (name : String) (value : Json) : Members → Members
  | [] => [(name, value)]
  | (k, v) :: rest =>
    if k = name then (name, value) :: rest
    else if name < k then (name, value) :: (k, v) :: rest
    else (k, v) :: insert name value rest

def insertAll (added base : Members) : Members :=
  added.foldl (fun m (k, v) => m.insert k v) base

/-- The members in the order given, later ones replacing earlier ones of the same name. -/
def ofList (members : List (String × Json)) : Members := insertAll members []

def names (m : Members) : List String := m.map (·.1)

@[simp] theorem get?_nil (name : String) : get? name [] = none := rfl

@[simp] theorem get?_cons (name k : String) (v : Json) (m : Members) :
    get? name ((k, v) :: m) = if k = name then some v else get? name m := rfl

theorem get?_insert (m : Members) (name other : String) (v : Json) :
    (m.insert name v).get? other = if name = other then some v else m.get? other := by
  induction m with
  | nil => rfl
  | cons kv rest ih =>
    obtain ⟨k, w⟩ := kv
    by_cases hk : k = name
    · subst hk
      by_cases ho : k = other <;> simp [insert, ho]
    · by_cases hlt : name < k
      · simp [insert, hk, hlt]
      · by_cases ho : k = other
        · subst ho
          simp [insert, hk, hlt, Ne.symm hk]
        · simp [insert, hk, hlt, ih, ho]

theorem mem_names_insert (m : Members) (name other : String) (v : Json) :
    other ∈ (m.insert name v).names ↔ other = name ∨ other ∈ m.names := by
  induction m with
  | nil => simp [insert, names]
  | cons kv rest ih =>
    obtain ⟨k, w⟩ := kv
    by_cases hk : k = name
    · simp [insert, names, hk]
    · by_cases hlt : name < k
      · simp [insert, names, hk, hlt]
      · simp only [insert, hk, hlt, if_false, names, List.map_cons, List.mem_cons] at ih ⊢
        rw [ih]
        exact or_left_comm

end Members

def member? (name : String) : Json → Option Json
  | object m => Members.get? name m
  | _ => none

@[simp] theorem member?_object (name : String) (m : Members) :
    member? name (object m) = Members.get? name m := rfl

/-- The text of a value that stands for an identifier: a string that is not empty, or a number. -/
def identifier? : Json → Option String
  | string s => if s = "" then none else some s
  | number n => some n.text
  | _ => none

end Json

end RecordStore
