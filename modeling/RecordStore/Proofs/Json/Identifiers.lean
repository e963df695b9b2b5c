import RecordStore.Proofs.Paths

/-! # Identifiers

A value stands for an identifier if it is this string, which is not empty, or a number with this
text. A number always stands for one. -/

namespace RecordStore

theorem Decimal.Binary64.text_ne_empty (x : Decimal.Binary64) : x.text ≠ "" := by
  have hmagnitude : x.magnitudeText ≠ [] := by
    rw [magnitudeText]
    dsimp only
    split
    · simp
    · split
      · rw [positional]
        split
        · simp
        · split <;> simp
      · simp [scientific]
  rw [text, ne_eq, String.ofList_eq_empty_iff]
  exact List.append_ne_nil_of_right_ne_nil _ hmagnitude

namespace Json

theorem Number.text_ne_empty (n : Number) : n.text ≠ "" := by
  cases n with
  | integer i =>
    rw [text, ne_eq, String.ofList_eq_empty_iff]
    exact List.append_ne_nil_of_right_ne_nil _ Nat.toDigits_ne_nil
  | real x => exact x.text_ne_empty

/-- The value stands for the identifier: it is this string, or a number with this text. -/
def StandsFor (v : Json) (id : String) : Prop :=
  v = .string id ∨ ∃ n, v = .number n ∧ n.text = id

theorem identifier?_eq_some_iff {v : Json} {id : String} :
    v.identifier? = some id ↔ v.StandsFor id ∧ id ≠ "" := by
  cases v with
  | string s =>
    by_cases hs : s = ""
    · simp [identifier?, StandsFor, hs, eq_comm]
    · simp only [identifier?, StandsFor, if_neg hs, Option.some.injEq, string.injEq, reduceCtorEq,
        false_and, exists_false, or_false]
      exact ⟨fun h => ⟨h, h ▸ hs⟩, And.left⟩
  | number n =>
    simp only [identifier?, StandsFor, Option.some.injEq, number.injEq, reduceCtorEq, false_or,
      exists_eq_left']
    exact ⟨fun h => ⟨h, h ▸ n.text_ne_empty⟩, And.left⟩
  | null | bool _ | array _ | object _ => simp [identifier?, StandsFor]

end Json

theorem Document.lookup_data_id (d : Document) :
    d.lookup "data/id" = (d.member? "data").bind (Json.member? "id") := by
  have hsteps : steps "data/id" = ["data", "id"] := rfl
  have hid : index? "id" = none := by decide
  have hnames : ∀ name ∈ ["data", "id"], index? name = none := by simp [index?_data, hid]
  rw [lookup, hsteps, walk_of_names hnames]
  rfl

end RecordStore
