import RecordStore.Backend.Read
import RecordStore.Proofs.Json.Identifiers
import RecordStore.Proofs.Steps
import Mathlib.Data.List.Forall2

/-! # Listings

A listing is the array under `data`, and has no items where there is none. It has a key for each
item, in their order, if all of them have identifiers. -/

namespace RecordStore

/-- Steps that are taken for the elements of a list all succeed, or there is no result. -/
theorem Except.mapM_eq_ok_iff {ε α β : Type} {f : α → Except ε β} {xs : List α} {ys : List β} :
    xs.mapM f = .ok ys ↔ List.Forall₂ (fun x y => f x = .ok y) xs ys := by
  induction xs generalizing ys with
  | nil =>
    rw [List.mapM_nil, List.forall₂_nil_left_iff]
    exact ⟨fun h => (Except.ok.inj h).symm, fun h => h ▸ rfl⟩
  | cons x xs ih =>
    rw [List.mapM_cons, bind_eq_ok_iff, List.forall₂_cons_left_iff]
    simp only [bind_eq_ok_iff, ih]
    constructor
    · rintro ⟨y, hy, ys', hys', h⟩
      cases h
      exact ⟨y, ys', hy, hys', rfl⟩
    · rintro ⟨y, ys', hy, hys', rfl⟩
      exact ⟨y, hy, ys', hys', rfl⟩

theorem Except.exists_of_mapM_eq_error {ε α β : Type} {f : α → Except ε β} {xs : List α} {e : ε}
    (h : xs.mapM f = .error e) : ∃ x ∈ xs, f x = .error e := by
  induction xs with
  | nil => contradiction
  | cons x xs ih =>
    rw [List.mapM_cons] at h
    rcases eq_error_or_of_bind_eq_error h with hx | ⟨y, -, hrest⟩
    · exact ⟨x, List.mem_cons_self, hx⟩
    · rcases eq_error_or_of_bind_eq_error hrest with hxs | ⟨ys, -, hpure⟩
      · obtain ⟨x', hmem, hx'⟩ := ih hxs
        exact ⟨x', List.mem_cons_of_mem x hmem, hx'⟩
      · contradiction

namespace Json

variable {item : Json} {id : String}

/-- The item is that of the record with the identifier. -/
def Identifies (item : Json) (id : String) : Prop :=
  id ≠ "" ∧ ∃ v, item.member? "id" = some v ∧ v.StandsFor id

/-- The item has an identifier: a string that is not empty, or a number. -/
def HasIdentifier (item : Json) : Prop :=
  (∃ s, s ≠ "" ∧ item.member? "id" = some (.string s)) ∨
    ∃ n, item.member? "id" = some (.number n)

theorem member?_bind_identifier?_eq_some_iff :
    (item.member? "id").bind identifier? = some id ↔ item.Identifies id := by
  rw [Option.bind_eq_some_iff]
  constructor
  · rintro ⟨v, hv, hid⟩
    obtain ⟨hstands, hne⟩ := identifier?_eq_some_iff.mp hid
    exact ⟨hne, v, hv, hstands⟩
  · rintro ⟨hne, v, hv, hstands⟩
    exact ⟨v, hv, identifier?_eq_some_iff.mpr ⟨hstands, hne⟩⟩

theorem exists_identifies_iff : (∃ id, item.Identifies id) ↔ item.HasIdentifier := by
  constructor
  · rintro ⟨id, hne, v, hv, rfl | ⟨n, rfl, -⟩⟩
    · exact .inl ⟨id, hne, hv⟩
    · exact .inr ⟨n, hv⟩
  · rintro (⟨s, hne, hs⟩ | ⟨n, hn⟩)
    · exact ⟨s, hne, _, hs, .inl rfl⟩
    · exact ⟨n.text, n.text_ne_empty, _, hn, .inr ⟨n, rfl, rfl⟩⟩

/-- It makes no difference whether an identifier is sent as a number or as its text. -/
theorem identifies_number_iff (n : Number) (m : Members) :
    (object (m.insert "id" (.number n))).Identifies id ↔
      (object (m.insert "id" (.string n.text))).Identifies id := by
  simp only [Identifies, StandsFor, member?_object, Members.get?_insert, if_pos, Option.some.injEq,
    exists_eq_left', number.injEq, string.injEq, reduceCtorEq, false_or, false_and, exists_false,
    or_false]

end Json

/-- The document lists the items: they are in the array under `data`, or there is no array and there
are none. -/
def Document.Holds (d : Document) (items : List Json) : Prop :=
  d.member? "data" = some (.array items) ∨
    items = [] ∧ ∀ others, d.member? "data" ≠ some (.array others)

theorem Document.lookup_data (d : Document) : d.lookup "data" = d.member? "data" := by
  have hsteps : steps "data" = ["data"] := rfl
  have hnames : ∀ name ∈ ["data"], index? name = none := by simp [index?_data]
  rw [lookup, hsteps, walk_of_names hnames]
  rfl

theorem Document.holds_iff {d : Document} {items : List Json} :
    d.Holds items ↔ d.dataItems = items := by
  rw [Holds, dataItems, lookup_data]
  cases d.member? "data" with
  | none => simp [eq_comm]
  | some data => cases data <;> simp [eq_comm]

namespace Backend

variable {b : Backend} {item : Json} {key : Key} {d : Document} {keys : List Key}

theorem keyOfItem_eq_ok_iff :
    b.keyOfItem item = .ok key ↔ ∃ id, item.Identifies id ∧ key = .addressed b.kind id := by
  simp only [← Json.member?_bind_identifier?_eq_some_iff, keyOfItem]
  cases (item.member? "id").bind Json.identifier? with
  | none => simp [failure]
  | some id => simp [eq_comm]

/-- A listing is decoded to the key of each item in turn. -/
theorem decodeListing_eq_ok_iff :
    b.decodeListing d = .ok keys ↔
      List.Forall₂ (fun item key => ∃ id, item.Identifies id ∧ key = .addressed b.kind id)
        d.dataItems keys := by
  rw [decodeListing, Except.mapM_eq_ok_iff]
  simp only [keyOfItem_eq_ok_iff]

theorem exists_decodeListing_iff :
    (∃ keys, b.decodeListing d = .ok keys) ↔ ∀ item ∈ d.dataItems, item.HasIdentifier := by
  simp only [decodeListing_eq_ok_iff, ← Json.exists_identifies_iff]
  induction d.dataItems with
  | nil => simp
  | cons item items ih =>
    rw [List.forall_mem_cons, ← ih]
    constructor
    · rintro ⟨keys, _ | ⟨⟨id, hid, -⟩, hrest⟩⟩
      exact ⟨⟨id, hid⟩, _, hrest⟩
    · rintro ⟨⟨id, hid⟩, keys, hrest⟩
      exact ⟨_, .cons ⟨id, hid, rfl⟩ hrest⟩

theorem keyOfItem_eq_error_iff {e : StoreError} :
    b.keyOfItem item = .error e ↔
      ¬item.HasIdentifier ∧ e = .backend .list (.missingField "data[].id") := by
  simp only [← Json.exists_identifies_iff, ← Json.member?_bind_identifier?_eq_some_iff, keyOfItem]
  cases (item.member? "id").bind Json.identifier? with
  | none => simp [failure, eq_comm]
  | some id => simp

/-- One item without identifier spoils a listing, wherever it stands. -/
theorem decodeListing_eq_error_iff {e : StoreError} :
    b.decodeListing d = .error e ↔
      (∃ item ∈ d.dataItems, ¬item.HasIdentifier) ∧
        e = .backend .list (.missingField "data[].id") := by
  have hspoilt : ∀ {e}, b.decodeListing d = .error e →
      (∃ item ∈ d.dataItems, ¬item.HasIdentifier) ∧
        e = .backend .list (.missingField "data[].id") := by
    intro e h
    obtain ⟨item, hmem, hitem⟩ := Except.exists_of_mapM_eq_error h
    obtain ⟨hnone, he⟩ := keyOfItem_eq_error_iff.mp hitem
    exact ⟨⟨item, hmem, hnone⟩, he⟩
  constructor
  · exact hspoilt
  · rintro ⟨⟨item, hmem, hnone⟩, rfl⟩
    cases hkeys : b.decodeListing d with
    | ok keys => exact absurd (exists_decodeListing_iff.mp ⟨keys, hkeys⟩ item hmem) hnone
    | error e => rw [(hspoilt hkeys).2]

theorem mem_keys_iff (h : b.decodeListing d = .ok keys) :
    key ∈ keys ↔ ∃ item ∈ d.dataItems, b.keyOfItem item = .ok key := by
  rw [decodeListing, Except.mapM_eq_ok_iff] at h
  generalize d.dataItems = items at h ⊢
  induction h with
  | nil => simp
  | cons hitem _ ih => simp [ih, hitem, eq_comm]

/-- The key is that of one of the items. -/
def Contains (b : Backend) (items : List Json) (key : Key) : Prop :=
  key.kind = b.kind ∧ ∃ id, key.id? = some id ∧ ∃ item ∈ items, item.Identifies id

theorem contains_keys_iff (h : b.decodeListing d = .ok keys) :
    keys.contains key = true ↔ b.Contains d.dataItems key := by
  rw [List.contains_iff_exists_mem_beq]
  simp only [mem_keys_iff h, keyOfItem_eq_ok_iff, Key.beq_iff]
  constructor
  · rintro ⟨_, ⟨item, hmem, id, hid, rfl⟩, hkind, hkey⟩
    exact ⟨hkind, id, hkey.trans (if_neg hid.1), item, hmem, hid⟩
  · rintro ⟨hkind, id, hkey, item, hmem, hid⟩
    exact ⟨_, ⟨item, hmem, id, hid, rfl⟩, hkind, hkey.trans (if_neg hid.1).symm⟩

/-! ## What a document comes to as a listing -/

/-- What a document comes to as a listing: a key for each item of the array under `data`, in their
order, or the error that some item has no identifier. Where there is no array there are no keys. -/
inductive Decodes (b : Backend) (d : Document) : Except StoreError (List Key) → Prop
  | keys {items : List Json} {keys : List Key} (hitems : d.member? "data" = some (.array items))
      (hkeys : List.Forall₂ (fun item key => ∃ id, item.Identifies id ∧ key = .addressed b.kind id)
        items keys) :
    Decodes b d (.ok keys)
  | spoilt {items : List Json} {item : Json} (hitems : d.member? "data" = some (.array items))
      (hmem : item ∈ items) (hnone : ¬item.HasIdentifier) :
    Decodes b d (.error (.backend .list (.missingField "data[].id")))
  | empty (hnone : ∀ items, d.member? "data" ≠ some (.array items)) : Decodes b d (.ok [])

theorem decodeListing_of_no_array (h : ∀ items, d.member? "data" ≠ some (.array items)) :
    b.decodeListing d = .ok [] := by
  have hitems : d.dataItems = [] := Document.holds_iff.mp (.inr ⟨rfl, h⟩)
  rw [decodeListing_eq_ok_iff, hitems]
  exact .nil

theorem Decodes.eq_decodeListing {outcome : Except StoreError (List Key)} (h : b.Decodes d outcome) :
    b.decodeListing d = outcome := by
  cases h with
  | keys hitems hkeys =>
    rwa [decodeListing_eq_ok_iff, Document.holds_iff.mp (.inl hitems)]
  | spoilt hitems hmem hnone =>
    rw [decodeListing_eq_error_iff, Document.holds_iff.mp (.inl hitems)]
    exact ⟨⟨_, hmem, hnone⟩, rfl⟩
  | empty hnone => exact decodeListing_of_no_array hnone

theorem decodes_decodeListing (b : Backend) (d : Document) : b.Decodes d (b.decodeListing d) := by
  rcases Document.holds_iff.mpr (rfl : d.dataItems = d.dataItems) with hitems | ⟨-, hnone⟩
  · cases hkeys : b.decodeListing d with
    | ok keys => exact .keys hitems (decodeListing_eq_ok_iff.mp hkeys)
    | error e =>
      obtain ⟨⟨item, hmem, hnone⟩, rfl⟩ := decodeListing_eq_error_iff.mp hkeys
      exact .spoilt hitems hmem hnone
  · rw [decodeListing_of_no_array hnone]
    exact .empty hnone

theorem exists_eq_addressed_of_mem (h : b.decodeListing d = .ok keys) (hmem : key ∈ keys) :
    ∃ id, id ≠ "" ∧ key = .addressed b.kind id := by
  obtain ⟨item, -, hitem⟩ := (mem_keys_iff h).mp hmem
  obtain ⟨id, hid, rfl⟩ := keyOfItem_eq_ok_iff.mp hitem
  exact ⟨id, hid.1, rfl⟩

/-- A listing is decoded as a whole or not at all. Every document comes to exactly one outcome, and
there are keys exactly if every item of the array under `data` has an identifier. Each of the keys
has an identifier then, which is not empty, so that none is equal to a key without one. -/
theorem listing_decoded_as_a_whole (b : Backend) (d : Document) :
    (∀ outcome, b.Decodes d outcome ↔ outcome = b.decodeListing d) ∧
    ((∃ keys, b.decodeListing d = .ok keys) ↔
      ∀ items, d.member? "data" = some (.array items) → ∀ item ∈ items, item.HasIdentifier) ∧
    ∀ keys, b.decodeListing d = .ok keys → ∀ key ∈ keys,
      (∃ id, id ≠ "" ∧ key = .addressed b.kind id) ∧
        ∀ other : Key, other.id? = none → (key == other) = false := by
  refine ⟨?_, ?_, ?_⟩
  · intro outcome
    constructor
    · exact fun h => h.eq_decodeListing.symm
    · rintro rfl
      exact decodes_decodeListing b d
  · rw [exists_decodeListing_iff]
    constructor
    · intro hall items hitems
      rwa [Document.holds_iff.mp (.inl hitems)] at hall
    · intro hall item hmem
      rcases Document.holds_iff.mpr (rfl : d.dataItems = d.dataItems) with hitems | ⟨hempty, -⟩
      · exact hall _ hitems item hmem
      · rw [hempty] at hmem
        contradiction
  · intro keys hkeys key hmem
    obtain ⟨id, hid, rfl⟩ := exists_eq_addressed_of_mem hkeys hmem
    refine ⟨⟨id, hid, rfl⟩, ?_⟩
    intro other hother
    rw [Bool.eq_false_iff, ne_eq, Key.beq_iff, hother, Key.id?, if_neg hid]
    rintro ⟨-, hsome⟩
    contradiction

end Backend

end RecordStore
