import RecordStore.Session

/-! # What speaks against a call

The objections to a call are listed in the order in which they are looked at; a call is refused for
the first of them. Each check of a backend gives the verdict on one part of the list. -/

namespace RecordStore

open Session (Call)

/-- Fails with the first of the objections. -/
def verdict : List StoreError → Except StoreError Unit
  | [] => .ok ()
  | e :: _ => .error e

theorem verdict_eq_ok_iff {es : List StoreError} : verdict es = .ok () ↔ es = [] := by
  cases es with
  | nil => exact ⟨fun _ => rfl, fun _ => rfl⟩
  | cons e rest => constructor <;> intro h <;> contradiction

theorem verdict_append (xs ys : List StoreError) :
    verdict (xs ++ ys) = verdict xs >>= fun _ => verdict ys := by
  cases xs <;> rfl

namespace Exchange

variable {α β γ : Type}

theorem checked_bind (check : Except StoreError α) (more : α → Except StoreError β)
    (next : β → Exchange γ) :
    checked (check >>= more) next = checked check fun a => checked (more a) next := by
  cases check <;> rfl

theorem checked_map (check : Except StoreError α) (f : α → β) (next : β → Exchange γ) :
    checked (check.map f) next = checked check fun a => next (f a) := by
  cases check <;> rfl

theorem andThen_checked (check : Except StoreError α) (next : α → Exchange β)
    (f : β → Except StoreError γ) :
    (checked check next).andThen f = checked check fun a => (next a).andThen f := by
  cases check <;> rfl

theorem checked_verdict_append (xs ys : List StoreError) (next : Unit → Exchange γ) :
    checked (verdict (xs ++ ys)) next =
      checked (verdict xs) fun _ => checked (verdict ys) next := by
  rw [verdict_append, checked_bind]

/-- Two answers given one after the other are one answer. -/
theorem andThen_ok_andThen_ok (x : Exchange α) (f : α → β) (g : β → γ) :
    ((x.andThen fun a => .ok (f a)).andThen fun c => .ok (g c)) = x.andThen fun a => .ok (g (f a)) := by
  cases x with
  | settled result => cases result <;> rfl
  | ask request conclude =>
    simp only [andThen, ask.injEq, true_and]
    funext delivery
    cases conclude delivery <;> rfl

end Exchange

namespace Backend

variable (b : Backend)

def kindObjections (key : Key) : List StoreError :=
  if key.kind = b.kind then [] else [.kindMismatch b.kind key.kind]

def dotObjections (key : Key) : List StoreError :=
  match key.id? with
  | some id => if id = "." ∨ id = ".." then [.invalidIdentifier id] else []
  | none => []

def idObjections (operation : Operation) (key : Key) : List StoreError :=
  if key.id? = none then [.missingIdentifier operation] else []

def fieldObjections (fields : Fields) : List StoreError :=
  if ∀ name ∈ Json.Members.names fields, name ∈ b.kind.allowedFields then []
  else [.invalidFields b.kind (b.rejectedFields fields)]

def optionObjections (key : Key) (options : CreateOptions) : List StoreError :=
  match options.kind? with
  | some kind => if kind = key.kind then [] else [.invalidFields key.kind kind.allowedFields]
  | none => []

def payloadObjections (payload : Payload) : List StoreError :=
  match payload.toJson with
  | .ok _ => []
  | .error fault => [.backend .set (.json fault)]

/-- What speaks against writing a value: extra fields matter only for a new record. -/
def writeObjections (key : Key) (fields : Fields) : List StoreError :=
  b.kindObjections key ++ dotObjections key ++
    if key.id? = none then b.fieldObjections fields else []

/-- What speaks against a call, in the order in which it is looked at. -/
def objections : Call Key → List StoreError
  | .get key => b.kindObjections key ++ dotObjections key
  | .getPayload key => b.kindObjections key ++ dotObjections key
  | .urlForKey key => b.kindObjections key ++ dotObjections key
  | .set key _ fields => b.writeObjections key fields
  | .setWithOptions key payload options =>
    optionObjections key options ++ payloadObjections payload ++
      b.writeObjections key options.toFields
  | .removeKey key => b.kindObjections key ++ idObjections .remove key ++ dotObjections key
  | .validateFields fields => b.fieldObjections fields
  | .info | .config | .listKeys | .hasKey _ | .decodeListing _ => []

/-- The key is that of a record of the backend, with this identifier. -/
structure AcceptsRecord (b : Backend) (key : Key) (id : String) : Prop where
  kind_eq : key.kind = b.kind
  id?_eq : key.id? = some id
  not_dots : ¬(id = "." ∨ id = "..")

/-- Where a key leads if nothing speaks against it. -/
def addressOf (key : Key) : Url :=
  match key.id? with
  | some id => b.collectionUrl.push id
  | none => b.collectionUrl

theorem kindObjections_eq_nil_iff {key : Key} : b.kindObjections key = [] ↔ key.kind = b.kind := by
  by_cases h : key.kind = b.kind <;> simp [kindObjections, h]

namespace AcceptsRecord

variable {b : Backend} {key : Key} {id : String} (h : b.AcceptsRecord key id)
include h

theorem kindObjections_eq_nil : b.kindObjections key = [] :=
  b.kindObjections_eq_nil_iff.mpr h.kind_eq

theorem dotObjections_eq_nil : dotObjections key = [] := by
  rw [dotObjections, h.id?_eq]
  exact if_neg h.not_dots

/-- The fields of a write do not matter behind an identifier, as they are those of a new record. -/
theorem writeObjections_eq_nil (fields : Fields) : b.writeObjections key fields = [] := by
  rw [writeObjections, h.kindObjections_eq_nil, h.dotObjections_eq_nil, h.id?_eq]
  rfl

end AcceptsRecord

/-! ## The checks -/

theorem checkKind_eq_verdict (key : Key) : b.checkKind key = verdict (b.kindObjections key) := by
  by_cases h : key.kind = b.kind <;> simp [checkKind, kindObjections, verdict, h]

theorem itemUrl_eq_verdict {key : Key} {id : String} (hid : key.id? = some id) :
    b.itemUrl id = (verdict (dotObjections key)).map fun _ => b.collectionUrl.push id := by
  by_cases h : id = "." ∨ id = ".."
  · simp [itemUrl, dotObjections, hid, h, verdict, Except.map]
  · simp [itemUrl, dotObjections, hid, h, verdict, Except.map]

theorem keyUrl_eq_verdict (key : Key) :
    b.keyUrl key =
      (verdict (b.kindObjections key ++ dotObjections key)).map fun _ => b.addressOf key := by
  rw [keyUrl, checkKind_eq_verdict, verdict_append]
  cases hid : key.id? with
  | none =>
    have hdots : dotObjections key = [] := by simp only [dotObjections, hid]
    rw [hdots, addressOf, hid]
    cases b.kindObjections key <;> rfl
  | some id =>
    rw [addressOf, hid]
    simp only [itemUrl_eq_verdict b hid]
    cases b.kindObjections key <;> cases dotObjections key <;> rfl

theorem mem_rejectedFields {fields : Fields} {name : String} :
    name ∈ b.rejectedFields fields ↔
      name ∈ Json.Members.names fields ∧ name ∉ b.kind.allowedFields := by
  rw [rejectedFields, List.mem_mergeSort, List.mem_filter, decide_eq_true_iff]
  rfl

theorem rejectedFields_eq_nil_iff {fields : Fields} :
    b.rejectedFields fields = [] ↔
      ∀ name ∈ Json.Members.names fields, name ∈ b.kind.allowedFields := by
  simp only [List.eq_nil_iff_forall_not_mem, mem_rejectedFields, not_and, Decidable.not_not]

theorem checkFields_eq_verdict (fields : Fields) :
    b.checkFields fields = verdict (b.fieldObjections fields) := by
  rw [checkFields, fieldObjections]
  by_cases h : b.rejectedFields fields = []
  · rw [if_pos (b.rejectedFields_eq_nil_iff.mp h)]
    simp only [h, List.isEmpty_nil, if_true]
    rfl
  · have hempty : (b.rejectedFields fields).isEmpty = false := List.isEmpty_eq_false_iff.mpr h
    rw [if_neg (fun hall => h (b.rejectedFields_eq_nil_iff.mpr hall))]
    simp only [hempty, Bool.false_eq_true, if_false]
    rfl

theorem checkOptions_eq_verdict (key : Key) (options : CreateOptions) :
    checkOptions key options = verdict (optionObjections key options) := by
  cases h : options.kind? with
  | none => simp only [checkOptions, optionObjections, h, verdict]
  | some kind => by_cases hk : kind = key.kind <;> simp [checkOptions, optionObjections, h, hk, verdict]

end Backend

end RecordStore
