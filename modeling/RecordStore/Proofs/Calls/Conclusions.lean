import RecordStore.Proofs.RecordAddresses
import RecordStore.Proofs.Steps

/-! # What calls conclude from a delivery

Behind its request a call reports a failure of the remote call, or success. A create draws both from
the identifier in the reply: it refuses one that cannot name a record, when the record is already
made, and it takes any other for a new record, whatever the status says. -/

namespace RecordStore

open Session (Call Answer)

/-- Every error tells of a failure in the remote call. -/
def FailsRemotely {α : Type} (x : Except StoreError α) : Prop :=
  ∀ e, x = .error e → e.isBackend = true

namespace FailsRemotely

variable {α β : Type} {x : Except StoreError α} {f : α → Except StoreError β}

theorem ok (a : α) : FailsRemotely (.ok a) := by
  intro e h
  contradiction

theorem failure (operation : Operation) (cause : Cause) :
    FailsRemotely (Backend.failure operation cause : Except StoreError α) := by
  intro e h
  cases h
  rfl

theorem bind (hx : FailsRemotely x) (hf : ∀ a, FailsRemotely (f a)) : FailsRemotely (x >>= f) := by
  cases x with
  | ok a => exact hf a
  | error e =>
    intro e' h
    cases h
    exact hx e rfl

theorem mapM (hf : ∀ a, FailsRemotely (f a)) (items : List α) : FailsRemotely (items.mapM f) := by
  induction items with
  | nil => exact ok []
  | cons a items ih =>
    rw [List.mapM_cons]
    apply (hf a).bind
    intro b
    apply ih.bind
    intro bs
    exact ok (b :: bs)

theorem isValidation_ne_true (hx : FailsRemotely x) {e : StoreError} (h : x = .error e) :
    e.isValidation ≠ true := by
  have hbackend := hx e h
  cases e <;> first | contradiction | exact Bool.false_ne_true

end FailsRemotely

namespace Reply

variable {reply : Reply} {text : String}

theorem isSuccess_iff : reply.isSuccess = true ↔ reply.status < 300 := by
  rw [isSuccess, decide_eq_true_eq]

theorem not_isSuccess_iff : ¬reply.isSuccess = true ↔ 300 ≤ reply.status := by
  rw [isSuccess_iff, Nat.not_lt]

/-- The text is the body of the reply, or its first 200 characters and how many bytes it has. -/
def Abridges (reply : Reply) (text : String) : Prop :=
  reply.body.length ≤ 200 ∧ text = reply.body ∨
    ∃ head tail, reply.body = head ++ tail ∧ head.length = 200 ∧ tail ≠ "" ∧
      text = head ++ "... [truncated, " ++ toString reply.body.utf8ByteSize ++ " bytes total]"

theorem excerpt_of_append {head tail : String} (hbody : reply.body = head ++ tail)
    (hhead : head.length = 200) (htail : tail ≠ "") :
    reply.excerpt =
      head ++ "... [truncated, " ++ toString reply.body.utf8ByteSize ++ " bytes total]" := by
  have hchars : head.toList.length = 200 := by rw [String.length_toList, hhead]
  have hlong : 200 < reply.body.length := by
    have hpos : 0 < tail.toList.length := List.length_pos_iff.mpr (by simpa using htail)
    rw [String.length_toList] at hpos
    rw [hbody, String.length_append, hhead]
    omega
  have htake : reply.body.toList.take 200 = head.toList := by
    rw [hbody, String.toList_append, ← hchars, List.take_left]
  rw [excerpt, keptCharacters, if_pos hlong, htake, String.ofList_toList]

theorem abridges_iff : reply.Abridges text ↔ reply.excerpt = text := by
  constructor
  · rintro (⟨hshort, rfl⟩ | ⟨head, tail, hbody, hhead, htail, rfl⟩)
    · exact if_neg (Nat.not_lt.mpr hshort)
    · exact excerpt_of_append hbody hhead htail
  · rintro rfl
    by_cases hlong : 200 < reply.body.length
    · right
      have hchars : 200 < reply.body.toList.length := by rwa [String.length_toList]
      have hbody : reply.body = String.ofList (reply.body.toList.take 200) ++
          String.ofList (reply.body.toList.drop 200) := by
        rw [← String.ofList_append, List.take_append_drop, String.ofList_toList]
      have hhead : (String.ofList (reply.body.toList.take 200)).length = 200 := by
        rw [String.length_ofList, List.length_take]
        omega
      have htail : String.ofList (reply.body.toList.drop 200) ≠ "" := by
        rw [ne_eq, String.ofList_eq_empty_iff, List.drop_eq_nil_iff]
        omega
      exact ⟨_, _, hbody, hhead, htail, excerpt_of_append hbody hhead htail⟩
    · exact .inl ⟨Nat.le_of_not_lt hlong, if_neg hlong⟩

end Reply

namespace Backend

variable (b : Backend)

/-! ## Reads, updates and removals -/

theorem documentOf_failsRemotely (operation : Operation) (delivery : Delivery) :
    FailsRemotely (documentOf operation delivery) := by
  cases delivery with
  | error cause => exact .failure operation cause
  | ok reply =>
    rw [documentOf]
    split
    · split
      · exact .ok _
      · exact .failure operation _
    · exact .failure operation _

theorem payloadOf_failsRemotely (d : Document) : FailsRemotely (b.payloadOf d) := by
  rw [payloadOf]
  split
  · exact .ok _
  · exact .failure .get _

theorem keyOfItem_failsRemotely (item : Json) : FailsRemotely (b.keyOfItem item) := by
  rw [keyOfItem]
  split
  · exact .ok _
  · exact .failure .list _

theorem decodeListing_failsRemotely (d : Document) : FailsRemotely (b.decodeListing d) :=
  .mapM b.keyOfItem_failsRemotely _

theorem accepted_failsRemotely (operation : Operation) (delivery : Delivery) :
    FailsRemotely (accepted operation delivery) := by
  cases delivery with
  | error cause => exact .failure operation cause
  | ok reply => exact .ok _

theorem documentOf_eq_ok_iff {operation : Operation} {delivery : Delivery} {d : Document} :
    documentOf operation delivery = .ok d ↔
      ∃ reply, delivery = .ok reply ∧ reply.status < 300 ∧ reply.json = .ok d := by
  cases delivery with
  | error cause => simp [documentOf, failure]
  | ok reply =>
    rw [documentOf]
    by_cases hsuccess : reply.isSuccess = true
    · have hstatus := Reply.isSuccess_iff.mp hsuccess
      cases hjson : reply.json <;> simp [hsuccess, hstatus, hjson, failure]
    · have hstatus := Nat.not_lt.mpr (Reply.not_isSuccess_iff.mp hsuccess)
      simp [hsuccess, hstatus, failure]

theorem documentOf_of_success {reply : Reply} {d : Document} (operation : Operation)
    (hstatus : reply.status < 300) (hjson : reply.json = .ok d) :
    documentOf operation (.ok reply) = .ok d :=
  documentOf_eq_ok_iff.mpr ⟨reply, rfl, hstatus, hjson⟩

theorem status_of_documentOf {α : Type} {operation : Operation} {delivery : Delivery}
    {f : Document → Except StoreError α} {a : α} (h : documentOf operation delivery >>= f = .ok a) :
    ∃ reply, delivery = .ok reply ∧ reply.status < 300 := by
  obtain ⟨d, h, -⟩ := Except.exists_of_bind_eq_ok h
  obtain ⟨reply, hreply, hstatus, -⟩ := documentOf_eq_ok_iff.mp h
  exact ⟨reply, hreply, hstatus⟩

/-! ## Creates -/

def createdId? : Delivery → Option String
  | .error _ => none
  | .ok reply =>
    match reply.json with
    | .ok d => Document.identifierAt "data/id" d
    | .error _ => none

/-- Why a create whose reply has no identifier failed: an error status goes before what is wrong
with the body. -/
def createFailure : Delivery → Cause
  | .error cause => cause
  | .ok reply =>
    if reply.isSuccess then
      match reply.json with
      | .ok _ => .missingField "data.id"
      | .error fault => .json fault
    else reply.statusCause

theorem concludeCreate_eq (delivery : Delivery) :
    b.concludeCreate delivery =
      match createdId? delivery with
      | some id => b.referenceOf id
      | none => failure .set (createFailure delivery) := by
  cases delivery with
  | error cause => rfl
  | ok reply =>
    cases hjson : reply.json with
    | error fault =>
      simp only [concludeCreate, createdDocument, createdId?, createFailure, hjson]
      rfl
    | ok d =>
      simp only [createdId?, createFailure, hjson]
      simp only [concludeCreate, createdDocument, hjson]
      rfl

theorem referenceOf_of_dots {id : String} (h : id = "." ∨ id = "..") :
    b.referenceOf id = .error (.invalidIdentifier id) := by
  rw [referenceOf, itemUrl, if_pos h]
  rfl

theorem referenceOf_of_not_dots {id : String} (h : ¬(id = "." ∨ id = "..")) :
    b.referenceOf id = .ok ⟨b.kind, id, (b.collectionUrl.push id).text⟩ := by
  rw [referenceOf, itemUrl, if_neg h]
  rfl

/-- A create fails for want of an identifier, refuses the one it got, or refers to the new record. -/
theorem concludeCreate_cases (delivery : Delivery) :
    (createdId? delivery = none ∧
      b.concludeCreate delivery = failure .set (createFailure delivery)) ∨
    (∃ id, createdId? delivery = some id ∧ (id = "." ∨ id = "..") ∧
      b.concludeCreate delivery = .error (.invalidIdentifier id)) ∨
    ∃ id, createdId? delivery = some id ∧ ¬(id = "." ∨ id = "..") ∧
      b.concludeCreate delivery = .ok ⟨b.kind, id, (b.collectionUrl.push id).text⟩ := by
  have hconclude := b.concludeCreate_eq delivery
  cases hid : createdId? delivery with
  | none =>
    simp only [hid] at hconclude
    exact .inl ⟨rfl, hconclude⟩
  | some id =>
    simp only [hid] at hconclude
    by_cases hdots : id = "." ∨ id = ".."
    · rw [b.referenceOf_of_dots hdots] at hconclude
      exact .inr (.inl ⟨id, rfl, hdots, hconclude⟩)
    · rw [b.referenceOf_of_not_dots hdots] at hconclude
      exact .inr (.inr ⟨id, rfl, hdots, hconclude⟩)

end Backend

end RecordStore
