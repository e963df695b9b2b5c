import RecordStore.Proofs.Calls.NewRecords

/-! # What a create comes to

A create looks at the identifier in the reply first, then at the status, and then at what is wrong
with the body. So an error status is never reported as a fault of the body, and an identifier counts
whatever the status is. -/

namespace RecordStore

open Session (Call Answer)

namespace Backend

/-- What a create comes to, by what becomes of its request. A body that is no JSON gives no
identifier to the record. -/
inductive Creates (b : Backend) : Delivery → Except StoreError Reference → Prop
  | undelivered (cause : Cause) : Creates b (.error cause) (.error (.backend .set cause))
  | malformed {reply : Reply} {fault : Json.Fault} (hstatus : reply.status < 300)
      (hjson : reply.json = .error fault) :
    Creates b (.ok reply) (.error (.backend .set (.json fault)))
  | unidentified {reply : Reply} {d : Document} (hstatus : reply.status < 300)
      (hjson : reply.json = .ok d) (hnone : ∀ id, ¬Names (.ok reply) id) :
    Creates b (.ok reply) (.error (.backend .set (.missingField "data.id")))
  | refused {reply : Reply} {text : String} (hstatus : 300 ≤ reply.status)
      (hnone : ∀ id, ¬Names (.ok reply) id) (htext : reply.Abridges text) :
    Creates b (.ok reply) (.error (.backend .set (.status reply.status text)))
  | dots {reply : Reply} {id : String} (hid : Names (.ok reply) id) (hdots : id = "." ∨ id = "..") :
    Creates b (.ok reply) (.error (.invalidIdentifier id))
  | made {reply : Reply} {id : String} (hid : Names (.ok reply) id)
      (hdots : ¬(id = "." ∨ id = "..")) :
    Creates b (.ok reply) (.ok ⟨b.kind, id, (b.collectionUrl.push id).text⟩)

variable {b : Backend} {delivery : Delivery} {reply : Reply} {outcome : Except StoreError Reference}

theorem Names.exists_reply {id : String} (h : Names delivery id) : ∃ reply, delivery = .ok reply := by
  obtain ⟨-, reply, -, -, hreply, -⟩ := h
  exact ⟨reply, hreply⟩

theorem createdId?_eq_none_iff : createdId? delivery = none ↔ ∀ id, ¬Names delivery id := by
  rw [Option.eq_none_iff_forall_ne_some]
  simp only [ne_eq, createdId?_eq_some_iff]

theorem not_names_of_json_eq_error {fault : Json.Fault} (h : reply.json = .error fault)
    (id : String) : ¬Names (.ok reply) id := by
  rintro ⟨-, reply', d, v, hreply, hjson, -⟩
  cases hreply
  rw [h] at hjson
  contradiction

/-! ## Without an identifier -/

theorem creates_failure (hnone : createdId? delivery = none) :
    Creates b delivery (failure .set (createFailure delivery)) := by
  have hnames := createdId?_eq_none_iff.mp hnone
  cases delivery with
  | error cause => exact .undelivered cause
  | ok reply =>
    rw [createFailure]
    by_cases hsuccess : reply.isSuccess = true
    · rw [if_pos hsuccess]
      have hstatus := Reply.isSuccess_iff.mp hsuccess
      cases hjson : reply.json with
      | ok d => exact .unidentified hstatus hjson hnames
      | error fault => exact .malformed hstatus hjson
    · rw [if_neg hsuccess]
      exact .refused (Reply.not_isSuccess_iff.mp hsuccess) hnames (Reply.abridges_iff.mpr rfl)

theorem Creates.eq_concludeCreate (h : Creates b delivery outcome) :
    b.concludeCreate delivery = outcome := by
  have hfailure : (∀ id, ¬Names delivery id) →
      b.concludeCreate delivery = failure .set (createFailure delivery) := by
    intro hnames
    rw [concludeCreate_eq, createdId?_eq_none_iff.mpr hnames]
  cases h with
  | undelivered cause => rfl
  | malformed hstatus hjson =>
    rw [hfailure (not_names_of_json_eq_error hjson), createFailure,
      if_pos (Reply.isSuccess_iff.mpr hstatus)]
    simp only [hjson]
    rfl
  | unidentified hstatus hjson hnone =>
    rw [hfailure hnone, createFailure, if_pos (Reply.isSuccess_iff.mpr hstatus)]
    simp only [hjson]
    rfl
  | refused hstatus hnone htext =>
    rw [hfailure hnone, createFailure, if_neg (Reply.not_isSuccess_iff.mpr hstatus),
      Reply.statusCause, Reply.abridges_iff.mp htext]
    rfl
  | dots hid hdots =>
    rw [concludeCreate_eq, createdId?_eq_some_iff.mpr hid]
    exact b.referenceOf_of_dots hdots
  | made hid hdots =>
    rw [concludeCreate_eq, createdId?_eq_some_iff.mpr hid]
    exact b.referenceOf_of_not_dots hdots

theorem creates_concludeCreate (b : Backend) (delivery : Delivery) :
    Creates b delivery (b.concludeCreate delivery) := by
  rcases b.concludeCreate_cases delivery with
    ⟨hnone, hcreate⟩ | ⟨id, hid, hdots, hcreate⟩ | ⟨id, hid, hdots, hcreate⟩
  · rw [hcreate]
    exact creates_failure hnone
  · have hnames := createdId?_eq_some_iff.mp hid
    obtain ⟨reply, rfl⟩ := hnames.exists_reply
    rw [hcreate]
    exact .dots hnames hdots
  · have hnames := createdId?_eq_some_iff.mp hid
    obtain ⟨reply, rfl⟩ := hnames.exists_reply
    rw [hcreate]
    exact .made hnames hdots

/-- Every delivery has exactly one outcome. -/
theorem creates_iff : Creates b delivery outcome ↔ outcome = b.concludeCreate delivery := by
  constructor
  · exact fun h => h.eq_concludeCreate.symm
  · rintro rfl
    exact creates_concludeCreate b delivery

/-! ## What follows from the outcome -/

/-- Only a status of success leaves room for what is wrong with the body. -/
theorem Creates.cause_of_error_status {cause : Cause}
    (h : Creates b (.ok reply) (.error (.backend .set cause))) (hstatus : 300 ≤ reply.status) :
    ∃ text, reply.Abridges text ∧ cause = .status reply.status text := by
  cases h with
  | malformed hsuccess _ => exact absurd hsuccess (Nat.not_lt.mpr hstatus)
  | unidentified hsuccess _ _ => exact absurd hsuccess (Nat.not_lt.mpr hstatus)
  | refused _ _ htext => exact ⟨_, htext, rfl⟩

theorem Creates.names {reference : Reference} (h : Creates b delivery (.ok reference)) :
    Names delivery reference.remoteId := by
  cases h with
  | made hid _ => exact hid

/-! ## Runs -/

variable {key : Key} {fields : Fields}

theorem objections_create_eq_nil (value : Json) (hkind : key.kind = b.kind) (hid : key.id? = none)
    (hfields : b.checkFields fields = .ok ()) : b.objections (.set key value fields) = [] := by
  have hkinds : b.kindObjections key = [] := b.kindObjections_eq_nil_iff.mpr hkind
  have hdots : dotObjections key = [] := by rw [dotObjections, hid]
  rw [checkFields_eq_verdict, verdict_eq_ok_iff] at hfields
  rw [objections, writeObjections, hkinds, hdots, if_pos hid, hfields]
  rfl

/-- A create with fields that are accepted has one request, and what becomes of it decides the
outcome: there is one for every delivery. An error status is reported as such, and a reference has an
identifier that is a string, not empty, or the text of a number. -/
theorem create_outcome (b : Backend) {σ : Type} (t : Transport σ) (state : σ) (value : Json)
    (hkind : key.kind = b.kind) (hid : key.id? = none)
    (hfields : b.checkFields fields = .ok ()) :
    ∃ request outcome,
      (((Call.set key value fields).perform b).run t state).sent = [request] ∧
      request.method = .post ∧
      (((Call.set key value fields).perform b).run t state).result =
        outcome.map (fun reference => .stored (.created reference)) ∧
      (∀ other, Creates b (t.send request state).1 other ↔ other = outcome) ∧
      (∀ reply cause, (t.send request state).1 = .ok reply → 300 ≤ reply.status →
        outcome = .error (.backend .set cause) →
          ∃ text, reply.Abridges text ∧ cause = .status reply.status text) ∧
      ∀ reference, outcome = .ok reference → Names (t.send request state).1 reference.remoteId := by
  have hobjections := objections_create_eq_nil value hkind hid hfields
  obtain ⟨request, conclude, hasks, hask⟩ := (b.perform_set key value fields).asks hobjections
  have hpost : request.method = .post := hasks.post_of_no_id hid
  have houtcome : Creates b (t.send request state).1 (b.concludeCreate (t.send request state).1) :=
    creates_concludeCreate b _
  rw [hask]
  refine ⟨request, b.concludeCreate (t.send request state).1, rfl, hpost, ?_, fun _ => creates_iff,
    ?_, ?_⟩
  · change conclude (t.send request state).1 = _
    rw [hasks.conclude_of_post hpost]
    cases b.concludeCreate (t.send request state).1 <;> rfl
  · intro reply cause hreply hstatus hcause
    rw [hcause, hreply] at houtcome
    exact houtcome.cause_of_error_status hstatus
  · intro reference hreference
    rw [hreference] at houtcome
    exact houtcome.names

def gatewayReply : Reply := ⟨502, "bad gateway"⟩

/-- The body is no JSON, and the status is what is reported. -/
theorem bad_gateway_is_reported :
    sample.checkFields [] = .ok () ∧
      ((sampleCreate.perform sample).run .scripted [.ok gatewayReply]).result =
        .error (.backend .set (.status 502 "bad gateway")) := by
  have hfields : sample.checkFields [] = .ok () := by
    rw [checkFields_eq_verdict, verdict_eq_ok_iff]
    rfl
  have hjson : gatewayReply.json = .error .malformed := by cbv
  obtain ⟨request, outcome, hsent, -, hresult, hcreates, -⟩ :=
    sample.create_outcome .scripted [.ok gatewayReply] (.object [])
      (show (Key.unaddressed .checkpoint).kind = sample.kind from rfl) rfl hfields
  have hrefused : Creates sample (.ok gatewayReply)
      (.error (.backend .set (.status 502 "bad gateway"))) :=
    .refused (by decide) (not_names_of_json_eq_error hjson) (.inl ⟨by decide, rfl⟩)
  have houtcome := (hcreates _).mp hrefused
  refine ⟨hfields, ?_⟩
  rw [sampleCreate, hresult, ← houtcome]
  rfl

end Backend

end RecordStore
