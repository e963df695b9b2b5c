import RecordStore.Proofs.Calls.Outcomes
import RecordStore.Proofs.Calls.Preflight

/-! # Where errors come from

An error of a call is an objection to its arguments, or stands for a failure of the remote call, or
is the refusal of the identifier in the reply to a create. An error that tells of a remote failure
comes from the one request of the call, but for two: the fault of a table that has no JSON form is
found before anything is sent, and a listing that is decoded on its own is not asked for. -/

namespace RecordStore

open Session (Call Answer)

def Refusals (es : List StoreError) : Prop := ∀ e ∈ es, e.isValidation = true

namespace Refusals

variable {es es' : List StoreError} {e : StoreError}

theorem nil : Refusals [] := fun _ hmem => nomatch hmem

theorem one (he : e.isValidation = true) : Refusals [e] := by
  intro e' hmem
  rwa [List.mem_singleton.mp hmem]

theorem append (h : Refusals es) (h' : Refusals es') : Refusals (es ++ es') := by
  intro e hmem
  rcases List.mem_append.mp hmem with hmem | hmem
  · exact h e hmem
  · exact h' e hmem

theorem isBackend_head (h : Refusals (e :: es)) : e.isBackend = false := by
  have he := h e List.mem_cons_self
  cases e <;> first | rfl | contradiction

end Refusals

namespace Backend

variable {b : Backend} {call : Call Key} {e : StoreError} {rest : List StoreError}

/-! ## Objections -/

theorem kindObjections_refusals (b : Backend) (key : Key) : Refusals (b.kindObjections key) := by
  rw [kindObjections]
  split
  · exact .nil
  · exact .one rfl

theorem dotObjections_refusals (key : Key) : Refusals (dotObjections key) := by
  rw [dotObjections]
  split
  · split
    · exact .one rfl
    · exact .nil
  · exact .nil

theorem idObjections_refusals (operation : Operation) (key : Key) :
    Refusals (idObjections operation key) := by
  rw [idObjections]
  split
  · exact .one rfl
  · exact .nil

theorem fieldObjections_refusals (b : Backend) (fields : Fields) :
    Refusals (b.fieldObjections fields) := by
  rw [fieldObjections]
  split
  · exact .nil
  · exact .one rfl

theorem optionObjections_refusals (key : Key) (options : CreateOptions) :
    Refusals (optionObjections key options) := by
  rw [optionObjections]
  split
  · split
    · exact .nil
    · exact .one rfl
  · exact .nil

theorem writeObjections_refusals (b : Backend) (key : Key) (fields : Fields) :
    Refusals (b.writeObjections key fields) := by
  rw [writeObjections]
  apply ((b.kindObjections_refusals key).append (dotObjections_refusals key)).append
  split
  · exact b.fieldObjections_refusals fields
  · exact .nil

/-- What speaks against a call without options is a refusal of its arguments. -/
theorem objections_refusals (h : call.hasOptions = false) : Refusals (b.objections call) := by
  cases call with
  | get key | getPayload key | urlForKey key =>
    exact (b.kindObjections_refusals key).append (dotObjections_refusals key)
  | set key value fields => exact b.writeObjections_refusals key fields
  | setWithOptions _ _ _ => contradiction
  | removeKey key =>
    exact ((b.kindObjections_refusals key).append (idObjections_refusals .remove key)).append
      (dotObjections_refusals key)
  | validateFields fields => exact b.fieldObjections_refusals fields
  | info | config | listKeys | hasKey _ | decodeListing _ => exact .nil

theorem isValidation_or_isBackend_of_mem_objections (h : e ∈ b.objections call) :
    e.isValidation = true ∨ e.isBackend = true := by
  cases hoptions : call.hasOptions with
  | false => exact .inl (objections_refusals hoptions e h)
  | true =>
    cases call with
    | setWithOptions key payload options =>
      rw [objections, List.mem_append, List.mem_append] at h
      rcases h with (hoption | hpayload) | hwrite
      · exact .inl (optionObjections_refusals key options e hoption)
      · rw [payloadObjections] at hpayload
        split at hpayload
        · contradiction
        · cases List.mem_singleton.mp hpayload
          exact .inr rfl
      · exact .inl (b.writeObjections_refusals key options.toFields e hwrite)
    | _ => contradiction

theorem optionObjections_eq_nil_iff {key : Key} {options : CreateOptions} :
    optionObjections key options = [] ↔ checkOptions key options = .ok () := by
  rw [checkOptions_eq_verdict, verdict_eq_ok_iff]

/-! ## Remote failures without a request -/

/-- The calls that report a remote failure without a request. -/
inductive FailsUnsent (b : Backend) : Call Key → Prop
  | table {key : Key} {payload : Payload} {options : CreateOptions} {fault : Json.Fault}
    (hoptions : checkOptions key options = .ok ()) (hfault : payload.toJson = .error fault) :
    FailsUnsent b (.setWithOptions key payload options)
  | listing {d : Document} {e : StoreError} (he : b.decodeListing d = .error e) :
    FailsUnsent b (.decodeListing d)

theorem Asks.not_failsUnsent {request : Request} {conclude : Delivery → Except StoreError Answer}
    (h : Asks b call request conclude) : ¬b.FailsUnsent call := by
  intro hfails
  cases hfails with
  | table _ hfault =>
    cases h with
    | options hvalue _ =>
      rw [hvalue] at hfault
      contradiction
  | listing _ => cases h

theorem isBackend_iff_of_refusals (h : Refusals (e :: rest)) (hcall : ¬b.FailsUnsent call) :
    e.isBackend = true ↔ b.FailsUnsent call := by
  rw [h.isBackend_head]
  exact ⟨fun hbackend => absurd hbackend Bool.false_ne_true, fun hfails => absurd hfails hcall⟩

/-- The fault of a table comes behind the check of the options and before all other checks. -/
theorem isBackend_objection_setWithOptions_iff {key : Key} {payload : Payload}
    {options : CreateOptions} (h : b.objections (.setWithOptions key payload options) = e :: rest) :
    e.isBackend = true ↔ b.FailsUnsent (.setWithOptions key payload options) := by
  rw [objections] at h
  cases hoptions : optionObjections key options with
  | cons e' rest' =>
    have hrefusals := optionObjections_refusals key options
    rw [hoptions] at h hrefusals
    cases h
    apply isBackend_iff_of_refusals hrefusals
    rintro (⟨hcheck, -⟩ | -)
    rw [optionObjections_eq_nil_iff.mpr hcheck] at hoptions
    contradiction
  | nil =>
    rw [hoptions, payloadObjections] at h
    cases hpayload : payload.toJson with
    | error fault =>
      rw [hpayload] at h
      cases h
      exact ⟨fun _ => .table (optionObjections_eq_nil_iff.mp hoptions) hpayload, fun _ => rfl⟩
    | ok value =>
      have hrefusals := b.writeObjections_refusals key options.toFields
      rw [hpayload] at h
      change b.writeObjections key options.toFields = _ at h
      rw [h] at hrefusals
      apply isBackend_iff_of_refusals hrefusals
      rintro (⟨-, hfault⟩ | -)
      rw [hpayload] at hfault
      contradiction

/-- The first objection to a call tells of a remote failure only for a table without JSON form. -/
theorem isBackend_objection_iff (h : b.objections call = e :: rest) :
    e.isBackend = true ↔ b.FailsUnsent call := by
  cases hoptions : call.hasOptions with
  | true =>
    cases call with
    | setWithOptions key payload options => exact isBackend_objection_setWithOptions_iff h
    | _ => contradiction
  | false =>
    have hrefusals : Refusals (b.objections call) := objections_refusals hoptions
    rw [h] at hrefusals
    apply isBackend_iff_of_refusals hrefusals
    intro hfails
    cases hfails with
    | table => contradiction
    | listing => contradiction

theorem Knows.failsRemotely {result : Except StoreError Answer} (h : Knows b call result) :
    FailsRemotely result := by
  cases h with
  | decodeListing d =>
    have hmap := (b.decodeListing_failsRemotely d).bind fun keys => .ok (Answer.keys keys)
    cases hkeys : b.decodeListing d <;> rwa [hkeys] at hmap
  | info | config | urlForKey _ | validateFields _ => exact .ok _

theorem Knows.isBackend_iff {result : Except StoreError Answer} (h : Knows b call result) :
    (∃ e, result = .error e ∧ e.isBackend = true) ↔ b.FailsUnsent call := by
  cases h with
  | decodeListing d =>
    cases hkeys : b.decodeListing d with
    | ok keys =>
      constructor
      · rintro ⟨e, he, -⟩
        contradiction
      · rintro (- | ⟨he⟩)
        rw [hkeys] at he
        contradiction
    | error e =>
      refine ⟨fun _ => .listing hkeys, fun _ => ⟨e, rfl, ?_⟩⟩
      exact b.decodeListing_failsRemotely d e hkeys
  | info | config | urlForKey _ | validateFields _ =>
    constructor
    · rintro ⟨e, he, -⟩
      contradiction
    · intro hfails
      contradiction

/-- Behind the request only the identifier of a new record is refused. -/
theorem Asks.error_cases {request : Request}
    {conclude : Delivery → Except StoreError Answer} (h : Asks b call request conclude)
    {delivery : Delivery} (he : conclude delivery = .error e) :
    e.isBackend = true ∨ ∃ id, e = .invalidIdentifier id := by
  by_cases hpost : request.method = .post
  · rw [h.conclude_of_post hpost] at he
    rcases b.concludeCreate_cases delivery with
      ⟨-, hcreate⟩ | ⟨id, -, -, hcreate⟩ | ⟨id, -, -, hcreate⟩
    · rw [hcreate] at he
      cases he
      exact .inl rfl
    · rw [hcreate] at he
      cases he
      exact .inr ⟨id, rfl⟩
    · rw [hcreate] at he
      contradiction
  · exact .inl (h.failsRemotely_of_not_post hpost delivery e he)

/-! ## Runs -/

variable {σ : Type} (t : Transport σ) (state : σ)

/-- An error of a call refuses its arguments, or tells of a remote failure. -/
theorem isValidation_or_isBackend (h : ((call.perform b).run t state).result = .error e) :
    e.isValidation = true ∨ e.isBackend = true := by
  rcases b.perform_cases call with ⟨e', rest, hobjections, hrefused⟩ |
    ⟨-, ⟨result, hknows, hsettled⟩ | ⟨request, conclude, hasks, hask⟩⟩
  · rw [hrefused] at h
    cases h
    have hmem : e ∈ b.objections call := by
      rw [hobjections]
      exact List.mem_cons_self
    exact isValidation_or_isBackend_of_mem_objections hmem
  · rw [hsettled] at h
    exact .inr (hknows.failsRemotely e h)
  · rw [hask] at h
    rcases hasks.error_cases h with hbackend | ⟨id, rfl⟩
    · exact .inr hbackend
    · exact .inl rfl

theorem sent_iff_of_settled {result : Except StoreError Answer}
    (h : call.perform b = .settled result) :
    (∀ e, ((call.perform b).run t state).result = .error e → e.isBackend = true →
      ∃ request, ((call.perform b).run t state).sent = [request]) ↔
    ¬∃ e, result = .error e ∧ e.isBackend = true := by
  rw [h]
  constructor
  · rintro hsent ⟨e, he, hbackend⟩
    obtain ⟨request, hrequest⟩ := hsent e he hbackend
    contradiction
  · intro hnone e he hbackend
    exact absurd ⟨e, he, hbackend⟩ hnone

/-- An error that tells of a remote failure comes from the one request of the call, unless the call
writes a table that has no JSON form, or decodes a listing that it did not ask for. -/
theorem backend_error_sent_iff (b : Backend) (call : Call Key) (t : Transport σ) (state : σ) :
    (∀ e, ((call.perform b).run t state).result = .error e → e.isBackend = true →
      ∃ request, ((call.perform b).run t state).sent = [request]) ↔
    ¬b.FailsUnsent call := by
  rcases b.perform_cases call with ⟨e, rest, hobjections, hrefused⟩ |
    ⟨-, ⟨result, hknows, hsettled⟩ | ⟨request, conclude, hasks, hask⟩⟩
  · rw [sent_iff_of_settled t state hrefused, ← isBackend_objection_iff hobjections]
    constructor
    · exact fun hnone hbackend => hnone ⟨e, rfl, hbackend⟩
    · rintro hbackend ⟨e', he, hbackend'⟩
      cases he
      exact hbackend hbackend'
  · rw [sent_iff_of_settled t state hsettled, hknows.isBackend_iff]
  · rw [hask]
    exact ⟨fun _ => hasks.not_failsUnsent, fun _ _ _ _ => ⟨request, rfl⟩⟩

/-- A table with a list for a name, which has no JSON form. -/
def listNamed : Payload := .table [(.array [], .null)]

def sampleTableWrite : Call Key := .setWithOptions (.unaddressed .checkpoint) listNamed .unspecified

/-- The write reports a failure of the remote call, and the service was not called. -/
theorem table_fails_unsent :
    ofSettings sampleSettings = .ok sample ∧
      ¬∀ e, ((sampleTableWrite.perform sample).run .scripted []).result = .error e →
        e.isBackend = true →
          ∃ request, ((sampleTableWrite.perform sample).run .scripted []).sent = [request] := by
  refine ⟨ofSettings_sampleSettings, ?_⟩
  intro hsent
  obtain ⟨request, hrequest⟩ := hsent (.backend .set (.json .malformed)) rfl rfl
  contradiction

end Backend

end RecordStore
