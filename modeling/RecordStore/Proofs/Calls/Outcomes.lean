import RecordStore.Proofs.Calls.Conclusions

/-! # Refusal and success

Two rules hold of every call but a create: when it refuses its arguments nothing was sent, and when
it reports success the service answered with a status of success. A create breaks the first if the
identifier in the reply is one or two dots, and the second if an error status comes with any other
identifier. -/

namespace RecordStore

open Session (Call Answer)

/-- Whether the result of a call says that it succeeded. -/
def Session.Call.reportsSuccess (call : Call Key) : Except StoreError Answer → Bool
  | .error _ => false
  | .ok answer =>
    match call, answer with
    | .get _, _ | .getPayload _, _ | .listKeys, _ | .hasKey _, _ => true
    | .set _ _ _, .stored outcome | .setWithOptions _ _ _, .stored outcome => outcome.isSuccess
    | .removeKey _, .flag removed => removed
    | _, _ => false

theorem Session.Call.reportsSuccess_of_not_isRemote {call : Call Key} (h : call.isRemote = false)
    (result : Except StoreError Answer) : call.reportsSuccess result = false := by
  cases result with
  | error e => rfl
  | ok answer => cases call <;> first | contradiction | rfl

theorem Session.Call.exists_of_reportsSuccess {call : Call Key} {result : Except StoreError Answer}
    (h : call.reportsSuccess result = true) : ∃ answer, result = .ok answer := by
  cases result with
  | ok answer => exact ⟨answer, rfl⟩
  | error e => contradiction

/-- Options make no difference to what counts as success. -/
theorem Session.Call.reportsSuccess_setWithOptions (key : Key) (payload : Payload)
    (options : CreateOptions) (value : Json) (fields : Fields)
    (result : Except StoreError Answer) :
    (Call.setWithOptions key payload options).reportsSuccess result =
      (Call.set key value fields).reportsSuccess result := by
  cases result with
  | error e => rfl
  | ok answer => cases answer <;> rfl

namespace Backend

variable {b : Backend} {call : Call Key} {request : Request}
  {conclude : Delivery → Except StoreError Answer}

/-! ## One request and its delivery -/

theorem Asks.conclude_of_post (h : Asks b call request conclude) (hpost : request.method = .post)
    (delivery : Delivery) :
    conclude delivery =
      b.concludeCreate delivery >>= fun reference => .ok (.stored (.created reference)) := by
  induction h with
  | create => rfl
  | options _ _ ih => exact ih hpost
  | get | getPayload | update | listKeys | hasKey | removeKey => contradiction

/-- A write without identifier is posted. -/
theorem Asks.post_of_no_id {key : Key} {value : Json} {fields : Fields}
    (h : Asks b (.set key value fields) request conclude) (hid : key.id? = none) :
    request.method = .post := by
  cases h with
  | create => rfl
  | update _ _ hsome =>
    rw [hid] at hsome
    contradiction

theorem Asks.failsRemotely_of_not_post (h : Asks b call request conclude)
    (hpost : request.method ≠ .post) (delivery : Delivery) : FailsRemotely (conclude delivery) := by
  -- By the request that is sent; options add nothing to what the write below them concludes.
  induction h with
  | get key => exact (documentOf_failsRemotely .get delivery).bind fun _ => .ok _
  | getPayload key =>
    exact ((documentOf_failsRemotely .get delivery).bind b.payloadOf_failsRemotely).bind
      fun _ => .ok _
  | create => exact absurd rfl hpost
  | update => exact (accepted_failsRemotely .update delivery).bind fun _ => .ok _
  | options _ _ ih => exact ih hpost
  | listKeys =>
    exact ((documentOf_failsRemotely .list delivery).bind b.decodeListing_failsRemotely).bind
      fun _ => .ok _
  | hasKey key =>
    exact (((documentOf_failsRemotely .list delivery).bind b.decodeListing_failsRemotely).bind
      fun _ => .ok _).bind fun _ => .ok _
  | removeKey => exact (accepted_failsRemotely .remove delivery).bind fun _ => .ok _

theorem status_of_accepted {operation : Operation} {delivery : Delivery} {answer : Bool → Answer}
    (hanswer : ∀ a, call.reportsSuccess (.ok (answer a)) = a)
    (hsuccess : call.reportsSuccess
      (accepted operation delivery >>= fun a => .ok (answer a)) = true) :
    ∃ reply, delivery = .ok reply ∧ reply.status < 300 := by
  cases delivery with
  | error cause => contradiction
  | ok reply =>
    have hreply : reply.isSuccess = true := by
      rw [← hanswer reply.isSuccess]
      exact hsuccess
    exact ⟨reply, rfl, Reply.isSuccess_iff.mp hreply⟩

theorem Asks.status_of_not_post (h : Asks b call request conclude)
    (hpost : request.method ≠ .post) {delivery : Delivery}
    (hsuccess : call.reportsSuccess (conclude delivery) = true) :
    ∃ reply, delivery = .ok reply ∧ reply.status < 300 := by
  obtain ⟨answer, hanswer⟩ := Call.exists_of_reportsSuccess hsuccess
  induction h with
  | get key => exact status_of_documentOf hanswer
  | getPayload key =>
    obtain ⟨value, hvalue, -⟩ := Except.exists_of_bind_eq_ok hanswer
    exact status_of_documentOf hvalue
  | create => exact absurd rfl hpost
  | update => exact status_of_accepted (fun _ => rfl) hsuccess
  | options _ _ ih =>
    rw [Call.reportsSuccess_setWithOptions] at hsuccess
    exact ih hpost hsuccess hanswer
  | listKeys =>
    obtain ⟨keys, hkeys, -⟩ := Except.exists_of_bind_eq_ok hanswer
    exact status_of_documentOf hkeys
  | hasKey key =>
    obtain ⟨found, hfound, -⟩ := Except.exists_of_bind_eq_ok hanswer
    obtain ⟨keys, hkeys, -⟩ := Except.exists_of_bind_eq_ok hfound
    exact status_of_documentOf hkeys
  | removeKey => exact status_of_accepted (fun _ => rfl) hsuccess

theorem Asks.isValidation_iff (h : Asks b call request conclude) (delivery : Delivery) :
    (∃ e, conclude delivery = .error e ∧ e.isValidation = true) ↔
      request.method = .post ∧
        ∃ id, createdId? delivery = some id ∧ (id = "." ∨ id = "..") := by
  by_cases hpost : request.method = .post
  · rw [h.conclude_of_post hpost]
    rcases b.concludeCreate_cases delivery with
      ⟨hid, hcreate⟩ | ⟨id, hid, hdots, hcreate⟩ | ⟨id, hid, hdots, hcreate⟩
    · rw [hcreate, hid]
      constructor
      · rintro ⟨e, he, hvalidation⟩
        cases he
        contradiction
      · rintro ⟨-, id, hnone, -⟩
        contradiction
    · rw [hcreate]
      exact ⟨fun _ => ⟨hpost, id, hid, hdots⟩, fun _ => ⟨.invalidIdentifier id, rfl, rfl⟩⟩
    · rw [hcreate, hid]
      constructor
      · rintro ⟨e, he, -⟩
        contradiction
      · rintro ⟨-, id', hsome, hdots'⟩
        cases hsome
        exact absurd hdots' hdots
  · constructor
    · rintro ⟨e, he, hvalidation⟩
      exact absurd hvalidation ((h.failsRemotely_of_not_post hpost delivery).isValidation_ne_true he)
    · rintro ⟨hpost', -⟩
      exact absurd hpost' hpost

theorem Asks.reportsSuccess_created (h : Asks b call request conclude)
    (hpost : request.method = .post) (reference : Reference) :
    call.reportsSuccess (.ok (.stored (.created reference))) = true := by
  induction h with
  | create => rfl
  | options _ _ _ => rfl
  | get | getPayload | update | listKeys | hasKey | removeKey => contradiction

theorem Asks.reportsSuccess_of_post_iff (h : Asks b call request conclude)
    (hpost : request.method = .post) (delivery : Delivery) :
    call.reportsSuccess (conclude delivery) = true ↔
      ∃ id, createdId? delivery = some id ∧ ¬(id = "." ∨ id = "..") := by
  rw [h.conclude_of_post hpost]
  rcases b.concludeCreate_cases delivery with
    ⟨hid, hcreate⟩ | ⟨id, hid, hdots, hcreate⟩ | ⟨id, hid, hdots, hcreate⟩
  · rw [hcreate, hid]
    constructor
    · intro hsuccess
      contradiction
    · rintro ⟨id, hnone, -⟩
      contradiction
  · rw [hcreate, hid]
    constructor
    · intro hsuccess
      contradiction
    · rintro ⟨id', hsome, hdots'⟩
      cases hsome
      exact absurd hdots hdots'
  · rw [hcreate]
    exact ⟨fun _ => ⟨id, hid, hdots⟩, fun _ => h.reportsSuccess_created hpost _⟩

/-- Where the status and the report of success part: at a create with an error status and an
identifier in the body. -/
theorem Asks.status_iff (h : Asks b call request conclude) (delivery : Delivery) :
    (call.reportsSuccess (conclude delivery) = true →
      ∃ reply, delivery = .ok reply ∧ reply.status < 300) ↔
    ¬(request.method = .post ∧ ∃ reply id, delivery = .ok reply ∧ ¬reply.status < 300 ∧
      createdId? (.ok reply) = some id ∧ ¬(id = "." ∨ id = "..")) := by
  by_cases hpost : request.method = .post
  · have hsuccess := h.reportsSuccess_of_post_iff hpost delivery
    constructor
    · rintro hstatus ⟨-, reply, id, rfl, herror, hid⟩
      obtain ⟨reply', hreply, hok⟩ := hstatus (hsuccess.mpr ⟨id, hid⟩)
      cases hreply
      exact herror hok
    · intro hnone hreports
      obtain ⟨id, hid, hdots⟩ := hsuccess.mp hreports
      cases delivery with
      | error cause => contradiction
      | ok reply =>
        refine ⟨reply, rfl, ?_⟩
        by_contra herror
        exact hnone ⟨hpost, reply, id, rfl, herror, hid, hdots⟩
  · constructor
    · rintro - ⟨hpost', -⟩
      exact hpost hpost'
    · intro _ hreports
      exact h.status_of_not_post hpost hreports

theorem reportsSuccess_of_settled {result : Except StoreError Answer}
    (h : call.perform b = .settled result) : call.reportsSuccess result = false := by
  cases hcall : call.isRemote with
  | false => exact Call.reportsSuccess_of_not_isRemote hcall result
  | true =>
    have hperform := b.perform_of_isRemote hcall
    cases hobjections : b.objections call with
    | nil =>
      obtain ⟨request, conclude, -, hask⟩ := hperform.asks hobjections
      rw [hask] at h
      contradiction
    | cons e rest =>
      rw [hperform.refuses e rest hobjections] at h
      cases h
      rfl

/-! ## Runs -/

def sampleCreate : Call Key := .set (.unaddressed .checkpoint) (.object []) []

theorem run_sampleCreate (delivery : Delivery) :
    ∃ request conclude, request.method = .post ∧ Asks sample sampleCreate request conclude ∧
      (sampleCreate.perform sample).run .scripted [delivery] =
        ⟨conclude delivery, [], [request]⟩ := by
  have hperform := sample.perform_set (.unaddressed .checkpoint) (.object []) []
  obtain ⟨request, conclude, hasks, hask⟩ := hperform.asks rfl
  refine ⟨request, conclude, hasks.post_of_no_id rfl, hasks, ?_⟩
  rw [sampleCreate, hask]
  rfl

/-- A call that refuses its arguments has sent nothing, unless it made a record whose identifier,
in the reply, is one or two dots. -/
theorem refused_unsent_iff {σ : Type} (b : Backend) (call : Call Key) (t : Transport σ)
    (state : σ) :
    (∀ e, ((call.perform b).run t state).result = .error e → e.isValidation = true →
      ((call.perform b).run t state).sent = []) ↔
    ¬∃ request id, ((call.perform b).run t state).sent = [request] ∧ request.method = .post ∧
      createdId? (t.send request state).1 = some id ∧ (id = "." ∨ id = "..") := by
  rcases b.settled_or_asks call with ⟨result, hsettled⟩ | ⟨request, conclude, hasks, hask⟩
  · rw [hsettled]
    constructor
    · rintro - ⟨request, id, hsent, -⟩
      contradiction
    · intro _ e _ _
      rfl
  · have hiff := hasks.isValidation_iff (t.send request state).1
    rw [hask]
    constructor
    · rintro hunsent ⟨request', id, hsent, hpost, hid, hdots⟩
      cases hsent
      obtain ⟨e, he, hvalidation⟩ := hiff.mpr ⟨hpost, id, hid, hdots⟩
      exact List.cons_ne_nil _ _ (hunsent e he hvalidation)
    · intro hnone e he hvalidation
      obtain ⟨hpost, id, hid, hdots⟩ := hiff.mp ⟨e, he, hvalidation⟩
      exact absurd ⟨request, id, rfl, hpost, hid, hdots⟩ hnone

def dotsReply : Reply := ⟨201, "\x7b\"data\":\x7b\"id\":\"..\"\x7d\x7d"⟩

theorem createdId?_dotsReply : createdId? (.ok dotsReply) = some ".." := by cbv

/-- The record is made before its identifier is refused. -/
theorem created_dots_refused_late :
    ofSettings sampleSettings = .ok sample ∧
      ¬∀ e, ((sampleCreate.perform sample).run .scripted [.ok dotsReply]).result = .error e →
        e.isValidation = true →
          ((sampleCreate.perform sample).run .scripted [.ok dotsReply]).sent = [] := by
  refine ⟨ofSettings_sampleSettings, ?_⟩
  obtain ⟨request, conclude, hpost, hasks, hrun⟩ := run_sampleCreate (.ok dotsReply)
  obtain ⟨e, he, hvalidation⟩ :=
    (hasks.isValidation_iff _).mpr ⟨hpost, "..", createdId?_dotsReply, .inr rfl⟩
  rw [hrun]
  intro hunsent
  exact List.cons_ne_nil _ _ (hunsent e he hvalidation)

/-- A call that reports success was answered with a status of success, unless it made a record and
took its identifier from the reply to an error status. -/
theorem success_status_iff {σ : Type} (b : Backend) (call : Call Key) (t : Transport σ)
    (state : σ) :
    (call.reportsSuccess ((call.perform b).run t state).result = true →
      ∃ request reply, ((call.perform b).run t state).sent = [request] ∧
        (t.send request state).1 = .ok reply ∧ reply.status < 300) ↔
    ¬∃ request reply id, ((call.perform b).run t state).sent = [request] ∧
      request.method = .post ∧ (t.send request state).1 = .ok reply ∧ ¬reply.status < 300 ∧
      createdId? (.ok reply) = some id ∧ ¬(id = "." ∨ id = "..") := by
  rcases b.settled_or_asks call with ⟨result, hsettled⟩ | ⟨request, conclude, hasks, hask⟩
  · have hfailed := reportsSuccess_of_settled hsettled
    rw [hsettled]
    constructor
    · rintro - ⟨request, reply, id, hsent, -⟩
      contradiction
    · intro _ hreports
      exact absurd hreports (by rw [Exchange.run, hfailed]; exact Bool.false_ne_true)
  · have hiff := hasks.status_iff (t.send request state).1
    rw [hask]
    constructor
    · rintro hstatus ⟨request', reply, id, hsent, hpost, hreply, hrest⟩
      cases hsent
      refine hiff.mp ?_ ⟨hpost, reply, id, hreply, hrest⟩
      intro hreports
      obtain ⟨request', reply', hsent, hreply'⟩ := hstatus hreports
      cases hsent
      exact ⟨reply', hreply'⟩
    · intro hnone hreports
      have hstatus := hiff.mpr fun ⟨hpost, reply, id, hreply, hrest⟩ =>
        hnone ⟨request, reply, id, rfl, hpost, hreply, hrest⟩
      obtain ⟨reply, hreply⟩ := hstatus hreports
      exact ⟨request, reply, rfl, hreply⟩

def conflictReply : Reply := ⟨409, "\x7b\"data\":\x7b\"id\":\"42\"\x7d\x7d"⟩

theorem createdId?_conflictReply : createdId? (.ok conflictReply) = some "42" := by cbv

/-- The service answers that there is a conflict, and the call reports a new record. -/
theorem conflict_reported_as_created :
    ofSettings sampleSettings = .ok sample ∧
      sampleCreate.reportsSuccess
        ((sampleCreate.perform sample).run .scripted [.ok conflictReply]).result = true ∧
      ¬∃ request reply,
        ((sampleCreate.perform sample).run .scripted [.ok conflictReply]).sent = [request] ∧
        (Transport.scripted.send request [.ok conflictReply]).1 = .ok reply ∧
        reply.status < 300 := by
  refine ⟨ofSettings_sampleSettings, ?_, ?_⟩
  · obtain ⟨request, conclude, hpost, hasks, hrun⟩ := run_sampleCreate (.ok conflictReply)
    rw [hrun]
    exact (hasks.reportsSuccess_of_post_iff hpost _).mpr
      ⟨"42", createdId?_conflictReply, by decide⟩
  · rintro ⟨request, reply, -, hreply, hstatus⟩
    cases hreply
    contradiction

end Backend

end RecordStore
