import RecordStore.Proofs.Calls.Objections

/-! # What a call comes to

`Backend.Asks` lists the requests of the calls, each with the conclusion that is drawn from its
delivery. A call that reaches the service sends exactly this one request, unless something speaks
against it; then it is refused and nothing is sent. -/

namespace RecordStore

open Session (Call Answer)

/-- The calls that the service has a part in. -/
def Session.Call.isRemote {κ : Type} : Call κ → Bool
  | .info | .config | .urlForKey _ | .validateFields _ | .decodeListing _ => false
  | _ => true

def Session.Call.hasOptions {κ : Type} : Call κ → Bool
  | .setWithOptions _ _ _ => true
  | _ => false

namespace Backend

/-- The request that a call sends if nothing speaks against it, and what it concludes from the
delivery. -/
inductive Asks (b : Backend) : Call Key → Request → (Delivery → Except StoreError Answer) → Prop
  | get (key : Key) :
    Asks b (.get key) (b.request .get (b.addressOf key) none)
      fun delivery => documentOf .get delivery >>= fun d => .ok (.document d)
  | getPayload (key : Key) :
    Asks b (.getPayload key) (b.request .get (b.addressOf key) none)
      fun delivery => (documentOf .get delivery >>= b.payloadOf) >>= fun v => .ok (.document v)
  | create {key : Key} (value : Json) (fields : Fields) (hid : key.id? = none) :
    Asks b (.set key value fields)
      (b.request .post (b.addressOf key)
        (some (Envelope.create b.kind b.organization value fields)))
      fun delivery => b.concludeCreate delivery >>= fun reference => .ok (.stored (.created reference))
  | update {key : Key} {id : String} (value : Json) (fields : Fields) (hid : key.id? = some id) :
    Asks b (.set key value fields)
      (b.request .patch (b.addressOf key)
        (some (Envelope.update b.kind id b.organization value)))
      fun delivery => accepted .update delivery >>= fun a => .ok (.stored (.updated a))
  | options {key : Key} {payload : Payload} {options : CreateOptions} {value : Json}
      {request : Request} {conclude : Delivery → Except StoreError Answer}
      (hvalue : payload.toJson = .ok value)
      (hset : Asks b (.set key value options.toFields) request conclude) :
    Asks b (.setWithOptions key payload options) request conclude
  | listKeys :
    Asks b .listKeys (b.request .get b.collectionUrl none)
      fun delivery => (documentOf .list delivery >>= b.decodeListing) >>= fun keys => .ok (.keys keys)
  | hasKey (key : Key) :
    Asks b (.hasKey key) (b.request .get b.collectionUrl none)
      fun delivery => ((documentOf .list delivery >>= b.decodeListing) >>=
        fun keys => .ok (keys.contains key)) >>= fun found => .ok (.flag found)
  | removeKey {key : Key} {id : String} (hid : key.id? = some id) :
    Asks b (.removeKey key) (b.request .patch (b.addressOf key) (some (Envelope.delete b.kind id)))
      fun delivery => accepted .remove delivery >>= fun a => .ok (.flag a)

variable (b : Backend)

theorem addressOf_of_id {key : Key} {id : String} (hid : key.id? = some id) :
    b.addressOf key = b.collectionUrl.push id := by rw [addressOf, hid]

theorem addressOf_of_no_id {key : Key} (hid : key.id? = none) :
    b.addressOf key = b.collectionUrl := by rw [addressOf, hid]

/-- A call is refused for the first objection to it; without any it sends its request. -/
structure RefusesOrAsks (call : Call Key) : Prop where
  refuses : ∀ e rest, b.objections call = e :: rest → call.perform b = .settled (.error e)
  asks : b.objections call = [] →
    ∃ request conclude, Asks b call request conclude ∧ call.perform b = .ask request conclude

variable {b}

theorem refusesOrAsks_of_checked {call : Call Key} {next : Unit → Exchange Answer}
    (hperform : call.perform b = .checked (verdict (b.objections call)) next)
    (hnext : b.objections call = [] →
      ∃ request conclude, Asks b call request conclude ∧ next () = .ask request conclude) :
    b.RefusesOrAsks call := by
  constructor
  · intro e rest h
    rw [hperform, h]
    rfl
  · intro h
    obtain ⟨request, conclude, hasks, hask⟩ := hnext h
    refine ⟨request, conclude, hasks, ?_⟩
    rw [hperform, h]
    exact hask

variable (b)

theorem perform_get (key : Key) : b.RefusesOrAsks (.get key) := by
  apply refusesOrAsks_of_checked
  · rw [Call.perform, Session.answered, get, Exchange.andThen_checked, keyUrl_eq_verdict,
      Exchange.checked_map]
    rfl
  · exact fun _ => ⟨_, _, .get key, rfl⟩

theorem perform_getPayload (key : Key) : b.RefusesOrAsks (.getPayload key) := by
  apply refusesOrAsks_of_checked
  · rw [Call.perform, Session.answered, getPayload, get, Exchange.andThen_checked,
      Exchange.andThen_checked, keyUrl_eq_verdict, Exchange.checked_map]
    rfl
  · exact fun _ => ⟨_, _, .getPayload key, rfl⟩

theorem perform_set (key : Key) (value : Json) (fields : Fields) :
    b.RefusesOrAsks (.set key value fields) := by
  cases hid : key.id? with
  | some id =>
    have hobjections : b.objections (.set key value fields) =
        b.kindObjections key ++ dotObjections key := by
      simp [objections, writeObjections, hid]
    apply refusesOrAsks_of_checked
    · rw [Call.perform, Session.answered, set, Exchange.andThen_checked, checkKind_eq_verdict,
        hobjections, Exchange.checked_verdict_append]
      simp only [hid, update, itemUrl_eq_verdict b hid, Exchange.checked_map,
        Exchange.andThen_checked, Exchange.andThen_ok_andThen_ok]
      rw [← addressOf_of_id b hid]
    · exact fun _ => ⟨_, _, .update value fields hid, rfl⟩
  | none =>
    have hobjections : b.objections (.set key value fields) =
        b.kindObjections key ++ b.fieldObjections fields := by
      simp [objections, writeObjections, dotObjections, hid]
    apply refusesOrAsks_of_checked
    · rw [Call.perform, Session.answered, set, Exchange.andThen_checked, checkKind_eq_verdict,
        hobjections, Exchange.checked_verdict_append]
      simp only [hid, create, checkFields_eq_verdict, Exchange.andThen_checked,
        Exchange.andThen_ok_andThen_ok]
      rw [← addressOf_of_no_id b hid]
    · exact fun _ => ⟨_, _, .create value fields hid, rfl⟩

theorem perform_setWithOptions_eq (key : Key) (payload : Payload) (options : CreateOptions) :
    (Call.setWithOptions key payload options).perform b =
      .checked (verdict (optionObjections key options)) fun _ =>
        .checked (payloadJson payload) fun value =>
          (Call.set key value options.toFields).perform b := by
  rw [Call.perform, Session.answered, setWithOptions, Exchange.andThen_checked,
    checkOptions_eq_verdict]
  simp only [Exchange.andThen_checked]
  rfl

/-- Past its own checks the call is the plain write of the value. -/
theorem perform_setWithOptions_of_json {payload : Payload} {value : Json} (key : Key)
    (options : CreateOptions) (hvalue : payload.toJson = .ok value) :
    b.RefusesOrAsks (.setWithOptions key payload options) := by
  have hset := b.perform_set key value options.toFields
  have hobjections : b.objections (.setWithOptions key payload options) =
      optionObjections key options ++ b.objections (.set key value options.toFields) := by
    simp [objections, payloadObjections, hvalue]
  constructor
  · intro e rest h
    rw [perform_setWithOptions_eq, payloadJson, hvalue]
    rw [hobjections] at h
    cases hoptions : optionObjections key options with
    | nil =>
      rw [hoptions] at h
      exact hset.refuses e rest h
    | cons e' rest' =>
      rw [hoptions] at h
      cases h
      rfl
  · intro h
    rw [hobjections] at h
    obtain ⟨hoptions, hwrite⟩ := List.append_eq_nil_iff.mp h
    obtain ⟨request, conclude, hasks, hask⟩ := hset.asks hwrite
    refine ⟨request, conclude, .options hvalue hasks, ?_⟩
    rw [perform_setWithOptions_eq, payloadJson, hvalue, hoptions]
    exact hask

theorem perform_setWithOptions_of_fault {payload : Payload} {fault : Json.Fault} (key : Key)
    (options : CreateOptions) (hvalue : payload.toJson = .error fault) :
    b.RefusesOrAsks (.setWithOptions key payload options) := by
  have hobjections : b.objections (.setWithOptions key payload options) =
      optionObjections key options ++
        (.backend .set (.json fault) :: b.writeObjections key options.toFields) := by
    simp [objections, payloadObjections, hvalue]
  have hrefused : (Call.setWithOptions key payload options).perform b =
      .checked (verdict (b.objections (.setWithOptions key payload options))) fun _ =>
        .settled (.error (.backend .set (.json fault))) := by
    rw [perform_setWithOptions_eq, hobjections, Exchange.checked_verdict_append, payloadJson, hvalue]
    rfl
  apply refusesOrAsks_of_checked hrefused
  intro h
  rw [hobjections] at h
  simp at h

theorem perform_setWithOptions (key : Key) (payload : Payload) (options : CreateOptions) :
    b.RefusesOrAsks (.setWithOptions key payload options) := by
  cases hvalue : payload.toJson with
  | ok value => exact b.perform_setWithOptions_of_json key options hvalue
  | error fault => exact b.perform_setWithOptions_of_fault key options hvalue

theorem perform_listKeys : b.RefusesOrAsks .listKeys := by
  constructor
  · intro e rest h
    contradiction
  · exact fun _ => ⟨_, _, .listKeys, rfl⟩

theorem perform_hasKey (key : Key) : b.RefusesOrAsks (.hasKey key) := by
  constructor
  · intro e rest h
    contradiction
  · exact fun _ => ⟨_, _, .hasKey key, rfl⟩

theorem perform_removeKey (key : Key) : b.RefusesOrAsks (.removeKey key) := by
  cases hid : key.id? with
  | some id =>
    have hobjections : b.objections (.removeKey key) =
        b.kindObjections key ++ dotObjections key := by
      simp [objections, idObjections, hid]
    apply refusesOrAsks_of_checked
    · rw [Call.perform, Session.answered, removeKey, Exchange.andThen_checked,
        checkKind_eq_verdict, hobjections, Exchange.checked_verdict_append]
      simp only [requireId, hid, Exchange.checked_ok, itemUrl_eq_verdict b hid,
        Exchange.checked_map, Exchange.andThen_checked]
      rw [← addressOf_of_id b hid]
    · exact fun _ => ⟨_, _, .removeKey hid, rfl⟩
  | none =>
    have hobjections : b.objections (.removeKey key) =
        b.kindObjections key ++ [.missingIdentifier .remove] := by
      simp [objections, idObjections, dotObjections, hid]
    have hrefused : (Call.removeKey key).perform b =
        .checked (verdict (b.objections (.removeKey key))) fun _ =>
          .settled (.error (.missingIdentifier .remove)) := by
      rw [Call.perform, Session.answered, removeKey, Exchange.andThen_checked,
        checkKind_eq_verdict, hobjections, Exchange.checked_verdict_append]
      simp only [requireId, hid]
      rfl
    apply refusesOrAsks_of_checked hrefused
    intro h
    rw [hobjections] at h
    simp at h

/-- Every call that reaches the service is refused or sends one of the requests of `Asks`. -/
theorem perform_of_isRemote {call : Call Key} (hcall : call.isRemote = true) :
    b.RefusesOrAsks call := by
  cases call with
  | get key => exact b.perform_get key
  | getPayload key => exact b.perform_getPayload key
  | set key value fields => exact b.perform_set key value fields
  | setWithOptions key payload options => exact b.perform_setWithOptions key payload options
  | listKeys => exact b.perform_listKeys
  | hasKey key => exact b.perform_hasKey key
  | removeKey key => exact b.perform_removeKey key
  | info | config | urlForKey _ | validateFields _ | decodeListing _ => contradiction

theorem perform_urlForKey (key : Key) :
    (Call.urlForKey key).perform b =
      .settled ((verdict (b.objections (.urlForKey key))).map fun _ =>
        .text (b.addressOf key).text) := by
  rw [Call.perform, Session.settled, keyUrl_eq_verdict, objections]
  cases b.kindObjections key ++ dotObjections key <;> rfl

/-- The calls that the service has no part in are settled. -/
theorem perform_of_not_isRemote {call : Call Key} (hcall : call.isRemote = false) :
    ∃ result, call.perform b = .settled result := by
  cases call with
  | info | config | urlForKey _ | validateFields _ | decodeListing _ => exact ⟨_, rfl⟩
  | get _ | getPayload _ | set _ _ _ | setWithOptions _ _ _ | listKeys | hasKey _ | removeKey _ =>
    contradiction

/-- A call is settled at once or sends one of the requests of `Asks`. -/
theorem settled_or_asks (call : Call Key) :
    (∃ result, call.perform b = .settled result) ∨
      ∃ request conclude, Asks b call request conclude ∧
        call.perform b = .ask request conclude := by
  cases hcall : call.isRemote with
  | false => exact .inl (b.perform_of_not_isRemote hcall)
  | true =>
    have hperform := b.perform_of_isRemote hcall
    cases h : b.objections call with
    | nil => exact .inr (hperform.asks h)
    | cons e rest => exact .inl ⟨_, hperform.refuses e rest h⟩

end Backend

end RecordStore
