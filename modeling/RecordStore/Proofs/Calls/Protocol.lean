import RecordStore.Proofs.Calls.Preflight
import RecordStore.Proofs.Construction
import RecordStore.Proofs.RecordAddresses

/-! # What is sent

Every call has one request at most, whatever the service answers. `Backend.Prescribes` says which
one: its method, its address and its body follow from the key of the call, and it carries the token
of the backend. -/

namespace RecordStore

open Session (Call Answer)

/-- The body is about a record of the kind, and about the one with the identifier if there is one. -/
structure Envelope.IsAbout (kind : Kind) (id : Option String) (body : Json) : Prop where
  type : (body.member? "data").bind (Json.member? "type") = some (.string kind.typeName)
  id : (body.member? "data").bind (Json.member? "id") = id.map .string

theorem Envelope.wrap_isAbout (kind : Kind) (id : Option String) (attributes : Json.Members) :
    IsAbout kind id (wrap kind id attributes) := by
  cases id with
  | none => constructor <;> simp [wrap, Json.Members.get?_insert]
  | some id => constructor <;> simp [wrap, Json.Members.get?_insert]

def Session.Call.target? (call : Call Key) : Option String := call.subject?.bind Key.id?

namespace Backend

variable (b : Backend)

/-- A value without identifier is posted to the collection, any other is patched where it is. -/
def PrescribesWrite (key : Key) (value : Json) (fields : Fields) (request : Request) : Prop :=
  match key.id? with
  | none => request = ⟨.post, b.collectionUrl, b.credentials.accessToken,
      some (Envelope.create b.kind b.organization value fields)⟩
  | some id => ∃ url, b.itemUrl id = .ok url ∧
      request = ⟨.patch, url, b.credentials.accessToken,
        some (Envelope.update b.kind id b.organization value)⟩

def Prescribes : Call Key → Request → Prop
  | .get key, request | .getPayload key, request => ∃ url, b.keyUrl key = .ok url ∧
      request = ⟨.get, url, b.credentials.accessToken, none⟩
  | .listKeys, request | .hasKey _, request =>
    request = ⟨.get, b.collectionUrl, b.credentials.accessToken, none⟩
  | .set key value fields, request => b.PrescribesWrite key value fields request
  | .setWithOptions key payload options, request => ∃ value, payload.toJson = .ok value ∧
      b.PrescribesWrite key value options.toFields request
  | .removeKey key, request => ∃ id url, key.id? = some id ∧ b.itemUrl id = .ok url ∧
      request = ⟨.patch, url, b.credentials.accessToken, some (Envelope.delete b.kind id)⟩
  | .info, _ | .config, _ | .urlForKey _, _ | .validateFields _, _ | .decodeListing _, _ => False

variable {b} {call : Call Key} {request other : Request}

/-! ## The request is unique -/

theorem PrescribesWrite.unique {key : Key} {value : Json} {fields : Fields}
    (h : b.PrescribesWrite key value fields request)
    (hother : b.PrescribesWrite key value fields other) : request = other := by
  rw [PrescribesWrite] at h hother
  cases hid : key.id? with
  | none =>
    simp only [hid] at h hother
    rw [h, hother]
  | some id =>
    simp only [hid] at h hother
    obtain ⟨url, hurl, rfl⟩ := h
    obtain ⟨url', hurl', rfl⟩ := hother
    cases hurl.symm.trans hurl'
    rfl

theorem Prescribes.unique (h : b.Prescribes call request) (hother : b.Prescribes call other) :
    request = other := by
  cases call with
  | get key | getPayload key =>
    obtain ⟨url, hurl, rfl⟩ := h
    obtain ⟨url', hurl', rfl⟩ := hother
    cases hurl.symm.trans hurl'
    rfl
  | listKeys | hasKey _ => exact Eq.trans h (Eq.symm hother)
  | set key value fields => exact PrescribesWrite.unique h hother
  | setWithOptions key payload options =>
    obtain ⟨value, hvalue, hwrite⟩ := h
    obtain ⟨value', hvalue', hwrite'⟩ := hother
    cases hvalue.symm.trans hvalue'
    exact hwrite.unique hwrite'
  | removeKey key =>
    obtain ⟨id, url, hid, hurl, rfl⟩ := h
    obtain ⟨id', url', hid', hurl', rfl⟩ := hother
    cases hid.symm.trans hid'
    cases hurl.symm.trans hurl'
    rfl
  | info | config | urlForKey _ | validateFields _ | decodeListing _ => exact h.elim

/-! ## The request is sent -/

theorem itemUrl_of_dotObjections_eq_nil {key : Key} {id : String} (hid : key.id? = some id)
    (h : dotObjections key = []) : b.itemUrl id = .ok (b.addressOf key) := by
  rw [itemUrl_eq_verdict b hid, h, addressOf_of_id b hid]
  rfl

theorem dotObjections_eq_nil {key : Key} (hkey : call.subject? = some key)
    (h : b.objections call = []) : dotObjections key = [] := by
  cases call <;> cases hkey <;> simp_all [objections, writeObjections]

/-- Behind its checks, a call sends what is prescribed. -/
theorem Asks.prescribes {conclude : Delivery → Except StoreError Answer}
    (hasks : Asks b call request conclude) (h : b.objections call = []) :
    b.Prescribes call request := by
  -- Options come last: the write below them has met with no objection of its own.
  induction hasks with
  | get key | getPayload key => exact ⟨_, keyUrl_of_objections_eq_nil rfl h, rfl⟩
  | @create key value fields hid =>
    rw [Prescribes, PrescribesWrite, hid, addressOf_of_no_id b hid]
    rfl
  | @update key id value fields hid =>
    rw [Prescribes, PrescribesWrite, hid]
    exact ⟨_, itemUrl_of_dotObjections_eq_nil hid (dotObjections_eq_nil rfl h), rfl⟩
  | listKeys | hasKey _ => exact rfl
  | @removeKey key id hid =>
    exact ⟨id, _, hid, itemUrl_of_dotObjections_eq_nil hid (dotObjections_eq_nil rfl h), rfl⟩
  | @options key payload options value request conclude hvalue _ ih =>
    have hwrite : b.objections (.set key value options.toFields) = [] :=
      (List.append_eq_nil_iff.mp h).2
    exact ⟨value, hvalue, ih hwrite⟩

theorem Asks.token_eq {conclude : Delivery → Except StoreError Answer}
    (hasks : Asks b call request conclude) : request.token = b.credentials.accessToken := by
  induction hasks with
  | options _ _ ih => exact ih
  | get | getPayload | create | update | listKeys | hasKey | removeKey => rfl

theorem Asks.body_isAbout {conclude : Delivery → Except StoreError Answer}
    (hasks : Asks b call request conclude) {body : Json} (hbody : request.body = some body) :
    ∃ key, call.subject? = some key ∧ Envelope.IsAbout b.kind key.id? body := by
  induction hasks with
  | @create key value fields hid =>
    cases hbody
    exact ⟨key, rfl, hid ▸ Envelope.wrap_isAbout b.kind none _⟩
  | @update key id value fields hid =>
    cases hbody
    exact ⟨key, rfl, hid ▸ Envelope.wrap_isAbout b.kind (some id) _⟩
  | @removeKey key id hid =>
    cases hbody
    exact ⟨key, rfl, hid ▸ Envelope.wrap_isAbout b.kind (some id) _⟩
  | options _ _ ih => exact ih hbody
  | get | getPayload | listKeys | hasKey => contradiction

theorem Prescribes.isRemote (h : b.Prescribes call request) : call.isRemote = true := by
  cases call with
  | info | config | urlForKey _ | validateFields _ | decodeListing _ => exact h.elim
  | get _ | getPayload _ | set _ _ _ | setWithOptions _ _ _ | listKeys | hasKey _ | removeKey _ =>
    rfl

/-- A call has no request, or the one of `Asks`, to which there is no objection. -/
theorem requests_eq_nil_or_asks (b : Backend) (call : Call Key) :
    (call.perform b).requests = [] ∨
      ∃ request conclude, (call.perform b).requests = [request] ∧
        b.objections call = [] ∧ Asks b call request conclude := by
  rcases b.perform_cases call with ⟨e, rest, -, hrefused⟩ |
    ⟨hobjections, ⟨result, -, hsettled⟩ | ⟨request, conclude, hasks, hask⟩⟩
  · rw [hrefused]
    exact .inl rfl
  · rw [hsettled]
    exact .inl rfl
  · rw [hask]
    exact .inr ⟨request, conclude, rfl, hobjections, hasks⟩

theorem exists_asks_of_mem_requests (hmem : request ∈ (call.perform b).requests) :
    b.objections call = [] ∧ ∃ conclude, Asks b call request conclude := by
  rcases b.requests_eq_nil_or_asks call with hnone | ⟨sent, conclude, hsent, hobjections, hasks⟩
  · rw [hnone] at hmem
    contradiction
  · rw [hsent, List.mem_singleton] at hmem
    rw [hmem]
    exact ⟨hobjections, conclude, hasks⟩

theorem mem_requests_iff :
    request ∈ (call.perform b).requests ↔ b.objections call = [] ∧ b.Prescribes call request := by
  constructor
  · intro hmem
    obtain ⟨hobjections, conclude, hasks⟩ := exists_asks_of_mem_requests hmem
    exact ⟨hobjections, hasks.prescribes hobjections⟩
  · rintro ⟨hobjections, hprescribes⟩
    obtain ⟨sent, conclude, hasks, hask⟩ :=
      (b.perform_of_isRemote hprescribes.isRemote).asks hobjections
    rw [hask, hprescribes.unique (hasks.prescribes hobjections)]
    exact List.mem_singleton_self sent

theorem length_requests_le (b : Backend) (call : Call Key) :
    (call.perform b).requests.length ≤ 1 := by
  rcases b.requests_eq_nil_or_asks call with hnone | ⟨request, conclude, hsent, -⟩
  · simp [hnone]
  · simp [hsent]

/-! ## Where the request goes -/

def urlOf (b : Backend) : Option String → Except StoreError Url
  | none => .ok b.collectionUrl
  | some id => b.itemUrl id

theorem keyUrl_eq_urlOf {key : Key} (hkind : key.kind = b.kind) : b.keyUrl key = b.urlOf key.id? := by
  have hcheck : b.checkKind key = .ok () := if_pos hkind
  rw [keyUrl, hcheck]
  cases key.id? <;> rfl

theorem urlOf_of_keyUrl {key : Key} {u : Url} (h : b.keyUrl key = .ok u) :
    b.urlOf key.id? = .ok u := by
  by_cases hkind : key.kind = b.kind
  · rwa [← keyUrl_eq_urlOf hkind]
  · rw [keyUrl, checkKind, if_neg hkind] at h
    contradiction

theorem PrescribesWrite.urlOf_eq {key : Key} {value : Json} {fields : Fields}
    (h : b.PrescribesWrite key value fields request) : b.urlOf key.id? = .ok request.url := by
  rw [PrescribesWrite] at h
  cases hid : key.id? with
  | none =>
    simp only [hid] at h
    rw [h]
    rfl
  | some id =>
    simp only [hid] at h
    obtain ⟨url, hurl, rfl⟩ := h
    exact hurl

theorem Prescribes.urlOf_eq (h : b.Prescribes call request) :
    b.urlOf call.target? = .ok request.url := by
  cases call with
  | get key | getPayload key =>
    obtain ⟨url, hurl, rfl⟩ := h
    exact urlOf_of_keyUrl hurl
  | listKeys | hasKey key =>
    have hurl : request.url = b.collectionUrl := congrArg Request.url h
    rw [hurl]
    rfl
  | set key value fields => exact PrescribesWrite.urlOf_eq h
  | setWithOptions key payload options =>
    obtain ⟨value, -, hwrite⟩ := h
    exact hwrite.urlOf_eq
  | removeKey key =>
    obtain ⟨id, url, hid, hurl, rfl⟩ := h
    change b.urlOf key.id? = _
    rw [hid]
    exact hurl
  | info | config | urlForKey _ | validateFields _ | decodeListing _ => exact h.elim

theorem urlOf_of_mem_requests (hmem : request ∈ (call.perform b).requests) :
    b.urlOf call.target? = .ok request.url :=
  (mem_requests_iff.mp hmem).2.urlOf_eq

theorem ne_empty_of_target? {id : String} (h : call.target? = some id) : id ≠ "" := by
  obtain ⟨key, -, hid⟩ := Option.bind_eq_some_iff.mp h
  exact (Key.id?_eq_some_iff.mp hid).1

/-! ## Runs -/

/-- What is sent for a call is settled before the service answers: one request at most, sent exactly
if nothing speaks against the call, with the token and the organization that the settings name and,
if it has a body, about the record of the key. -/
theorem mem_sent_iff_prescribes {s : Settings} {b : Backend} (hb : ofSettings s = .ok b)
    {σ : Type} (t : Transport σ) (state : σ) (call : Call Key) :
    ((call.perform b).run t state).sent.length ≤ 1 ∧
    (∀ request, request ∈ ((call.perform b).run t state).sent ↔
      b.objections call = [] ∧ b.Prescribes call request) ∧
    (call.isRemote = true → b.objections call = [] → ∃ request, b.Prescribes call request) ∧
    (∀ request ∈ ((call.perform b).run t state).sent,
      request.token = s.credentials.accessToken ∧
      ∀ body, request.body = some body →
        ∃ key, call.subject? = some key ∧ Envelope.IsAbout b.kind key.id? body) ∧
    s.credentials.named? = some b.organization ∧ b.organization ≠ "" := by
  have hbuilt := ofSettings_eq_ok_iff.mp hb
  rw [Exchange.run_sent]
  refine ⟨b.length_requests_le call, fun _ => mem_requests_iff, ?_, ?_, hbuilt.named?_eq,
    hbuilt.organization_ne_empty⟩
  · intro hcall hobjections
    obtain ⟨request, conclude, hasks, -⟩ := (b.perform_of_isRemote hcall).asks hobjections
    exact ⟨request, hasks.prescribes hobjections⟩
  · intro request hmem
    obtain ⟨-, conclude, hasks⟩ := exists_asks_of_mem_requests hmem
    rw [hasks.token_eq, hbuilt.accessToken_eq]
    exact ⟨rfl, fun body hbody => hasks.body_isAbout hbody⟩

/-- A record is updated where it is, also if the service cannot be reached. -/
theorem sample_update_mem_sent :
    ofSettings sampleSettings = .ok sample ∧
      (⟨.patch, sample.collectionUrl.push "r-1", "token-1",
        some (Envelope.update .checkpoint "r-1" "org-1" .null)⟩ : Request) ∈
        (((Call.set (.addressed .checkpoint "r-1") .null []).perform sample).run .scripted
          [.error .transport]).sent := by
  obtain ⟨-, hmem, -⟩ := mem_sent_iff_prescribes ofSettings_sampleSettings .scripted
    [.error .transport] (.set (.addressed .checkpoint "r-1") .null [])
  exact ⟨ofSettings_sampleSettings, (hmem _).mpr ⟨rfl, _, rfl, rfl⟩⟩

end Backend

end RecordStore
