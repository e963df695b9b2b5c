import RecordStore.Proofs.Calls.Conclusions
import RecordStore.Proofs.Calls.Protocol
import RecordStore.Proofs.Json.Members
import RecordStore.Proofs.Paths

/-! # Reading what was written

The writer puts a value among the attributes of an envelope, next to the organization and to extra
fields; the reader follows a path. They meet for every kind, as no kind allows a field of the name
under which its values are kept. -/

namespace RecordStore

open Session (Call Answer)

/-! ## The path of a value -/

theorem Kind.attributeKey_not_mem_allowedFields (kind : Kind) :
    kind.attributeKey ∉ kind.allowedFields := by
  cases kind <;> decide

namespace Envelope

variable (kind : Kind)

theorem steps_attributeKey : Document.steps kind.attributeKey = [kind.attributeKey] := by
  apply Document.steps_of_name
  · cases kind <;> decide
  · cases kind <;> simp [Kind.attributeKey]

theorem steps_valuePath :
    Document.steps (valuePath kind) = ["data", "attributes", kind.attributeKey] := by
  have hpath : valuePath kind = "data" ++ "/" ++ ("attributes" ++ "/" ++ kind.attributeKey) := by
    have hnames : "data/attributes/" = "data" ++ "/" ++ ("attributes" ++ "/") := by decide
    change "data/attributes/" ++ kind.attributeKey = _
    rw [hnames, String.append_assoc, String.append_assoc, String.append_assoc]
  have hdata : Document.steps "data" = ["data"] :=
    Document.steps_of_name (by decide) (by simp)
  have hattributes : Document.steps "attributes" = ["attributes"] :=
    Document.steps_of_name (by decide) (by simp)
  rw [hpath, Document.steps_append_slash, Document.steps_append_slash, steps_attributeKey, hdata,
    hattributes]
  rfl

theorem index?_attributeKey : Document.index? kind.attributeKey = none := by
  cases kind <;> cbv

theorem organizationKey_ne_attributeKey : organizationKey ≠ kind.attributeKey := by
  cases kind <;> decide

/-- No name on the path of a value is an index, so it leads through objects only. -/
theorem lookup_valuePath (d : Document) :
    d.lookup (valuePath kind) =
      ((d.member? "data").bind (Json.member? "attributes")).bind (Json.member? kind.attributeKey) := by
  have hattributes : Document.index? "attributes" = none := by decide
  have hnames : ∀ name ∈ ["data", "attributes", kind.attributeKey], Document.index? name = none := by
    simp [Document.index?_data, hattributes, index?_attributeKey]
  rw [Document.lookup, steps_valuePath, Document.walk_of_names hnames]
  rfl

theorem lookup_valuePath_wrap (id : Option String) (attributes : Json.Members) :
    Document.lookup (valuePath kind) (wrap kind id attributes) =
      attributes.get? kind.attributeKey := by
  rw [lookup_valuePath]
  cases id <;> simp [wrap, Json.Members.get?_insert]

theorem lookup_valuePath_create (organization : String) (value : Json) {fields : Fields}
    (h : ∀ name ∈ Json.Members.names fields, name ∈ kind.allowedFields) :
    Document.lookup (valuePath kind) (create kind organization value fields) = some value := by
  have hkey : kind.attributeKey ∉ Json.Members.names fields := by
    intro hmem
    exact kind.attributeKey_not_mem_allowedFields (h _ hmem)
  rw [create, lookup_valuePath_wrap, Json.Members.get?_insertAll_of_not_mem hkey,
    Json.Members.get?_insert, if_pos rfl]

theorem lookup_valuePath_update (id organization : String) (value : Json) :
    Document.lookup (valuePath kind) (update kind id organization value) = some value := by
  rw [update, lookup_valuePath_wrap, Json.Members.get?_insert,
    if_neg (organizationKey_ne_attributeKey kind), Json.Members.get?_insert, if_pos rfl]

/-- The body with an identifier put into its data. -/
def identified (id : Json) : Json → Json
  | .object body =>
    match Json.Members.get? "data" body with
    | some (.object data) =>
      .object (Json.Members.insert "data" (.object (Json.Members.insert "id" id data)) body)
    | _ => .object body
  | body => body

theorem lookup_valuePath_identified (id body : Json) :
    Document.lookup (valuePath kind) (identified id body) =
      Document.lookup (valuePath kind) body := by
  rw [lookup_valuePath, lookup_valuePath]
  cases body with
  | object body =>
    rw [identified]
    split
    · rename_i data hdata
      simp [Json.Members.get?_insert, hdata]
    · rfl
  | null | bool _ | number _ | string _ | array _ => rfl

end Envelope

/-! ## Bodies that write a value -/

namespace Backend

/-- The bodies that write a value: that of a new record with fields that are allowed, as it was sent
or with an identifier, or that of an update. -/
inductive Writes (b : Backend) (value : Json) : Json → Prop
  | new (organization : String) {fields : Fields} (h : b.checkFields fields = .ok ()) :
    Writes b value (Envelope.create b.kind organization value fields)
  | made (organization : String) {fields : Fields} (h : b.checkFields fields = .ok ()) (id : Json) :
    Writes b value (Envelope.identified id (Envelope.create b.kind organization value fields))
  | update (id organization : String) : Writes b value (Envelope.update b.kind id organization value)

variable {b : Backend} {value body : Json} {key : Key} {fields : Fields} {request : Request}

theorem mem_allowedFields_of_checkFields (h : b.checkFields fields = .ok ()) :
    ∀ name ∈ Json.Members.names fields, name ∈ b.kind.allowedFields := by
  rw [checkFields_eq_verdict, fieldObjections] at h
  split at h
  · assumption
  · contradiction

theorem Writes.lookup_eq (h : b.Writes value body) :
    Document.lookup (Envelope.valuePath b.kind) body = some value := by
  cases h with
  | new organization hfields =>
    exact Envelope.lookup_valuePath_create _ _ _ (mem_allowedFields_of_checkFields hfields)
  | made organization hfields id =>
    rw [Envelope.lookup_valuePath_identified]
    exact Envelope.lookup_valuePath_create _ _ _ (mem_allowedFields_of_checkFields hfields)
  | update id organization => exact Envelope.lookup_valuePath_update _ _ _ _

theorem Writes.payloadOf_eq (h : b.Writes value body) : b.payloadOf body = .ok value := by
  rw [payloadOf, h.lookup_eq]

theorem checkFields_of_objections_eq_nil (hid : key.id? = none)
    (h : b.objections (.set key value fields) = []) : b.checkFields fields = .ok () := by
  have hfields : b.fieldObjections fields = [] := by
    have hwrite := (List.append_eq_nil_iff.mp h).2
    rwa [if_pos hid] at hwrite
  rw [checkFields_eq_verdict, hfields, verdict]

theorem PrescribesWrite.writes (h : b.PrescribesWrite key value fields request)
    (hobjections : b.objections (.set key value fields) = []) :
    ∃ body, request.body = some body ∧ b.Writes value body := by
  rw [PrescribesWrite] at h
  cases hid : key.id? with
  | none =>
    simp only [hid] at h
    rw [h]
    exact ⟨_, rfl, .new _ (checkFields_of_objections_eq_nil hid hobjections)⟩
  | some id =>
    simp only [hid] at h
    obtain ⟨url, -, rfl⟩ := h
    exact ⟨_, rfl, .update _ _⟩

/-! ## Runs -/

theorem Asks.conclude_of_getPayload {conclude : Delivery → Except StoreError Answer}
    (h : Asks b (.getPayload key) request conclude) (delivery : Delivery) :
    conclude delivery = (documentOf .get delivery >>= b.payloadOf) >>= fun v => .ok (.document v) := by
  cases h
  rfl

/-- What a write sends, and what the service may make of it by giving it an identifier, is read back
as the value that was written, whatever that value is. -/
theorem written_value_read_back (b : Backend) {σ : Type} (t : Transport σ) (state : σ) :
    (∀ {key value fields request},
      request ∈ (((Call.set key value fields).perform b).run t state).sent →
        ∃ body, request.body = some body ∧ b.Writes value body) ∧
    ∀ {key value body request reply}, b.Writes value body →
      (((Call.getPayload key).perform b).run t state).sent = [request] →
      (t.send request state).1 = .ok reply → reply.status < 300 → reply.json = .ok body →
        (((Call.getPayload key).perform b).run t state).result = .ok (.document value) := by
  constructor
  · intro key value fields request hmem
    rw [Exchange.run_sent] at hmem
    obtain ⟨hobjections, hprescribes⟩ := mem_requests_iff.mp hmem
    exact PrescribesWrite.writes hprescribes hobjections
  · intro key value body request reply hwrites hsent hreply hstatus hjson
    rcases b.settled_or_asks (.getPayload key) with
      ⟨result, hsettled⟩ | ⟨request', conclude, hasks, hask⟩
    · rw [hsettled] at hsent
      contradiction
    · rw [hask] at hsent ⊢
      cases hsent
      change conclude (t.send request state).1 = _
      rw [hasks.conclude_of_getPayload, hreply, documentOf_of_success .get hstatus hjson]
      change (b.payloadOf body >>= fun v => _) = _
      rw [hwrites.payloadOf_eq]
      rfl

/-- A value with a member called as the envelope's own. -/
def sampleValue : Json := .object [("data", .object [("attributes", .null)])]

def sampleValueReply : Reply :=
  ⟨200, "\x7b\"data\":\x7b\"id\":\"r-1\",\"type\":\"checkpoint\",\"attributes\":\x7b\"organization_id\":\"org-1\",\"checkpoint_config\":\x7b\"data\":\x7b\"attributes\":null\x7d\x7d\x7d\x7d\x7d"⟩

/-- The value is not taken for the envelope around it. -/
theorem sample_value_read_back :
    (((Call.getPayload (.addressed .checkpoint "r-1")).perform sample).run .scripted
      [.ok sampleValueReply]).result = .ok (.document sampleValue) := by
  obtain ⟨-, hread⟩ := sample.written_value_read_back .scripted [.ok sampleValueReply]
  exact hread (.update "r-1" "org-1") rfl rfl (by decide) (by cbv)

end Backend

end RecordStore
