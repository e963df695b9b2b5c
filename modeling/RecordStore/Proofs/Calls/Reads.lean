import RecordStore.Proofs.Calls.WrittenValues
import RecordStore.Proofs.Listings

/-! # What a read comes to

The calls that read share one reader: an error status is reported as such whatever the body holds,
and a body is looked at only behind a status of success. What they make of the document is their
own. -/

namespace RecordStore

open Session (Call Answer)

/-- The operation that a call which reads is reported under. -/
def Session.Call.reading? {κ : Type} : Call κ → Option Operation
  | .get _ | .getPayload _ => some .get
  | .listKeys => some .list
  | _ => none

theorem Json.member?_eq_some_iff {name : String} {v w : Json} :
    v.member? name = some w ↔ ∃ m, v = .object m ∧ Members.get? name m = some w := by
  cases v <;> simp [member?]

/-- The document holds the value of a record of the kind: in the attribute of the kind, among the
attributes of its data, all of them objects. -/
def Document.HoldsValue (kind : Kind) (d : Document) (value : Json) : Prop :=
  ∃ members data attributes, d = .object members ∧
    Json.Members.get? "data" members = some (.object data) ∧
    Json.Members.get? "attributes" data = some (.object attributes) ∧
    Json.Members.get? kind.attributeKey attributes = some value

theorem Envelope.lookup_valuePath_eq_some_iff {kind : Kind} {d : Document} {value : Json} :
    Document.lookup (valuePath kind) d = some value ↔ d.HoldsValue kind value := by
  rw [lookup_valuePath]
  simp only [Option.bind_eq_some_iff, Json.member?_eq_some_iff, Document.HoldsValue]
  constructor
  · rintro ⟨_, ⟨_, ⟨members, rfl, hdata⟩, data, rfl, hattributes⟩, attributes, rfl, hvalue⟩
    exact ⟨members, data, attributes, rfl, hdata, hattributes, hvalue⟩
  · rintro ⟨members, data, attributes, rfl, hdata, hattributes, hvalue⟩
    exact ⟨_, ⟨_, ⟨members, rfl, hdata⟩, data, rfl, hattributes⟩, attributes, rfl, hvalue⟩

namespace Backend

/-- What a call makes of the document that it reads. -/
inductive Yields (b : Backend) : Call Key → Document → Except StoreError Answer → Prop
  | document (key : Key) (d : Document) : Yields b (.get key) d (.ok (.document d))
  | value (key : Key) {d : Document} {value : Json} (hvalue : d.HoldsValue b.kind value) :
    Yields b (.getPayload key) d (.ok (.document value))
  | noValue (key : Key) {d : Document} (hnone : ∀ value, ¬d.HoldsValue b.kind value) :
    Yields b (.getPayload key) d (.error (.backend .get (.missingField "data.attributes")))
  | listing {d : Document} {outcome : Except StoreError (List Key)} (hdecodes : b.Decodes d outcome) :
    Yields b .listKeys d (outcome.map .keys)

/-- What a read comes to, by what becomes of its request. -/
inductive Reads (b : Backend) (call : Call Key) (operation : Operation) :
    Delivery → Except StoreError Answer → Prop
  | undelivered (cause : Cause) :
    Reads b call operation (.error cause) (.error (.backend operation cause))
  | refused {reply : Reply} {text : String} (hstatus : 300 ≤ reply.status)
      (htext : reply.Abridges text) :
    Reads b call operation (.ok reply) (.error (.backend operation (.status reply.status text)))
  | malformed {reply : Reply} {fault : Json.Fault} (hstatus : reply.status < 300)
      (hjson : reply.json = .error fault) :
    Reads b call operation (.ok reply) (.error (.backend operation (.json fault)))
  | read {reply : Reply} {d : Document} {outcome : Except StoreError Answer}
      (hstatus : reply.status < 300) (hjson : reply.json = .ok d)
      (hyields : b.Yields call d outcome) :
    Reads b call operation (.ok reply) outcome

variable {b : Backend} {call : Call Key} {operation : Operation} {delivery : Delivery}
  {reply : Reply} {d : Document} {outcome : Except StoreError Answer} {request : Request}

/-! ## What is made of a document -/

theorem payloadOf_of_holdsValue {value : Json} (h : d.HoldsValue b.kind value) :
    b.payloadOf d = .ok value := by
  rw [payloadOf, Envelope.lookup_valuePath_eq_some_iff.mpr h]

theorem payloadOf_of_no_value (h : ∀ value, ¬d.HoldsValue b.kind value) :
    b.payloadOf d = failure .get (.missingField "data.attributes") := by
  have hlookup : Document.lookup (Envelope.valuePath b.kind) d = none := by
    rw [Option.eq_none_iff_forall_ne_some]
    intro value hvalue
    exact h value (Envelope.lookup_valuePath_eq_some_iff.mp hvalue)
  rw [payloadOf, hlookup]

theorem yields_get_iff {key : Key} : b.Yields (.get key) d outcome ↔ .ok (.document d) = outcome := by
  constructor
  · rintro ⟨⟩
    rfl
  · rintro rfl
    exact .document key d

theorem yields_getPayload_iff {key : Key} :
    b.Yields (.getPayload key) d outcome ↔
      (b.payloadOf d >>= fun value => .ok (.document value)) = outcome := by
  constructor
  · intro h
    cases h with
    | value _ hvalue =>
      rw [payloadOf_of_holdsValue hvalue]
      rfl
    | noValue _ hnone =>
      rw [payloadOf_of_no_value hnone]
      rfl
  · rintro rfl
    by_cases h : ∃ value, d.HoldsValue b.kind value
    · obtain ⟨value, hvalue⟩ := h
      rw [payloadOf_of_holdsValue hvalue]
      exact .value key hvalue
    · have hnone := not_exists.mp h
      rw [payloadOf_of_no_value hnone]
      exact .noValue key hnone

theorem yields_listKeys_iff :
    b.Yields .listKeys d outcome ↔
      (b.decodeListing d >>= fun keys => .ok (.keys keys)) = outcome := by
  have hmap : (b.decodeListing d >>= fun keys => .ok (.keys keys)) =
      (b.decodeListing d).map Answer.keys := by
    cases b.decodeListing d <;> rfl
  rw [hmap]
  constructor
  · intro h
    cases h with
    | listing hdecodes => rw [hdecodes.eq_decodeListing]
  · rintro rfl
    exact .listing (decodes_decodeListing b d)

/-- A document that was read is found wanting in a field, at most. -/
theorem Yields.missingField {e : StoreError} (h : b.Yields call d (.error e)) :
    ∃ operation path, e = .backend operation (.missingField path) := by
  generalize hfailed : Except.error e = failed at h
  cases h with
  | document | value => contradiction
  | noValue =>
    cases hfailed
    exact ⟨_, _, rfl⟩
  | listing hdecodes =>
    cases hdecodes with
    | keys | empty => contradiction
    | spoilt =>
      cases hfailed
      exact ⟨_, _, rfl⟩

/-! ## The reader -/

theorem documentOf_of_refused (operation : Operation) (hstatus : 300 ≤ reply.status) :
    documentOf operation (.ok reply) = failure operation reply.statusCause := by
  rw [documentOf, if_neg (Reply.not_isSuccess_iff.mpr hstatus)]

theorem documentOf_of_malformed {fault : Json.Fault} (operation : Operation)
    (hstatus : reply.status < 300) (hjson : reply.json = .error fault) :
    documentOf operation (.ok reply) = failure operation (.json fault) := by
  rw [documentOf, if_pos (Reply.isSuccess_iff.mpr hstatus), hjson]

/-- Whatever is made of the document, a read comes to exactly one outcome for every delivery. -/
theorem reads_iff {f : Document → Except StoreError Answer}
    (hf : ∀ d outcome, b.Yields call d outcome ↔ f d = outcome) :
    b.Reads call operation delivery outcome ↔ documentOf operation delivery >>= f = outcome := by
  constructor
  · intro h
    cases h with
    | undelivered cause => rfl
    | refused hstatus htext =>
      rw [documentOf_of_refused operation hstatus, Reply.statusCause, Reply.abridges_iff.mp htext]
      rfl
    | malformed hstatus hjson =>
      rw [documentOf_of_malformed operation hstatus hjson]
      rfl
    | read hstatus hjson hyields =>
      rw [documentOf_of_success operation hstatus hjson]
      exact (hf _ _).mp hyields
  · rintro rfl
    cases delivery with
    | error cause => exact .undelivered cause
    | ok reply =>
      by_cases hstatus : reply.status < 300
      · cases hjson : reply.json with
        | ok d =>
          rw [documentOf_of_success operation hstatus hjson]
          exact .read hstatus hjson ((hf d _).mpr rfl)
        | error fault =>
          rw [documentOf_of_malformed operation hstatus hjson]
          exact .malformed hstatus hjson
      · have hstatus := Nat.le_of_not_lt hstatus
        rw [documentOf_of_refused operation hstatus]
        exact .refused hstatus (Reply.abridges_iff.mpr rfl)

theorem Asks.reads_iff {conclude : Delivery → Except StoreError Answer}
    (h : Asks b call request conclude) (hread : call.reading? = some operation) :
    b.Reads call operation delivery outcome ↔ conclude delivery = outcome := by
  -- The calls decode what the reader leaves them, so the decoding goes to what they make of it.
  cases h with
  | get key =>
    cases hread
    exact Backend.reads_iff fun _ _ => yields_get_iff
  | getPayload key =>
    cases hread
    change _ ↔ (documentOf .get delivery >>= b.payloadOf) >>= _ = _
    rw [bind_assoc]
    exact Backend.reads_iff fun _ _ => yields_getPayload_iff
  | listKeys =>
    cases hread
    change _ ↔ (documentOf .list delivery >>= b.decodeListing) >>= _ = _
    rw [bind_assoc]
    exact Backend.reads_iff fun _ _ => yields_listKeys_iff
  | create | update | options | hasKey | removeKey => contradiction

theorem Asks.get_of_reading {conclude : Delivery → Except StoreError Answer}
    (h : Asks b call request conclude) (hread : call.reading? = some operation) :
    request.method = .get := by
  cases h with
  | get | getPayload | listKeys => rfl
  | create | update | options | hasKey | removeKey => contradiction

/-! ## What follows from the outcome -/

theorem Reads.status_iff (h : b.Reads call operation (.ok reply) outcome) :
    (∃ status text, outcome = .error (.backend operation (.status status text))) ↔
      300 ≤ reply.status := by
  constructor
  · rintro ⟨status, text, rfl⟩
    cases h with
    | refused hstatus _ => exact hstatus
    | read _ _ hyields =>
      obtain ⟨_, path, hpath⟩ := hyields.missingField
      cases hpath
  · intro hstatus
    cases h with
    | refused _ _ => exact ⟨_, _, rfl⟩
    | malformed hsuccess _ => exact absurd hsuccess (Nat.not_lt.mpr hstatus)
    | read hsuccess _ _ => exact absurd hsuccess (Nat.not_lt.mpr hstatus)

theorem Reads.json_iff (h : b.Reads call operation (.ok reply) outcome) :
    (∃ fault, outcome = .error (.backend operation (.json fault))) ↔
      reply.status < 300 ∧ ∃ fault, reply.json = .error fault := by
  constructor
  · rintro ⟨fault, rfl⟩
    cases h with
    | malformed hstatus hjson => exact ⟨hstatus, fault, hjson⟩
    | read _ _ hyields =>
      obtain ⟨_, path, hpath⟩ := hyields.missingField
      cases hpath
  · rintro ⟨hstatus, fault, hjson⟩
    cases h with
    | refused herror _ => exact absurd hstatus (Nat.not_lt.mpr herror)
    | malformed _ _ => exact ⟨_, rfl⟩
    | read _ hdocument _ =>
      rw [hjson] at hdocument
      contradiction

/-! ## Runs -/

/-- A read that is not refused has one request, and what becomes of it decides the outcome: there is
one for every delivery. A reply is reported by its status exactly if that is no status of success, and
for its text exactly if the status is one and the text is no JSON. -/
theorem read_outcome (b : Backend) {σ : Type} (t : Transport σ) (state : σ) {call : Call Key}
    {operation : Operation} (hread : call.reading? = some operation)
    (haccepted : b.objections call = []) :
    ∃ request, ((call.perform b).run t state).sent = [request] ∧ request.method = .get ∧
      (∀ outcome, b.Reads call operation (t.send request state).1 outcome ↔
        ((call.perform b).run t state).result = outcome) ∧
      ∀ reply, (t.send request state).1 = .ok reply →
        ((∃ status text, ((call.perform b).run t state).result =
          .error (.backend operation (.status status text))) ↔ 300 ≤ reply.status) ∧
        ((∃ fault, ((call.perform b).run t state).result =
          .error (.backend operation (.json fault))) ↔
            reply.status < 300 ∧ ∃ fault, reply.json = .error fault) := by
  have hremote : call.isRemote = true := by cases call <;> first | rfl | contradiction
  obtain ⟨request, conclude, hasks, hask⟩ := (b.perform_of_isRemote hremote).asks haccepted
  have houtcome : b.Reads call operation (t.send request state).1
      (conclude (t.send request state).1) := (hasks.reads_iff hread).mpr rfl
  rw [hask]
  refine ⟨request, rfl, hasks.get_of_reading hread, fun _ => hasks.reads_iff hread, ?_⟩
  intro reply hreply
  have hresult : ((Exchange.ask request conclude).run t state).result = conclude (.ok reply) := by
    rw [← hreply]
    rfl
  rw [hreply] at houtcome
  rw [hresult]
  exact ⟨houtcome.status_iff, houtcome.json_iff⟩

/-- An error page of 201 characters, each of them two bytes long. -/
def longReply : Reply := ⟨500, String.ofList (List.replicate 201 'é')⟩

/-- The page is cut off behind 200 characters, and its length is told in bytes. -/
theorem long_page_is_cut :
    sample.objections (.get (.addressed .checkpoint "r-1")) = [] ∧
      (((Call.get (.addressed .checkpoint "r-1")).perform sample).run .scripted
        [.ok longReply]).result =
        .error (.backend .get (.status 500 (String.ofList (List.replicate 200 'é') ++
          "... [truncated, 402 bytes total]"))) := by
  have haccepted : sample.objections (.get (.addressed .checkpoint "r-1")) = [] := rfl
  obtain ⟨request, -, -, houtcome, -⟩ :=
    sample.read_outcome .scripted [.ok longReply] rfl haccepted
  refine ⟨haccepted, (houtcome _).mp (.refused (by decide) (.inr ?_))⟩
  have hbody : longReply.body = String.ofList (List.replicate 200 'é') ++ "é" := by
    rw [longReply, List.replicate_succ', String.ofList_append]
  have hsize : longReply.body.utf8ByteSize = 402 := by decide +kernel
  refine ⟨String.ofList (List.replicate 200 'é'), "é", hbody, ?_, by decide, ?_⟩
  · rw [String.length_ofList, List.length_replicate]
  · have hmarker : "... [truncated, 402 bytes total]" =
        "... [truncated, " ++ (toString 402 ++ " bytes total]") := by decide
    rw [hsize, hmarker, String.append_assoc, String.append_assoc]

end Backend

end RecordStore
