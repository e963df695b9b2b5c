import RecordStore.Proofs.Calls.Outcomes
import RecordStore.Proofs.Calls.Preflight
import RecordStore.Proofs.Calls.Protocol
import RecordStore.Proofs.Json.Identifiers

/-! # New records

The reference that a create answers leads back to the record: its key is accepted by every later call
and has the address of the reference. So a record that was made is never made again through its key,
in a single call or in a session. -/

namespace RecordStore

open Session (Call Answer Entry KeyRef Memory)

namespace Backend

variable {b : Backend} {call : Call Key} {request : Request} {reference : Reference}
  {conclude : Delivery → Except StoreError Answer}

/-- The reply gives the identifier, which is not empty, to the new record. -/
def Names (delivery : Delivery) (id : String) : Prop :=
  id ≠ "" ∧ ∃ reply d v, delivery = .ok reply ∧ reply.json = .ok d ∧
    (Json.member? "data" d).bind (Json.member? "id") = some v ∧ v.StandsFor id

theorem createdId?_eq_some_iff {delivery : Delivery} {id : String} :
    createdId? delivery = some id ↔ Names delivery id := by
  cases delivery with
  | error cause => simp [createdId?, Names]
  | ok reply =>
    rw [createdId?, Names]
    cases hjson : reply.json with
    | error fault => simp [hjson]
    | ok d =>
      simp only [Document.identifierAt, Document.lookup_data_id, Option.bind_eq_some_iff,
        Json.identifier?_eq_some_iff]
      constructor
      · rintro ⟨v, hv, hstands, hne⟩
        exact ⟨hne, reply, d, v, rfl, hjson, hv, hstands⟩
      · rintro ⟨hne, reply', d', v, hreply, hjson', hv, hstands⟩
        cases hreply
        cases hjson.symm.trans hjson'
        exact ⟨v, hv, hstands, hne⟩

/-! ## The key of a reference -/

/-- The reference is that of a record of the backend. -/
structure Refers (b : Backend) (reference : Reference) : Prop where
  kind : reference.kind = b.kind
  remoteId : reference.remoteId ≠ ""
  not_dots : ¬(reference.remoteId = "." ∨ reference.remoteId = "..")
  url : (b.collectionUrl.push reference.remoteId).text = reference.url

/-- The request goes to the record of the reference, and makes no other. -/
structure Reaches (b : Backend) (reference : Reference) (request : Request) : Prop where
  url : request.url.text = reference.url
  method : request.method ≠ .post
  body : ∀ body, request.body = some body →
    Envelope.IsAbout b.kind (some reference.remoteId) body

namespace Refers

variable (h : b.Refers reference)
include h

theorem id?_key : reference.key.id? = some reference.remoteId := by
  rw [Reference.key, Key.id?, if_neg h.remoteId]

theorem addressOf_key : b.addressOf reference.key = b.collectionUrl.push reference.remoteId :=
  b.addressOf_of_id h.id?_key

theorem accepts_key : b.AcceptsRecord reference.key reference.remoteId :=
  ⟨h.kind, h.id?_key, h.not_dots⟩

theorem text_addressOf_key : (b.addressOf reference.key).text = reference.url := by
  rw [h.addressOf_key, h.url]

theorem keyUrl_key : b.keyUrl reference.key = .ok (b.addressOf reference.key) := by
  rw [keyUrl_eq_verdict, h.accepts_key.kindObjections_eq_nil, h.accepts_key.dotObjections_eq_nil]
  rfl

/-- What is asked for behind a reference goes to its record. -/
theorem reaches (hasks : Asks b call request conclude)
    (hsubject : call.subject? = some reference.key) : b.Reaches reference request where
  url := by rw [hasks.url_eq hsubject, h.text_addressOf_key]
  method := by
    induction hasks with
    | create value fields hid =>
      cases hsubject
      rw [h.id?_key] at hid
      contradiction
    | options _ _ ih => exact ih hsubject
    | get | getPayload | update | listKeys | hasKey | removeKey => exact Method.noConfusion
  body := by
    intro body hbody
    obtain ⟨key, hkey, habout⟩ := hasks.body_isAbout hbody
    rw [hsubject] at hkey
    cases hkey
    rwa [h.id?_key] at habout

theorem reaches_of_mem_requests (hsubject : call.subject? = some reference.key)
    (hmem : request ∈ (call.perform b).requests) : b.Reaches reference request := by
  obtain ⟨-, conclude, hasks⟩ := exists_asks_of_mem_requests hmem
  exact h.reaches hasks hsubject

/-- Behind a reference a call that is not refused has its one request. -/
theorem exists_asks (hsubject : call.subject? = some reference.key)
    (hoptions : call.hasOptions = false) :
    ∃ request conclude, Asks b call request conclude ∧ (call.perform b).requests = [request] := by
  have hremote : call.isRemote = true := by cases call <;> cases hsubject <;> rfl
  obtain ⟨request, conclude, hasks, hask⟩ :=
    (b.perform_of_isRemote hremote).asks (h.accepts_key.objections_eq_nil hsubject hoptions)
  exact ⟨request, conclude, hasks, by rw [hask]; rfl⟩

theorem requests_set (value : Json) (fields : Fields) :
    ((Call.set reference.key value fields).perform b).requests =
      [b.request .patch (b.addressOf reference.key)
        (some (Envelope.update b.kind reference.remoteId b.organization value))] := by
  have hsubject : (Call.set reference.key value fields).subject? = some reference.key := rfl
  obtain ⟨request, conclude, hasks, hrequests⟩ := h.exists_asks hsubject rfl
  rw [hrequests]
  cases hasks with
  | create _ _ hid =>
    rw [h.id?_key] at hid
    contradiction
  | update _ _ hid =>
    rw [h.id?_key] at hid
    cases hid
    rfl

end Refers

/-! ## Creates -/

variable {σ : Type} {t : Transport σ} {state : σ}

theorem asks_of_created
    (h : ((call.perform b).run t state).result = .ok (.stored (.created reference))) :
    ∃ request conclude, Asks b call request conclude ∧ call.perform b = .ask request conclude ∧
      conclude (t.send request state).1 = .ok (.stored (.created reference)) := by
  rcases b.perform_cases call with
    ⟨e, rest, -, hrefused⟩ | ⟨-, ⟨result, hknows, hsettled⟩ | ⟨request, conclude, hasks, hask⟩⟩
  · rw [hrefused] at h
    contradiction
  · rw [hsettled] at h
    change result = _ at h
    cases hknows with
    | decodeListing d => cases hkeys : b.decodeListing d <;> simp [hkeys, Except.map] at h
    | info | config | urlForKey _ | validateFields _ => cases h
  · rw [hask] at h
    exact ⟨request, conclude, hasks, hask, h⟩

/-- Only a create answers with a reference. -/
theorem Asks.post_of_created (h : Asks b call request conclude) {delivery : Delivery}
    (hcreated : conclude delivery = .ok (.stored (.created reference))) : request.method = .post := by
  induction h with
  | create => rfl
  | options _ _ ih => exact ih hcreated
  | get | getPayload | update | listKeys | hasKey | removeKey =>
    obtain ⟨_, _, hanswer⟩ := Except.exists_of_bind_eq_ok hcreated
    cases hanswer

theorem Asks.refers_of_created (h : Asks b call request conclude) {delivery : Delivery}
    (hcreated : conclude delivery = .ok (.stored (.created reference))) :
    b.Refers reference ∧ createdId? delivery = some reference.remoteId := by
  rw [h.conclude_of_post (h.post_of_created hcreated)] at hcreated
  obtain ⟨made, hmade, hanswer⟩ := Except.exists_of_bind_eq_ok hcreated
  cases hanswer
  rcases b.concludeCreate_cases delivery with
    ⟨-, hcreate⟩ | ⟨id, -, -, hcreate⟩ | ⟨id, hid, hdots, hcreate⟩
  · rw [hcreate] at hmade
    contradiction
  · rw [hcreate] at hmade
    contradiction
  · rw [hcreate] at hmade
    cases hmade
    exact ⟨⟨rfl, (createdId?_eq_some_iff.mp hid).1, hdots, rfl⟩, hid⟩

theorem refers_of_created
    (h : ((call.perform b).run t state).result = .ok (.stored (.created reference))) :
    b.Refers reference := by
  obtain ⟨request, conclude, hasks, -, hconclude⟩ := asks_of_created h
  exact (hasks.refers_of_created hconclude).1

end Backend

/-! ## Sessions -/

namespace Session

def Entry.made? (entry : Entry) : Option Reference :=
  match entry.result with
  | .ok (.stored outcome) => outcome.reference?
  | _ => none

/-- The last record made in entries, or the one made before them. -/
def lastMade (earlier : Option Reference) (entries : List Entry) : Option Reference :=
  entries.foldl (fun made entry => entry.made?.or made) earlier

variable {b : Backend} {σ : Type} {t : Transport σ} {state : σ} {m : Memory}

theorem Memory.created_after {κ : Type} (m : Memory) (call : Call κ) (entry : Entry) :
    (m.after call entry.result).created = entry.made?.or m.created := by
  obtain ⟨result, sent⟩ := entry
  cases result with
  | error e => rfl
  | ok answer =>
    cases answer with
    | stored outcome => cases outcome <;> rfl
    | keys keys => cases call <;> rfl
    | backend _ | config _ | document _ | text _ | flag _ | done => rfl

/-- The record that is remembered is one of the backend. -/
def Memory.Refers (b : Backend) (m : Memory) : Prop := ∀ r, m.created = some r → b.Refers r

theorem Memory.Refers.after (h : m.Refers b) (call : Call Key) (state : σ) :
    (m.after call ((call.perform b).run t state).result).Refers b := by
  intro r hr
  have hcreated := m.created_after call
    ⟨((call.perform b).run t state).result, ((call.perform b).run t state).sent⟩
  rw [hr] at hcreated
  rcases Option.or_eq_some_iff.mp hcreated.symm with hmade | ⟨-, hearlier⟩
  · rw [Entry.made?] at hmade
    split at hmade
    · rename_i outcome hresult
      cases outcome with
      | created reference =>
        cases hmade
        exact Backend.refers_of_created hresult
      | updated accepted => contradiction
    · contradiction
  · exact h r hearlier

theorem Call.subject?_resolve {call : Call KeyRef} {resolved : Call Key}
    (hsubject : call.subject? = some .created) (hresolve : call.resolve m = some resolved) :
    ∃ r, m.created = some r ∧ resolved.subject? = some r.key ∧
      resolved.hasOptions = call.hasOptions := by
  cases call with
  | get key | getPayload key | set key _ _ | setWithOptions key _ _ | removeKey key =>
    cases hsubject
    obtain ⟨key, hkey, rfl⟩ := Option.map_eq_some_iff.mp hresolve
    obtain ⟨r, hr, rfl⟩ := Option.map_eq_some_iff.mp hkey
    exact ⟨r, hr, rfl, rfl⟩
  | info | config | urlForKey _ | listKeys | hasKey _ | validateFields _ | decodeListing _ =>
    contradiction

/-- Every call of a session about the last record made is one about the key of its reference. -/
theorem run_created {calls : List (Call KeyRef)} {entries : List Entry} (hm : m.Refers b)
    (hrun : run b t m state calls = some entries) {i : Nat} {call : Call KeyRef} {entry : Entry}
    (hcall : calls[i]? = some call) (hentry : entries[i]? = some entry)
    (hsubject : call.subject? = some .created) :
    ∃ (r : Reference) (resolved : Call Key), lastMade m.created (entries.take i) = some r ∧
      b.Refers r ∧ resolved.subject? = some r.key ∧ resolved.hasOptions = call.hasOptions ∧
      entry.sent = (resolved.perform b).requests := by
  -- The record that is remembered before a call is the last one made in the entries before it.
  induction calls generalizing m state entries i with
  | nil => contradiction
  | cons first rest ih =>
    obtain ⟨resolved, hresolve, hrun⟩ := Option.bind_eq_some_iff.mp hrun
    obtain ⟨later, hlater, hentries⟩ := Option.bind_eq_some_iff.mp hrun
    cases hentries
    cases i with
    | zero =>
      cases hcall
      cases hentry
      obtain ⟨r, hr, hkey, hoptions⟩ := Call.subject?_resolve hsubject hresolve
      exact ⟨r, resolved, hr, hm r hr, hkey, hoptions, Exchange.run_sent _ _ _⟩
    | succ i =>
      obtain ⟨r, resolved', hmade, hfound⟩ := ih (hm.after resolved state) hlater hcall hentry
      refine ⟨r, resolved', ?_, hfound⟩
      rwa [m.created_after resolved ⟨_, ((resolved.perform b).run t state).sent⟩] at hmade

end Session

namespace Backend

/-- A create answers with a reference to the record that it made: of the kind of the backend, with
the identifier that the reply gives to it, and with the address of its key. Later calls by this key
are accepted and have one request each, which goes to this address and makes no record; a write
replaces the value of this one. In a session the same is so for the calls about the last record
made. -/
theorem new_record_is_reached (b : Backend) {σ : Type} (t : Transport σ) :
    (∀ {call : Call Key} {state : σ} {reference : Reference},
      ((call.perform b).run t state).result = .ok (.stored (.created reference)) →
        reference.kind = b.kind ∧
        (∃ request, ((call.perform b).run t state).sent = [request] ∧ request.method = .post ∧
          Names (t.send request state).1 reference.remoteId) ∧
        (b.keyUrl reference.key).map Url.text = .ok reference.url ∧
        (∀ later : Call Key, later.subject? = some reference.key → later.hasOptions = false →
          b.objections later = [] ∧ ∀ state', ∃ request,
            ((later.perform b).run t state').sent = [request] ∧ b.Reaches reference request) ∧
        ∀ value fields state', ∃ url : Url, url.text = reference.url ∧
          (((Call.set reference.key value fields).perform b).run t state').sent =
            [⟨.patch, url, b.credentials.accessToken,
              some (Envelope.update b.kind reference.remoteId b.organization value)⟩]) ∧
    ∀ {calls : List (Call KeyRef)} {entries state},
      Session.run b t .empty state calls = some entries →
      ∀ {i : Nat} {call entry}, calls[i]? = some call → entries[i]? = some entry →
        call.subject? = some .created →
          ∃ r, Session.lastMade none (entries.take i) = some r ∧
            (∀ request ∈ entry.sent, b.Reaches r request) ∧
            (call.hasOptions = false → entry.sent.length = 1) := by
  constructor
  · intro call state reference hcreated
    obtain ⟨request, conclude, hasks, hask, hconclude⟩ := asks_of_created hcreated
    obtain ⟨hrefers, hid⟩ := hasks.refers_of_created hconclude
    have hpost := hasks.post_of_created hconclude
    refine ⟨hrefers.kind, ⟨request, ?_, hpost, createdId?_eq_some_iff.mp hid⟩, ?_, ?_, ?_⟩
    · rw [hask]
      rfl
    · rw [hrefers.keyUrl_key, ← hrefers.text_addressOf_key]
      rfl
    · intro later hsubject hoptions
      refine ⟨hrefers.accepts_key.objections_eq_nil hsubject hoptions, fun state' => ?_⟩
      obtain ⟨sent, conclude', hasks', hrequests⟩ := hrefers.exists_asks hsubject hoptions
      exact ⟨sent, by rw [Exchange.run_sent, hrequests], hrefers.reaches hasks' hsubject⟩
    · intro value fields state'
      refine ⟨_, hrefers.text_addressOf_key, ?_⟩
      rw [Exchange.run_sent, hrefers.requests_set]
      rfl
  · intro calls entries state hrun i call entry hcall hentry hsubject
    have hempty : Memory.empty.Refers b := by
      intro r hr
      contradiction
    obtain ⟨r, resolved, hmade, hrefers, hkey, hoptions, hsent⟩ :=
      Session.run_created hempty hrun hcall hentry hsubject
    refine ⟨r, hmade, ?_, ?_⟩
    · intro request hmem
      rw [hsent] at hmem
      exact hrefers.reaches_of_mem_requests hkey hmem
    · intro hplain
      obtain ⟨request, conclude, -, hrequests⟩ := hrefers.exists_asks hkey (hoptions.trans hplain)
      rw [hsent, hrequests]
      rfl

def madeReply : Reply := ⟨201, "\x7b\"data\":\x7b\"id\":\"7\"\x7d\x7d"⟩

def madeUrl : Url :=
  { sample.base with path := ["organizations", "org-1", "checkpoints", "7"] }

def madeReference : Reference := ⟨.checkpoint, "7", madeUrl.text⟩

theorem run_sampleCreate_madeReply :
    ((sampleCreate.perform sample).run .scripted [.ok madeReply]).result =
      .ok (.stored (.created madeReference)) := by
  have hid : createdId? (.ok madeReply) = some "7" := by cbv
  have hurl : sample.collectionUrl.push "7" = madeUrl := by decide
  obtain ⟨request, conclude, hpost, hasks, hrun⟩ := run_sampleCreate (.ok madeReply)
  rw [hrun]
  change conclude (.ok madeReply) = _
  rw [hasks.conclude_of_post hpost, concludeCreate_eq, hid]
  change (sample.referenceOf "7" >>= _) = _
  rw [referenceOf_of_not_dots _ (by decide), hurl]
  rfl

/-- The record is written and removed by its key, and not made again. -/
theorem sample_record_is_reached :
    ((sampleCreate.perform sample).run .scripted [.ok madeReply]).result =
      .ok (.stored (.created madeReference)) ∧
    (∃ url : Url, url.text = madeUrl.text ∧
      (((Call.set madeReference.key .null []).perform sample).run .scripted []).sent =
        [⟨.patch, url, "token-1", some (Envelope.update .checkpoint "7" "org-1" .null)⟩]) ∧
    ∃ first second, Session.run sample .scripted .empty [.ok madeReply]
        [.set (.given (.unaddressed .checkpoint)) (.object []) [], .removeKey .created] =
          some [first, second] ∧
      second.sent.length = 1 := by
  have hcreated := run_sampleCreate_madeReply
  obtain ⟨hcall, hsession⟩ := sample.new_record_is_reached .scripted
  obtain ⟨-, -, -, -, hset⟩ := hcall hcreated
  have hrun : ∃ first second, Session.run sample .scripted .empty [.ok madeReply]
      [.set (.given (.unaddressed .checkpoint)) (.object []) [], .removeKey .created] =
        some [first, second] := by
    rw [sampleCreate] at hcreated
    simp only [Session.run, Call.resolve, Memory.key?, Option.map_some, Option.bind_eq_bind,
      Option.bind_some, hcreated, Memory.after]
    exact ⟨_, _, rfl⟩
  obtain ⟨first, second, hrun⟩ := hrun
  obtain ⟨r, -, -, hone⟩ := hsession hrun (i := 1) rfl rfl rfl
  exact ⟨hcreated, hset .null [] [], first, second, hrun, hone rfl⟩

end Backend

end RecordStore
