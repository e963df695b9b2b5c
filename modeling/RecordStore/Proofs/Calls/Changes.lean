import RecordStore.Proofs.Calls.Outcomes
import RecordStore.Proofs.RecordAddresses

/-! # What a change comes to

An update and a removal look at the status of the reply and at nothing else: a body is not read, and
an error status is an answer, not an error. The extra fields of a write decide whether a new record
is made, but an update does not look at them. -/

namespace RecordStore.Backend

open Session (Call Answer)

/-- The call patches a record. It answers whether the status of the reply is one of success, and fails
only for want of a reply. -/
def FollowsStatus (b : Backend) {σ : Type} (t : Transport σ) (state : σ) (call : Call Key)
    (operation : Operation) (answer : Bool → Answer) : Prop :=
  ∃ request, ((call.perform b).run t state).sent = [request] ∧ request.method = .patch ∧
    (∀ reply, (t.send request state).1 = .ok reply →
      ((call.perform b).run t state).result = .ok (answer (decide (reply.status < 300)))) ∧
    ∀ cause, (t.send request state).1 = .error cause →
      ((call.perform b).run t state).result = .error (.backend operation cause)

variable {b : Backend} {key : Key} {id : String} {value : Json} {fields : Fields} {request : Request}
  {conclude : Delivery → Except StoreError Answer}

/-! ## What is asked for -/

theorem Asks.update_of_id (h : Asks b (.set key value fields) request conclude)
    (hid : key.id? = some id) :
    request.method = .patch ∧
      ∀ delivery, conclude delivery =
        accepted .update delivery >>= fun a => .ok (.stored (.updated a)) := by
  cases h with
  | update => exact ⟨rfl, fun _ => rfl⟩
  | create _ _ hnone =>
    rw [hid] at hnone
    contradiction

theorem Asks.removes (h : Asks b (.removeKey key) request conclude) :
    request.method = .patch ∧
      ∀ delivery, conclude delivery = accepted .remove delivery >>= fun a => .ok (.flag a) := by
  cases h
  exact ⟨rfl, fun _ => rfl⟩

/-- A write behind an identifier is the same whatever fields come with it, allowed or not. -/
theorem perform_set_of_id (hid : key.id? = some id) (value : Json) (fields fields' : Fields) :
    (Call.set key value fields).perform b = (Call.set key value fields').perform b := by
  simp only [Call.perform, set, hid]

/-! ## Runs -/

section Run

variable {σ : Type} (t : Transport σ) (state : σ)

theorem followsStatus_of_ask {call : Call Key} {operation : Operation} {answer : Bool → Answer}
    (hask : call.perform b = .ask request conclude) (hpatch : request.method = .patch)
    (hconclude : ∀ delivery, conclude delivery =
      accepted operation delivery >>= fun a => .ok (answer a)) :
    b.FollowsStatus t state call operation answer := by
  have hresult : ((call.perform b).run t state).result =
      accepted operation (t.send request state).1 >>= fun a => .ok (answer a) := by
    rw [hask, ← hconclude]
    rfl
  refine ⟨request, by rw [hask]; rfl, hpatch, ?_, ?_⟩
  · intro reply hreply
    rw [hresult, hreply]
    rfl
  · intro cause hcause
    rw [hresult, hcause]
    rfl

/-- Updates and removals of a record depend on nothing but the status of the reply, whatever its body
is, and fail only for the cause of there being none. An update is the same call, with the same request
and the same result, for all maps of extra fields. -/
theorem changes_follow_status (b : Backend) (haccepts : b.AcceptsRecord key id) :
    (∀ value fields, b.FollowsStatus t state (.set key value fields) .update
      fun success => .stored (.updated success)) ∧
    b.FollowsStatus t state (.removeKey key) .remove .flag ∧
    ∀ value fields fields', ((Call.set key value fields).perform b).run t state =
      ((Call.set key value fields').perform b).run t state := by
  refine ⟨?_, ?_, ?_⟩
  · -- Nothing speaks against the fields, as they are none of a new record.
    intro value fields
    obtain ⟨request, conclude, hasks, hask⟩ :=
      (b.perform_set key value fields).asks (haccepts.objections_eq_nil rfl rfl)
    obtain ⟨hpatch, hconclude⟩ := hasks.update_of_id haccepts.id?_eq
    exact followsStatus_of_ask t state hask hpatch hconclude
  · obtain ⟨request, conclude, hasks, hask⟩ :=
      (b.perform_removeKey key).asks (haccepts.objections_eq_nil rfl rfl)
    obtain ⟨hpatch, hconclude⟩ := hasks.removes
    exact followsStatus_of_ask t state hask hpatch hconclude
  · intro value fields fields'
    rw [perform_set_of_id haccepts.id?_eq value fields fields']

end Run

/-- A conflict with an identifier in the reply, for which a new record would be reported, leaves the
record as it was, and a field that no checkpoint has makes no difference. -/
theorem conflict_is_no_update :
    sample.AcceptsRecord (.addressed .checkpoint "r-1") "r-1" ∧
      (((Call.set (.addressed .checkpoint "r-1") .null [("color", .null)]).perform sample).run
        .scripted [.ok conflictReply]).result = .ok (.stored (.updated false)) ∧
      (((Call.removeKey (.addressed .checkpoint "r-1")).perform sample).run
        .scripted [.ok conflictReply]).result = .ok (.flag false) ∧
      ((Call.set (.addressed .checkpoint "r-1") .null [("color", .null)]).perform sample).run
        .scripted [.ok conflictReply] =
      ((Call.set (.addressed .checkpoint "r-1") .null []).perform sample).run
        .scripted [.ok conflictReply] := by
  have haccepts : sample.AcceptsRecord (.addressed .checkpoint "r-1") "r-1" := ⟨rfl, rfl, by decide⟩
  obtain ⟨hupdates, hremoves, hsame⟩ :=
    sample.changes_follow_status .scripted [.ok conflictReply] haccepts
  obtain ⟨_, -, -, hupdate, -⟩ := hupdates .null [("color", .null)]
  obtain ⟨_, -, -, hremove, -⟩ := hremoves
  exact ⟨haccepts, hupdate conflictReply rfl, hremove conflictReply rfl, hsame _ _ _⟩

end RecordStore.Backend
