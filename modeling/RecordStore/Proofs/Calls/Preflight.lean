import RecordStore.Proofs.Calls.Requests

/-! # Checks before anything is sent

A call is refused if something speaks against it, and only then. A refused call leaves the
transport alone; any other call that reaches the service sends one request. -/

namespace RecordStore.Backend

open Session (Call Answer)

variable (b : Backend)

/-! ## The names that are not allowed -/

theorem pairwise_le_rejectedFields (fields : Fields) :
    (b.rejectedFields fields).Pairwise (· ≤ ·) := by
  have htrans : ∀ x y z : String, decide (x ≤ y) = true → decide (y ≤ z) = true →
      decide (x ≤ z) = true := by
    intro x y z hxy hyz
    rw [decide_eq_true_eq] at hxy hyz ⊢
    exact String.le_trans hxy hyz
  have htotal : ∀ x y : String, (decide (x ≤ y) || decide (y ≤ x)) = true := by
    intro x y
    rw [Bool.or_eq_true, decide_eq_true_eq, decide_eq_true_eq]
    exact String.le_total x y
  have hsorted := List.pairwise_mergeSort htrans htotal
    ((Json.Members.names fields).filter fun name => name ∉ b.allowedFields)
  exact hsorted.imp fun h => of_decide_eq_true h

theorem nodup_rejectedFields {fields : Fields} (h : (Json.Members.names fields).Nodup) :
    (b.rejectedFields fields).Nodup := by
  rw [rejectedFields, (List.mergeSort_perm _ _).nodup_iff]
  exact h.filter _

/-- Where no name occurs twice among the fields, each one that is not allowed is named once. -/
theorem pairwise_lt_rejectedFields {fields : Fields} (h : (Json.Members.names fields).Nodup) :
    (b.rejectedFields fields).Pairwise (· < ·) := by
  refine (b.pairwise_le_rejectedFields fields).imp₂ ?_ (b.nodup_rejectedFields h)
  intro x y hle hne
  apply String.not_le.mp
  intro hge
  exact hne (String.le_antisymm hle hge)

/-! ## Calls that the service has no part in -/

/-- What a call comes to without the service if nothing speaks against it. -/
inductive Knows (b : Backend) : Call Key → Except StoreError Answer → Prop
  | info : Knows b .info (.ok (.backend b))
  | config : Knows b .config (.ok (.config b.config))
  | urlForKey (key : Key) : Knows b (.urlForKey key) (.ok (.text (b.addressOf key).text))
  | validateFields (fields : Fields) : Knows b (.validateFields fields) (.ok .done)
  | decodeListing (document : Document) :
    Knows b (.decodeListing document) ((b.decodeListing document).map .keys)

theorem knows_of_not_isRemote {call : Call Key} (hcall : call.isRemote = false)
    (h : b.objections call = []) : ∃ result, Knows b call result ∧ call.perform b = .settled result := by
  cases call with
  | info => exact ⟨_, .info, rfl⟩
  | config => exact ⟨_, .config, rfl⟩
  | urlForKey key =>
    refine ⟨_, .urlForKey key, ?_⟩
    rw [perform_urlForKey, h]
    rfl
  | validateFields fields =>
    refine ⟨_, .validateFields fields, ?_⟩
    rw [objections] at h
    rw [Call.perform, Session.settled, checkFields_eq_verdict, h]
    rfl
  | decodeListing document => exact ⟨_, .decodeListing document, rfl⟩
  | get _ | getPayload _ | set _ _ _ | setWithOptions _ _ _ | listKeys | hasKey _ | removeKey _ =>
    contradiction

/-! ## Runs -/

section Run

variable {b} {σ : Type} {call : Call Key} (t : Transport σ) (state : σ)

theorem perform_of_objection {e : StoreError} {rest : List StoreError}
    (h : b.objections call = e :: rest) : call.perform b = .settled (.error e) := by
  cases hcall : call.isRemote with
  | true => exact (b.perform_of_isRemote hcall).refuses e rest h
  | false =>
    cases call with
    | urlForKey key =>
      rw [perform_urlForKey, h]
      rfl
    | validateFields fields =>
      rw [objections] at h
      rw [Call.perform, Session.settled, checkFields_eq_verdict, h]
      rfl
    | _ => contradiction

/-- A call is refused for the first objection to it. Without any it is known without the service, or
asked. -/
theorem perform_cases (b : Backend) (call : Call Key) :
    (∃ e rest, b.objections call = e :: rest ∧ call.perform b = .settled (.error e)) ∨
      b.objections call = [] ∧
        ((∃ result, Knows b call result ∧ call.perform b = .settled result) ∨
          ∃ request conclude, Asks b call request conclude ∧
            call.perform b = .ask request conclude) := by
  cases h : b.objections call with
  | cons e rest => exact .inl ⟨e, rest, rfl, perform_of_objection h⟩
  | nil =>
    refine .inr ⟨rfl, ?_⟩
    cases hcall : call.isRemote with
    | false => exact .inl (b.knows_of_not_isRemote hcall h)
    | true => exact .inr ((b.perform_of_isRemote hcall).asks h)

theorem run_of_objection {e : StoreError} {rest : List StoreError}
    (h : b.objections call = e :: rest) :
    (call.perform b).run t state = ⟨.error e, state, []⟩ := by
  rw [perform_of_objection h]
  rfl

theorem sent_of_objections_eq_nil (hcall : call.isRemote = true) (h : b.objections call = []) :
    ∃ request, ((call.perform b).run t state).sent = [request] := by
  obtain ⟨request, conclude, -, hask⟩ := (b.perform_of_isRemote hcall).asks h
  exact ⟨request, by rw [hask]; rfl⟩

theorem sent_eq_nil_iff (hcall : call.isRemote = true) :
    ((call.perform b).run t state).sent = [] ↔ b.objections call ≠ [] := by
  constructor
  · intro hsent h
    obtain ⟨request, hrequest⟩ := sent_of_objections_eq_nil t state hcall h
    rw [hrequest] at hsent
    contradiction
  · intro h
    obtain ⟨e, rest, hrest⟩ := List.exists_cons_of_ne_nil h
    rw [run_of_objection t state hrest]

end Run

/-- The checks are exact. The first objection to a call refuses it and nothing is sent; a call that
reaches the service and meets with no objection sends one request, as listings always do. An address
is refused for the same objections, without a request. The names in the refusal of fields are those
that are not allowed, in ascending order. -/
theorem preflight_exact {σ : Type} (t : Transport σ) (state : σ) :
    (∀ (call : Call Key) (e : StoreError) (rest : List StoreError),
      b.objections call = e :: rest → (call.perform b).run t state = ⟨.error e, state, []⟩) ∧
    (∀ call : Call Key, call.isRemote = true →
      (((call.perform b).run t state).sent = [] ↔ b.objections call ≠ []) ∧
      (b.objections call = [] → ∃ request, ((call.perform b).run t state).sent = [request])) ∧
    (∃ request, ((Call.listKeys.perform b).run t state).sent = [request]) ∧
    (∀ key, ∃ request, (((Call.hasKey key).perform b).run t state).sent = [request]) ∧
    (∀ key, ((Call.urlForKey key).perform b).run t state =
      ⟨(verdict (b.kindObjections key ++ dotObjections key)).map fun _ =>
        .text (b.addressOf key).text, state, []⟩) ∧
    ∀ fields : Fields,
      (∀ name, name ∈ b.rejectedFields fields ↔
        name ∈ Json.Members.names fields ∧ name ∉ b.kind.allowedFields) ∧
      ((Json.Members.names fields).Nodup → (b.rejectedFields fields).Pairwise (· < ·)) := by
  refine ⟨fun _ _ _ h => run_of_objection t state h, ?_, ?_, ?_, ?_, ?_⟩
  · intro call hcall
    exact ⟨sent_eq_nil_iff t state hcall, sent_of_objections_eq_nil t state hcall⟩
  · exact sent_of_objections_eq_nil t state rfl rfl
  · intro key
    exact sent_of_objections_eq_nil t state rfl rfl
  · intro key
    rw [perform_urlForKey]
    rfl
  · intro fields
    exact ⟨fun _ => b.mem_rejectedFields, b.pairwise_lt_rejectedFields⟩

end RecordStore.Backend
