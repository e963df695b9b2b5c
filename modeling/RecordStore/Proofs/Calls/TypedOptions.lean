import RecordStore.Proofs.Calls.Failures
import RecordStore.Proofs.Calls.NewBodies

/-! # Options for a new record

Options are extra fields with names of their own. Three tables have to agree on them: the fields that
options come to, the kind that they belong to, and the fields that this kind allows. They do, so that
a write with options of the right kind is the write with their fields, which is never refused for
them; options of any other kind are refused before all else. -/

namespace RecordStore

open Session (Call)

/-! ## The tables -/

theorem Kind.nodup_allowedFields (kind : Kind) : kind.allowedFields.Nodup := by
  cases kind <;> decide

/-- No two kinds allow the same field. -/
theorem Kind.not_mem_allowedFields_of_ne {kind other : Kind} (h : kind ≠ other) :
    ∀ name ∈ kind.allowedFields, name ∉ other.allowedFields := by
  revert h
  cases kind <;> cases other <;> decide

namespace CreateOptions

variable {options : CreateOptions} {kind : Kind} {name : String} {given : Option String}

/-- The options have an option of this name, which is set to a text or not. -/
inductive Has : CreateOptions → String → Option String → Prop
  | clauseId (clause : Option String) : Has (.expectationSuite clause) "clause_id" clause
  | sourceType (type id : Option String) : Has (.renderedDataDoc type id) "source_type" type
  | sourceId (type id : Option String) : Has (.renderedDataDoc type id) "source_id" id
  | contractId (contract suite : Option String) :
    Has (.suiteValidationResult contract suite) "contract_id" contract
  | expectationSuiteId (contract suite : Option String) :
    Has (.suiteValidationResult contract suite) "expectation_suite_id" suite

/-- The options suit the kind: they belong to it, or to none. -/
def Suits (options : CreateOptions) (kind : Kind) : Prop :=
  options.kind? = none ∨ options.kind? = some kind

theorem has_iff_mem_named : options.Has name given ↔ (name, given) ∈ options.named := by
  constructor
  · intro h
    cases h <;> simp [named]
  · intro h
    cases options with
    | unspecified => contradiction
    | expectationSuite =>
      cases List.mem_singleton.mp h
      exact .clauseId _
    | renderedDataDoc =>
      rcases List.mem_cons.mp h with h | h
      · cases h
        exact .sourceType _ _
      · cases List.mem_singleton.mp h
        exact .sourceId _ _
    | suiteValidationResult =>
      rcases List.mem_cons.mp h with h | h
      · cases h
        exact .contractId _ _
      · cases List.mem_singleton.mp h
        exact .expectationSuiteId _ _

theorem nodup_named (options : CreateOptions) : (options.named.map (·.1)).Nodup := by
  cases options <;> simp [named]

/-- An option is a field that the kind of the options allows. -/
theorem Has.mem_allowedFields (h : options.Has name given) :
    ∃ kind, options.kind? = some kind ∧ name ∈ kind.allowedFields := by
  cases h <;> exact ⟨_, rfl, by decide⟩

theorem Suits.mem_allowedFields (h : options.Suits kind) (hname : options.Has name given) :
    name ∈ kind.allowedFields := by
  obtain ⟨kind', hkind', hmem⟩ := hname.mem_allowedFields
  rcases h with h | h
  · rw [hkind'] at h
    contradiction
  · rw [hkind'] at h
    cases h
    exact hmem

theorem exists_kind?_of_not_suits (h : ¬options.Suits kind) :
    ∃ other, options.kind? = some other ∧ other ≠ kind ∧ other.allowedFields ≠ [] := by
  obtain ⟨hsome, hne⟩ := not_or.mp h
  obtain ⟨other, hother⟩ := Option.ne_none_iff_exists'.mp hsome
  refine ⟨other, hother, ?_, ?_⟩
  · rintro rfl
    exact hne hother
  · cases options <;> cases hother <;> decide

/-! ## The fields of options -/

def entries (options : CreateOptions) : Json.Members :=
  options.named.filterMap fun (name, value) => value.map fun text => (name, Json.string text)

theorem mem_entries_iff {v : Json} :
    (name, v) ∈ options.entries ↔ ∃ text, options.Has name (some text) ∧ .string text = v := by
  simp only [entries, List.mem_filterMap, has_iff_mem_named, Option.map_eq_some_iff, Prod.mk.injEq]
  constructor
  · rintro ⟨⟨name', given⟩, hmem, text, rfl, rfl, rfl⟩
    exact ⟨text, hmem, rfl⟩
  · rintro ⟨text, hmem, rfl⟩
    exact ⟨(name, some text), hmem, text, rfl, rfl, rfl⟩

theorem nodup_names_entries (options : CreateOptions) : options.entries.names.Nodup := by
  apply List.pairwise_map.mpr
  refine List.Pairwise.filterMap _ ?_ (List.pairwise_map.mp options.nodup_named)
  intro option other hne entry hentry entry' hentry'
  obtain ⟨_, -, rfl⟩ := Option.map_eq_some_iff.mp hentry
  obtain ⟨_, -, rfl⟩ := Option.map_eq_some_iff.mp hentry'
  exact hne

theorem get?_toFields_eq_some_iff {v : Json} :
    options.toFields.get? name = some v ↔
      ∃ text, options.Has name (some text) ∧ .string text = v := by
  have hget : options.toFields.get? name = options.entries.get? name := by
    change Json.Members.get? name (Json.Members.insertAll options.entries []) = _
    rw [Json.Members.get?_insertAll options.nodup_names_entries]
    exact Option.or_none
  rw [hget, Json.Members.get?_eq_some_iff_mem options.nodup_names_entries, mem_entries_iff]

theorem nodup_names_toFields (options : CreateOptions) :
    (Json.Members.names options.toFields).Nodup :=
  (Json.Members.ordered_ofList _).nodup

theorem Has.unique {other : Option String} (h : options.Has name given)
    (h' : options.Has name other) : given = other := by
  have hpair := List.inj_on_of_nodup_map options.nodup_named (has_iff_mem_named.mp h)
    (has_iff_mem_named.mp h') rfl
  exact congrArg Prod.snd hpair

/-- An option is among the fields with its text exactly if it is set. -/
theorem Has.get?_toFields (h : options.Has name given) :
    options.toFields.get? name = given.map .string := by
  cases given with
  | some text => exact get?_toFields_eq_some_iff.mpr ⟨text, h, rfl⟩
  | none =>
    rw [Option.map_none, Option.eq_none_iff_forall_ne_some]
    intro v hv
    obtain ⟨text, hset, -⟩ := get?_toFields_eq_some_iff.mp hv
    cases h.unique hset

theorem exists_has_of_mem_names (h : name ∈ Json.Members.names options.toFields) :
    ∃ text, options.Has name (some text) := by
  obtain ⟨v, hv⟩ := Option.isSome_iff_exists.mp (Json.Members.isSome_get?_iff.mpr h)
  obtain ⟨text, hset, -⟩ := get?_toFields_eq_some_iff.mp hv
  exact ⟨text, hset⟩

theorem Suits.allowed (h : options.Suits kind) :
    ∀ name ∈ Json.Members.names options.toFields, name ∈ kind.allowedFields := by
  intro name hmem
  obtain ⟨text, hset⟩ := exists_has_of_mem_names hmem
  exact h.mem_allowedFields hset

end CreateOptions

namespace Backend

open CreateOptions (Has)

variable {b : Backend} {key : Key} {options : CreateOptions} {payload : Payload} {value : Json}
  {fields : Fields} {request : Request}

/-! ## Options that suit the key -/

/-- A write with options of its kind is the write with their fields. -/
theorem perform_setWithOptions_of_suits (h : options.Suits key.kind)
    (hvalue : payload.toJson = .ok value) :
    (Call.setWithOptions key payload options).perform b =
      (Call.set key value options.toFields).perform b := by
  have hoptions : optionObjections key options = [] := by
    rcases h with h | h <;> simp [optionObjections, h]
  rw [perform_setWithOptions_eq, hoptions, payloadJson, hvalue]
  rfl

theorem not_invalidFields_of_objection {e : StoreError} {rest : List StoreError}
    (hallowed : key.kind = b.kind → b.fieldObjections fields = [])
    (h : b.objections (.set key value fields) = e :: rest) (kind : Kind) (names : List String) :
    e ≠ .invalidFields kind names := by
  rintro rfl
  rw [objections, writeObjections] at h
  by_cases hkind : key.kind = b.kind
  · rw [b.kindObjections_eq_nil_iff.mpr hkind, hallowed hkind, ite_self, List.append_nil,
      dotObjections] at h
    split at h
    · split at h
      · cases h
      · contradiction
    · contradiction
  · rw [kindObjections, if_neg hkind] at h
    cases h

/-- A write whose fields are allowed is never refused for fields, whatever becomes of it. -/
theorem result_set_ne_invalidFields {σ : Type} (t : Transport σ) (state : σ)
    (hallowed : key.kind = b.kind → b.fieldObjections fields = []) (kind : Kind)
    (names : List String) :
    (((Call.set key value fields).perform b).run t state).result ≠
      .error (.invalidFields kind names) := by
  rcases b.perform_cases (.set key value fields) with ⟨e, rest, hobjections, hrefused⟩ |
    ⟨-, ⟨result, hknows, -⟩ | ⟨request, conclude, hasks, hask⟩⟩
  · rw [hrefused]
    intro he
    cases he
    exact not_invalidFields_of_objection hallowed hobjections kind names rfl
  · cases hknows
  · rw [hask]
    intro he
    rcases hasks.error_cases he with hbackend | ⟨id, hid⟩
    · contradiction
    · contradiction

/-- The attributes of a new record hold the options that are set, and no other option. -/
theorem get?_attributes_of_has (h : options.Suits b.kind) {name : String} {given : Option String}
    (hname : options.Has name given) :
    (Envelope.attributes b.kind b.organization value options.toFields).get? name =
      given.map .string := by
  -- No option is named as the organization or the value is, as neither name is one of a field.
  have hallowed := h.mem_allowedFields hname
  have horganization : Envelope.organizationKey ≠ name := by
    rintro rfl
    exact b.kind.organizationKey_not_mem_allowedFields hallowed
  have hvalue : b.kind.attributeKey ≠ name := by
    rintro rfl
    exact b.kind.attributeKey_not_mem_allowedFields hallowed
  rw [Envelope.attributes, Json.Members.get?_insertAll options.nodup_names_toFields,
    hname.get?_toFields, Json.Members.get?_insert, if_neg hvalue, Json.Members.get?_cons,
    if_neg horganization]
  exact Option.or_none

theorem body_of_post (hmem : request ∈ ((Call.set key value fields).perform b).requests)
    (hpost : request.method = .post) :
    key.kind = b.kind ∧
      request.body = some (Envelope.create b.kind b.organization value fields) := by
  obtain ⟨hobjections, hprescribes⟩ := mem_requests_iff.mp hmem
  have hkinds : b.kindObjections key = [] :=
    (List.append_eq_nil_iff.mp (List.append_eq_nil_iff.mp hobjections).1).1
  refine ⟨b.kindObjections_eq_nil_iff.mp hkinds, ?_⟩
  rw [Prescribes, PrescribesWrite] at hprescribes
  cases hid : key.id? with
  | none =>
    simp only [hid] at hprescribes
    rw [hprescribes]
  | some id =>
    simp only [hid] at hprescribes
    obtain ⟨url, -, rfl⟩ := hprescribes
    contradiction

/-! ## Runs -/

/-- Options agree with plain fields. If they suit the kind of the key, a write with them is the write
with their fields, is never refused for fields, and makes a record that has every option that is set
for an attribute of its name, and no other option. If they do not, the write is refused before all
else and nothing is sent: the refusal is about the kind of the key and names some fields, each once,
none of which this kind allows. -/
theorem options_agree_with_fields (b : Backend) {σ : Type} (t : Transport σ) (state : σ) (key : Key)
    (options : CreateOptions) :
    (options.Suits key.kind → ∀ payload value, payload.toJson = .ok value →
      ((Call.setWithOptions key payload options).perform b).run t state =
        ((Call.set key value options.toFields).perform b).run t state ∧
      (∀ kind names, (((Call.setWithOptions key payload options).perform b).run t state).result ≠
        .error (.invalidFields kind names)) ∧
      ∀ request ∈ (((Call.setWithOptions key payload options).perform b).run t state).sent,
        request.method = .post →
          ∃ attributes,
            request.body = some (.object [("data", .object [("attributes", .object attributes),
              ("type", .string b.kind.typeName)])]) ∧
            ∀ name given, options.Has name given →
              Json.Members.get? name attributes = given.map .string) ∧
    (¬options.Suits key.kind →
      ∃ names, names ≠ [] ∧ names.Nodup ∧ (∀ name ∈ names, name ∉ key.kind.allowedFields) ∧
        ∀ payload, ((Call.setWithOptions key payload options).perform b).run t state =
          ⟨.error (.invalidFields key.kind names), state, []⟩) := by
  constructor
  · intro hsuits payload value hvalue
    -- The fields are looked at only behind the kinds, so that those of the backend matter nowhere else.
    have hfields : key.kind = b.kind → b.fieldObjections options.toFields = [] :=
      fun hkind => if_pos (hkind ▸ hsuits.allowed)
    rw [perform_setWithOptions_of_suits hsuits hvalue]
    refine ⟨rfl, result_set_ne_invalidFields t state hfields, ?_⟩
    intro request hmem hpost
    rw [Exchange.run_sent] at hmem
    obtain ⟨hkind, hbody⟩ := body_of_post hmem hpost
    rw [hkind] at hsuits
    rw [hbody, Envelope.create_eq, Envelope.wrap_none]
    exact ⟨_, rfl, fun name given hname => get?_attributes_of_has hsuits hname⟩
  · intro hsuits
    obtain ⟨other, hother, hne, hnames⟩ := CreateOptions.exists_kind?_of_not_suits hsuits
    refine ⟨other.allowedFields, hnames, other.nodup_allowedFields,
      Kind.not_mem_allowedFields_of_ne hne, ?_⟩
    intro payload
    have hobjections : optionObjections key options =
        [.invalidFields key.kind other.allowedFields] := by
      simp only [optionObjections, hother, if_neg hne]
    apply run_of_objection
    rw [objections, hobjections]
    rfl

def clauseOptions : CreateOptions := .expectationSuite (some "c-1")

/-- The clause is sent with a new suite, and is refused for a checkpoint. -/
theorem clause_is_sent_with_suites_only :
    clauseOptions.Suits .expectationSuite ∧ ¬clauseOptions.Suits .checkpoint ∧
      (∃ request ∈ (((Call.setWithOptions (.unaddressed .expectationSuite) (.value (.object []))
          clauseOptions).perform suiteSample).run .scripted []).sent,
        request.method = .post ∧
          ∃ attributes, request.body = some (.object [("data", .object [
              ("attributes", .object attributes), ("type", .string "expectation_suite")])]) ∧
            Json.Members.get? "clause_id" attributes = some (.string "c-1")) ∧
      ∃ names, (((Call.setWithOptions (.unaddressed .checkpoint) (.table [(.null, .null)])
          clauseOptions).perform suiteSample).run .scripted []) =
        ⟨.error (.invalidFields .checkpoint names), [], []⟩ := by
  have hsuits : clauseOptions.Suits .expectationSuite := .inr rfl
  have hstrange : ¬clauseOptions.Suits .checkpoint := by
    rintro (h | h) <;> contradiction
  obtain ⟨hsent, -⟩ := suiteSample.options_agree_with_fields .scripted []
    (.unaddressed .expectationSuite) clauseOptions
  obtain ⟨-, hrefused⟩ := suiteSample.options_agree_with_fields .scripted []
    (.unaddressed .checkpoint) clauseOptions
  obtain ⟨hsame, -, hbody⟩ := hsent hsuits (.value (.object [])) (.object []) rfl
  have hmem : suiteSample.request .post suiteSample.collectionUrl
      (some (Envelope.create .expectationSuite "org-1" (.object []) clauseOptions.toFields)) ∈
        (((Call.setWithOptions (.unaddressed .expectationSuite) (.value (.object []))
          clauseOptions).perform suiteSample).run .scripted []).sent := by
    rw [hsame, Exchange.run_sent]
    exact mem_requests_iff.mpr ⟨rfl, rfl⟩
  obtain ⟨attributes, hattributes, hoptions⟩ := hbody _ hmem rfl
  obtain ⟨names, -, -, -, hnothing⟩ := hrefused hstrange
  exact ⟨hsuits, hstrange, ⟨_, hmem, rfl, attributes, hattributes, hoptions _ _ (.clauseId _)⟩,
    names, hnothing _⟩

end Backend

end RecordStore
