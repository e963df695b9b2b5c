import RecordStore.Proofs.Calls.WrittenValues

/-! # The body of a new record

The attributes of a new record are its organization, its value and the extra fields, each under a
name of its own: no kind allows a field that is called as its value or as the organization. So extra
fields cannot take the place of either. -/

namespace RecordStore

open Session (Call)

theorem Kind.organizationKey_not_mem_allowedFields (kind : Kind) :
    Envelope.organizationKey ∉ kind.allowedFields := by
  cases kind <;> decide

namespace Envelope

variable {kind : Kind} {organization : String} {value : Json} {fields : Fields}

def attributes (kind : Kind) (organization : String) (value : Json) (fields : Fields) :
    Json.Members :=
  Json.Members.insertAll fields <|
    Json.Members.insert kind.attributeKey value [(organizationKey, .string organization)]

theorem wrap_none (kind : Kind) (attributes : Json.Members) :
    wrap kind none attributes =
      .object [("data", .object [("attributes", .object attributes),
        ("type", .string kind.typeName)])] := by
  have hother : "type" ≠ "attributes" := by decide
  have hbefore : "attributes" < "type" := by decide
  rw [wrap, Json.Members.insert, Json.Members.insert, if_neg hother, if_pos hbefore]

theorem create_eq (kind : Kind) (organization : String) (value : Json) (fields : Fields) :
    create kind organization value fields =
      wrap kind none (attributes kind organization value fields) := rfl

/-- The attributes are the organization, the value and the fields, each under a name of its own. -/
structure Combines (kind : Kind) (organization : String) (value : Json) (fields : Fields)
    (attributes : Json.Members) : Prop where
  nodup : attributes.names.Nodup
  names : attributes.names.Perm
    (organizationKey :: kind.attributeKey :: Json.Members.names fields)
  organization : attributes.get? organizationKey = some (.string organization)
  value : attributes.get? kind.attributeKey = some value
  fields : ∀ name ∈ Json.Members.names fields, attributes.get? name = Json.Members.get? name fields

theorem nodup_names_attributes : (attributes kind organization value fields).names.Nodup := by
  apply Json.Members.Ordered.nodup
  apply Json.Members.ordered_insertAll
  apply Json.Members.ordered_insert
  exact List.pairwise_singleton _ _

theorem mem_names_attributes_iff {name : String} :
    name ∈ (attributes kind organization value fields).names ↔
      name ∈ organizationKey :: kind.attributeKey :: Json.Members.names fields := by
  rw [attributes, Json.Members.mem_names_insertAll, Json.Members.mem_names_insert, List.mem_cons,
    List.mem_cons]
  simp only [Json.Members.names, List.map_cons, List.map_nil, List.mem_singleton]
  tauto

theorem attributes_combines (hallowed : ∀ name ∈ Json.Members.names fields, name ∈ kind.allowedFields)
    (hfields : (Json.Members.names fields).Nodup) :
    Combines kind organization value fields (attributes kind organization value fields) := by
  have horganization : organizationKey ∉ Json.Members.names fields :=
    fun hmem => kind.organizationKey_not_mem_allowedFields (hallowed _ hmem)
  have hvalue : kind.attributeKey ∉ Json.Members.names fields :=
    fun hmem => kind.attributeKey_not_mem_allowedFields (hallowed _ hmem)
  have hdistinct : organizationKey ≠ kind.attributeKey := organizationKey_ne_attributeKey kind
  refine ⟨nodup_names_attributes, ?_, ?_, ?_, ?_⟩
  · apply (List.perm_ext_iff_of_nodup nodup_names_attributes ?_).mpr
    · exact fun name => mem_names_attributes_iff
    · simp only [List.nodup_cons, List.mem_cons, not_or]
      exact ⟨⟨hdistinct, horganization⟩, hvalue, hfields⟩
  · rw [attributes, Json.Members.get?_insertAll_of_not_mem horganization, Json.Members.get?_insert,
      if_neg hdistinct.symm, Json.Members.get?_cons, if_pos rfl]
  · rw [attributes, Json.Members.get?_insertAll_of_not_mem hvalue, Json.Members.get?_insert,
      if_pos rfl]
  · intro name hmem
    obtain ⟨v, hv⟩ := Option.isSome_iff_exists.mp (Json.Members.isSome_get?_iff.mpr hmem)
    rw [attributes, Json.Members.get?_insertAll hfields, hv]
    rfl

end Envelope

namespace Backend

/-- What is posted for a new record has its kind for type, no identifier, and for attributes the
organization that the settings name, the value and the extra fields, each under a name of its own.
So no map of fields that is accepted takes the place of the organization or of the value. -/
theorem fields_stand_beside_value {s : Settings} {b : Backend} (hb : ofSettings s = .ok b)
    {σ : Type} (t : Transport σ) (state : σ) {key : Key} {value : Json} {fields : Fields}
    (hid : key.id? = none) (hfields : (Json.Members.names fields).Nodup) {request : Request}
    (hmem : request ∈ (((Call.set key value fields).perform b).run t state).sent) :
    s.credentials.named? = some b.organization ∧ request.method = .post ∧
      ∃ attributes, Envelope.Combines b.kind b.organization value fields attributes ∧
        request.body = some (.object [("data", .object [("attributes", .object attributes),
          ("type", .string b.kind.typeName)])]) := by
  rw [Exchange.run_sent] at hmem
  obtain ⟨hobjections, hprescribes⟩ := mem_requests_iff.mp hmem
  have hchecked := checkFields_of_objections_eq_nil hid hobjections
  have hrequest : request = ⟨.post, b.collectionUrl, b.credentials.accessToken,
      some (Envelope.create b.kind b.organization value fields)⟩ := by
    rwa [Prescribes, PrescribesWrite, hid] at hprescribes
  rw [hrequest, Envelope.create_eq, Envelope.wrap_none]
  exact ⟨(ofSettings_eq_ok_iff.mp hb).named?_eq, rfl, _,
    Envelope.attributes_combines (mem_allowedFields_of_checkFields hchecked) hfields, rfl⟩

def suiteSettings : Settings := sampleSettings.withKind .expectationSuite

def suiteSample : Backend :=
  { sample with
    kind := .expectationSuite
    resourceName := "expectation_suites"
    config := suiteSettings.snapshot .expectationSuite "expectation_suites" }

/-- The clause of a new suite stands beside the suite. -/
theorem clause_stands_beside_suite :
    ofSettings suiteSettings = .ok suiteSample ∧
      ∃ request ∈ (((Call.set (.unaddressed .expectationSuite) (.object [])
          [("clause_id", .string "c-1")]).perform suiteSample).run .scripted []).sent,
        request.method = .post ∧
          ∃ attributes, Envelope.Combines .expectationSuite "org-1" (.object [])
            [("clause_id", .string "c-1")] attributes ∧
          request.body = some (.object [("data", .object [("attributes", .object attributes),
            ("type", .string "expectation_suite")])]) := by
  have hb : ofSettings suiteSettings = .ok suiteSample := ofSettings_beside_sample rfl rfl rfl
  have hmem : suiteSample.request .post suiteSample.collectionUrl
      (some (Envelope.create .expectationSuite "org-1" (.object []) [("clause_id", .string "c-1")])) ∈
        (((Call.set (.unaddressed .expectationSuite) (.object [])
          [("clause_id", .string "c-1")]).perform suiteSample).run .scripted []).sent := by
    rw [Exchange.run_sent]
    exact mem_requests_iff.mpr ⟨rfl, rfl⟩
  have hfields : (Json.Members.names [("clause_id", .string "c-1")]).Nodup :=
    List.nodup_singleton "clause_id"
  obtain ⟨-, hpost, hbody⟩ := fields_stand_beside_value hb .scripted [] rfl hfields hmem
  exact ⟨hb, _, hmem, hpost, hbody⟩

end Backend

end RecordStore
