import RecordStore.Proofs.RecordReaders

/-! # Records written and read back

What is left out of a record's JSON is what its reader puts back, so that nothing is lost on the way
through JSON. -/

namespace RecordStore

open Json (Members Reader Layout)

namespace Json

variable {ρ : Type} {layout : Layout ρ} {record : ρ} {m : Members}

def without (name : String) : Json → Json
  | object m => object (Members.without name m)
  | v => v

/-- The fields that are left out of the value are those that the reader puts back: without the
member of such a field the value reads as the same record. -/
def Layout.OmitsDefaults (layout : Layout ρ) (record : ρ) (v : Json) : Prop :=
  ∀ f ∈ layout.fields,
    v.member? f.name = none ↔ layout.reader.ofJson (v.without f.name) = .ok record

/-- No field is left out of the value. -/
def Layout.WritesAll (layout : Layout ρ) (v : Json) : Prop :=
  ∀ f ∈ layout.fields, ∃ w, v.member? f.name = some w

theorem Layout.omitsDefaults_of (hread : layout.ofMembers m = .ok record)
    (h : ∀ f ∈ layout.fields, layout.ofMembers (m.without f.name) = .ok record →
      m.get? f.name = none) : layout.OmitsDefaults record (.object m) := by
  intro f hf
  constructor
  · intro habsent
    rw [without, Members.without_eq_self habsent]
    exact hread
  · exact h f hf

end Json

/-! ## Entries that say something -/

namespace Config

variable {name text other : String} {flag : Bool} {option : Option String} {base : Members}

@[simp] theorem get?_insertAll_textEntry :
    Members.get? other (Members.insertAll (textEntry name text) base) =
      if name = other ∧ text ≠ "" then some (.string text) else base.get? other := by
  rw [textEntry]
  split <;> simp_all [Members.insertAll, Members.get?_insert]

@[simp] theorem get?_insertAll_flagEntry :
    Members.get? other (Members.insertAll (flagEntry name flag) base) =
      if name = other ∧ flag = true then some (.bool true) else base.get? other := by
  cases flag <;> simp [flagEntry, Members.insertAll, Members.get?_insert]

@[simp] theorem get?_insertAll_optionEntry :
    Members.get? other (Members.insertAll (optionEntry name option) base) =
      if name = other then (option.map Json.string).or (base.get? other)
      else base.get? other := by
  cases option <;> simp [optionEntry, Members.insertAll, Members.get?_insert]

end Config

/-! ## Credentials -/

namespace Credentials

def toMembers (c : Credentials) : Members :=
  Members.ofList <|
    [("access_token", Json.string c.accessToken)] ++
    Config.optionEntry "organization_id" c.organizationId ++
    Config.optionEntry "account_id" c.accountId

theorem toJson_eq (c : Credentials) : c.toJson = .object c.toMembers := rfl

theorem readFrom_toMembers (c : Credentials) : c.ReadFrom c.toMembers where
  accessToken :=
    ⟨.string c.accessToken, by simp [toMembers, Members.ofList, Members.get?_insert], rfl⟩
  organizationId :=
    Reader.finds_option (by simp [toMembers, Members.ofList, Members.get?_insert])
  accountId := Reader.finds_option (by simp [toMembers, Members.ofList, Members.get?_insert])

theorem nodup_toMembers (c : Credentials) : c.toMembers.names.Nodup :=
  (Members.ordered_ofList _).nodup

theorem ofMembers_toMembers (c : Credentials) : layout.ofMembers c.toMembers = .ok c :=
  (ofMembers_eq_ok_iff c.nodup_toMembers).mpr c.readFrom_toMembers

theorem ofJson_toJson (c : Credentials) : reader.ofJson c.toJson = .ok c := c.ofMembers_toMembers

theorem omitsDefaults (c : Credentials) : layout.OmitsDefaults c c.toJson := by
  rw [toJson_eq]
  apply Layout.omitsDefaults_of c.ofMembers_toMembers
  intro f hf hread
  have hrest := (ofMembers_eq_ok_iff (Members.nodup_names_without c.nodup_toMembers)).mp hread
  simp only [layout, List.mem_cons, List.not_mem_nil, or_false] at hf
  rcases hf with rfl | rfl | rfl
  · exact absurd Members.get?_without_self hrest.accessToken.get?_ne_none
  · have hnone := hrest.organizationId.eq_default Members.get?_without_self
    simp [Json.Field.of, toMembers, Members.ofList, Members.get?_insert, hnone]
  · have hnone := hrest.accountId.eq_default Members.get?_without_self
    simp [Json.Field.of, toMembers, Members.ofList, Members.get?_insert, hnone]

end Credentials

/-! ## Configurations -/

namespace Config

theorem readFrom_toMembers (c : Config) : c.ReadFrom c.toMembers where
  baseUrl := Reader.finds_text (by simp [toMembers, Members.ofList, Members.get?_insert])
  kind := ⟨.string c.kind.typeName, by simp [toMembers, Members.ofList, Members.get?_insert],
    Kind.ofJson_string_eq_ok_iff.mpr rfl⟩
  resourceName :=
    ⟨.string c.resourceName, by simp [toMembers, Members.ofList, Members.get?_insert], rfl⟩
  fixedLengthKey := Reader.finds_flag (by simp [toMembers, Members.ofList, Members.get?_insert])
  suppressStoreId := Reader.finds_flag (by simp [toMembers, Members.ofList, Members.get?_insert])
  givenStoreId := Reader.finds_option (by simp [toMembers, Members.ofList, Members.get?_insert])
  storeName := Reader.finds_option (by simp [toMembers, Members.ofList, Members.get?_insert])
  className := Reader.finds_text (by simp [toMembers, Members.ofList, Members.get?_insert])

theorem nodup_toMembers (c : Config) : c.toMembers.names.Nodup := (Members.ordered_ofList _).nodup

theorem ofMembers_toMembers (c : Config) : layout.ofMembers c.toMembers = .ok c :=
  (ofMembers_eq_ok_iff c.nodup_toMembers).mpr c.readFrom_toMembers

/-- What is left out of a configuration is what its reader puts back. -/
theorem ofJson_toJson (c : Config) : reader.ofJson c.toJson = .ok c := c.ofMembers_toMembers

theorem omitsDefaults (c : Config) : layout.OmitsDefaults c c.toJson := by
  apply Layout.omitsDefaults_of c.ofMembers_toMembers
  intro f hf hread
  have hrest := (ofMembers_eq_ok_iff (Members.nodup_names_without c.nodup_toMembers)).mp hread
  simp only [layout, List.mem_cons, List.not_mem_nil, or_false] at hf
  rcases hf with rfl | rfl | rfl | rfl | rfl | rfl | rfl | rfl
  · have hempty := hrest.baseUrl.eq_default Members.get?_without_self
    simp [Json.Field.of, toMembers, Members.ofList, Members.get?_insert, hempty]
  · exact absurd Members.get?_without_self hrest.kind.get?_ne_none
  · exact absurd Members.get?_without_self hrest.resourceName.get?_ne_none
  · have hfalse := hrest.fixedLengthKey.eq_default Members.get?_without_self
    simp [Json.Field.of, toMembers, Members.ofList, Members.get?_insert, hfalse]
  · have hfalse := hrest.suppressStoreId.eq_default Members.get?_without_self
    simp [Json.Field.of, toMembers, Members.ofList, Members.get?_insert, hfalse]
  · have hnone := hrest.givenStoreId.eq_default Members.get?_without_self
    simp [Json.Field.of, toMembers, Members.ofList, Members.get?_insert, hnone]
  · have hnone := hrest.storeName.eq_default Members.get?_without_self
    simp [Json.Field.of, toMembers, Members.ofList, Members.get?_insert, hnone]
  · have hempty := hrest.className.eq_default Members.get?_without_self
    simp [Json.Field.of, toMembers, Members.ofList, Members.get?_insert, hempty]

end Config

/-! ## Settings -/

namespace Settings

def toMembers (s : Settings) : Members :=
  Members.ofList [
    ("base_url", .string s.baseUrl),
    ("credentials", .object s.credentials.toMembers),
    ("resource_kind", optionJson (s.kind.map Kind.typeName)),
    ("resource_name", optionJson s.resourceName),
    ("suppress_store_backend_id", .bool s.suppressStoreId),
    ("manually_initialize_store_backend_id", optionJson s.givenStoreId),
    ("store_name", optionJson s.storeName)]

theorem toJson_eq (s : Settings) : s.toJson = .object s.toMembers := rfl

theorem ofJson_optionJson (text : Option String) :
    (Reader.optional .text).ofJson (optionJson text) = .ok text := by
  cases text <;> rfl

theorem ofJson_optionJson_kind (kind : Option Kind) :
    (Reader.optional Kind.reader).ofJson (optionJson (kind.map Kind.typeName)) = .ok kind := by
  cases kind with
  | none => rfl
  | some kind =>
    refine Reader.optional_eq_ok_iff.mpr (.inr ⟨nofun, kind, ?_, rfl⟩)
    exact Kind.ofJson_string_eq_ok_iff.mpr rfl

theorem readFrom_toMembers (s : Settings) : s.ReadFrom s.toMembers where
  baseUrl := .of_read (v := .string s.baseUrl)
    (by simp [toMembers, Members.ofList, Members.get?_insert]) rfl
  credentials := ⟨.object s.credentials.toMembers,
    by simp [toMembers, Members.ofList, Members.get?_insert], s.credentials.ofMembers_toMembers⟩
  kind := .of_read (v := optionJson (s.kind.map Kind.typeName))
    (by simp [toMembers, Members.ofList, Members.get?_insert]) (ofJson_optionJson_kind s.kind)
  resourceName := .of_read (v := optionJson s.resourceName)
    (by simp [toMembers, Members.ofList, Members.get?_insert]) (ofJson_optionJson s.resourceName)
  suppressStoreId := .of_read (v := .bool s.suppressStoreId)
    (by simp [toMembers, Members.ofList, Members.get?_insert]) rfl
  givenStoreId := .of_read (v := optionJson s.givenStoreId)
    (by simp [toMembers, Members.ofList, Members.get?_insert]) (ofJson_optionJson s.givenStoreId)
  storeName := .of_read (v := optionJson s.storeName)
    (by simp [toMembers, Members.ofList, Members.get?_insert]) (ofJson_optionJson s.storeName)

theorem nodup_toMembers (s : Settings) : s.toMembers.names.Nodup := (Members.ordered_ofList _).nodup

theorem ofMembers_toMembers (s : Settings) : layout.ofMembers s.toMembers = .ok s :=
  (ofMembers_eq_ok_iff s.nodup_toMembers).mpr s.readFrom_toMembers

theorem ofJson_toJson (s : Settings) : reader.ofJson s.toJson = .ok s := s.ofMembers_toMembers

theorem writesAll (s : Settings) : layout.WritesAll s.toJson := by
  rw [toJson_eq]
  intro f hf
  simp only [layout, List.mem_cons, List.not_mem_nil, or_false] at hf
  rcases hf with rfl | rfl | rfl | rfl | rfl | rfl | rfl <;>
    simp [Json.Field.of, toMembers, Members.ofList, Members.get?_insert]

end Settings

/-! ## References -/

namespace Reference

def toMembers (r : Reference) : Members :=
  Members.ofList [
    ("resource_kind", .string r.kind.typeName), ("remote_id", .string r.remoteId),
    ("url", .string r.url)]

theorem toJson_eq (r : Reference) : r.toJson = .object r.toMembers := rfl

theorem readFrom_toMembers (r : Reference) : r.ReadFrom r.toMembers where
  kind := ⟨.string r.kind.typeName, by simp [toMembers, Members.ofList, Members.get?_insert],
    Kind.ofJson_string_eq_ok_iff.mpr rfl⟩
  remoteId := ⟨.string r.remoteId, by simp [toMembers, Members.ofList, Members.get?_insert], rfl⟩
  url := ⟨.string r.url, by simp [toMembers, Members.ofList, Members.get?_insert], rfl⟩

theorem nodup_toMembers (r : Reference) : r.toMembers.names.Nodup :=
  (Members.ordered_ofList _).nodup

theorem ofMembers_toMembers (r : Reference) : layout.ofMembers r.toMembers = .ok r :=
  (ofMembers_eq_ok_iff r.nodup_toMembers).mpr r.readFrom_toMembers

theorem ofJson_toJson (r : Reference) : reader.ofJson r.toJson = .ok r := r.ofMembers_toMembers

theorem writesAll (r : Reference) : layout.WritesAll r.toJson := by
  rw [toJson_eq]
  intro f hf
  simp only [layout, List.mem_cons, List.not_mem_nil, or_false] at hf
  rcases hf with rfl | rfl | rfl <;>
    simp [Json.Field.of, toMembers, Members.ofList, Members.get?_insert]

end Reference

/-- Credentials, configurations, settings and references are read back from their JSON as they were.
Of credentials and configurations exactly those fields are left out that the reader puts back, of
settings and references none. A name reads as a kind exactly if it is the name of that kind. -/
theorem records_read_back :
    (∀ c : Credentials, Credentials.reader.ofJson c.toJson = .ok c ∧
      Credentials.layout.OmitsDefaults c c.toJson) ∧
    (∀ c : Config, Config.reader.ofJson c.toJson = .ok c ∧ Config.layout.OmitsDefaults c c.toJson) ∧
    (∀ s : Settings, Settings.reader.ofJson s.toJson = .ok s ∧
      Settings.layout.WritesAll s.toJson) ∧
    (∀ r : Reference, Reference.reader.ofJson r.toJson = .ok r ∧
      Reference.layout.WritesAll r.toJson) ∧
    ∀ (kind : Kind) (name : String),
      Kind.reader.ofJson (.string name) = .ok kind ↔ name = kind.typeName := by
  refine ⟨fun c => ?_, fun c => ?_, fun s => ?_, fun r => ?_, fun _ _ => ?_⟩
  · exact ⟨c.ofJson_toJson, c.omitsDefaults⟩
  · exact ⟨c.ofJson_toJson, c.omitsDefaults⟩
  · exact ⟨s.ofJson_toJson, s.writesAll⟩
  · exact ⟨r.ofJson_toJson, r.writesAll⟩
  · exact Kind.ofJson_string_eq_ok_iff

end RecordStore
