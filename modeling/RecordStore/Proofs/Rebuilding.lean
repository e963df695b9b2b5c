import RecordStore.Proofs.WrittenRecords
import RecordStore.Proofs.Construction
import RecordStore.Proofs.RecordAddresses

/-! # Building a backend again

A backend says what it was built from: its configuration in JSON leaves out only what the reader
puts back, and the settings made of it lead to the same backend. -/

namespace RecordStore

/-- The value says nothing: it is `null`, `false` or the empty text. -/
def Json.IsFalsy (v : Json) : Prop := v = .null ∨ v = .bool false ∨ v = .string ""

theorem Json.not_isFalsy_string {text : String} (h : text ≠ "") : ¬(Json.string text).IsFalsy := by
  simp [Json.IsFalsy, h]

namespace Config

section Entries

variable {name text : String} {flag : Bool} {option : Option String} {member : String × Json}

theorem not_isFalsy_of_mem_textEntry (h : member ∈ textEntry name text) : ¬member.2.IsFalsy := by
  rw [textEntry] at h
  split at h
  · contradiction
  · next htext =>
    rw [List.mem_singleton.mp h]
    exact Json.not_isFalsy_string htext

theorem not_isFalsy_of_mem_flagEntry (h : member ∈ flagEntry name flag) : ¬member.2.IsFalsy := by
  rw [flagEntry] at h
  split at h
  · rw [List.mem_singleton.mp h]
    simp [Json.IsFalsy]
  · contradiction

theorem not_isFalsy_of_mem_optionEntry (hoption : option ≠ some "")
    (h : member ∈ optionEntry name option) : ¬member.2.IsFalsy := by
  cases option with
  | none => contradiction
  | some text =>
    rw [List.mem_singleton.mp h]
    apply Json.not_isFalsy_string
    rintro rfl
    exact hoption rfl

end Entries

theorem not_isFalsy_of_mem_toMembers {c : Config} {member : String × Json}
    (hname : c.resourceName ≠ "") (hgiven : c.givenStoreId ≠ some "")
    (hstore : c.storeName ≠ some "") (h : member ∈ c.toMembers) : ¬member.2.IsFalsy := by
  have hkind : c.kind.typeName ≠ "" := by cases c.kind <;> decide
  have hentry := Json.Members.mem_of_mem_ofList h
  simp only [List.mem_append, List.mem_cons, List.not_mem_nil, or_false] at hentry
  obtain ((((((h | rfl | rfl) | h) | h) | h) | h) | h) := hentry
  · exact not_isFalsy_of_mem_textEntry h
  · exact Json.not_isFalsy_string hkind
  · exact Json.not_isFalsy_string hname
  · exact not_isFalsy_of_mem_flagEntry h
  · exact not_isFalsy_of_mem_flagEntry h
  · exact not_isFalsy_of_mem_optionEntry hgiven h
  · exact not_isFalsy_of_mem_optionEntry hstore h
  · exact not_isFalsy_of_mem_textEntry h

end Config

namespace Settings

theorem nonBlank?_nonBlank? (text : Option String) :
    nonBlank? (nonBlank? text) = nonBlank? text := by
  rw [nonBlank?, nonBlank?, Option.filter_filter]
  simp

theorem nonBlank?_ne_empty (text : Option String) : nonBlank? text ≠ some "" := by
  intro h
  have hblank := (nonBlank?_eq_some_iff.mp h).2
  contradiction

end Settings

namespace Backend

variable {b : Backend} {s : Settings}

theorem BuiltFrom.rebuilt (h : b.BuiltFrom s) :
    b.BuiltFrom (.ofConfig b.config b.credentials) where
  resource := by
    have hname : Settings.nonBlank? (some b.resourceName) = some b.resourceName :=
      Settings.nonBlank?_eq_some_iff.mpr ⟨rfl, Settings.not_isBlankText_of_resolve h.resource⟩
    rw [h.config]
    simp only [Settings.resolve, Settings.ofConfig, Settings.snapshot, hname]
  credentials := Credentials.migrate_migrated h.credentials
  base := by
    rw [h.config]
    exact h.base
  config := by
    rw [h.config]
    simp only [Settings.snapshot, Settings.ofConfig, Settings.nonBlank?_nonBlank?]
  storeId := h.storeId

theorem BuiltFrom.storeId_of_suppressed (h : b.BuiltFrom s) (hsuppress : s.suppressStoreId = true) :
    b.storeId = .suppressed := by
  rw [h.storeId, h.config, storeIdOf, Settings.snapshot, if_pos hsuppress]

theorem BuiltFrom.storeId_of_given (h : b.BuiltFrom s) (hsuppress : s.suppressStoreId = false)
    {id : String} (hgiven : s.givenStoreId = some id) (hblank : Text.isBlankText id = false) :
    b.storeId = .given id := by
  have hid : Settings.nonBlank? s.givenStoreId = some id :=
    Settings.nonBlank?_eq_some_iff.mpr ⟨hgiven, hblank⟩
  rw [h.storeId, h.config, storeIdOf, Settings.snapshot]
  simp only [hsuppress, hid]
  rfl

def namedSettings : Settings := (sampleSettings.withSuppressStoreId false).withStoreId "store-7"

def named : Backend :=
  { sample with
    config := namedSettings.snapshot .checkpoint "checkpoints"
    storeId := .given "store-7" }

/-- The configuration of a backend, in JSON, says something with every entry and reads as the
configuration that it is. With the credentials it leads to the same backend; only an identifier
that was made up for the store is made up anew. -/
theorem rebuilt_from_config (h : ofSettings s = .ok b) :
    (∀ member ∈ b.config.toMembers, ¬member.2.IsFalsy) ∧
    Config.reader.ofJson (.object b.config.toMembers) = .ok b.config ∧
    ofSettings (.ofConfig b.config b.credentials) = .ok b ∧
    (s.suppressStoreId = true → b.storeId = .suppressed) ∧
    (s.suppressStoreId = false → ∀ id, s.givenStoreId = some id → Text.isBlankText id = false →
      b.storeId = .given id) := by
  have hbuilt : b.BuiltFrom s := ofSettings_eq_ok_iff.mp h
  refine ⟨?_, Config.ofJson_toJson b.config, ofSettings_eq_ok_iff.mpr hbuilt.rebuilt,
    hbuilt.storeId_of_suppressed, fun hsuppress id => hbuilt.storeId_of_given hsuppress⟩
  intro member hmem
  rw [hbuilt.config] at hmem
  exact Config.not_isFalsy_of_mem_toMembers hbuilt.resourceName_ne_empty
    (Settings.nonBlank?_ne_empty _) (Settings.nonBlank?_ne_empty _) hmem

theorem named_rebuilt :
    ofSettings namedSettings = .ok named ∧
    Config.reader.ofJson (.object named.config.toMembers) = .ok named.config ∧
    ofSettings (.ofConfig named.config named.credentials) = .ok named ∧
    named.storeId = .given "store-7" := by
  have hsample : sample.BuiltFrom sampleSettings := ofSettings_eq_ok_iff.mp ofSettings_sampleSettings
  have hbuilt : ofSettings namedSettings = .ok named :=
    ofSettings_eq_ok_iff.mpr ⟨hsample.resource, hsample.credentials, hsample.base, rfl, rfl⟩
  obtain ⟨-, hread, hrebuilt, -, hgiven⟩ := rebuilt_from_config hbuilt
  exact ⟨hbuilt, hread, hrebuilt, hgiven rfl "store-7" rfl rfl⟩

end Backend

end RecordStore
