import RecordStore.Proofs.Calls.Failures
import RecordStore.Proofs.CollectionAddresses

/-! # Misconfiguration

What is wrong with settings is found when a backend is built. A backend that was built has an
address to which segments can be added, as they can to every address below it, and none of its calls
finds anything wrong with its configuration. -/

namespace RecordStore

open Session (Call)

def StoreError.isConfiguration : StoreError → Bool
  | configuration _ => true
  | _ => false

/-! ## Addresses to which segments can be added -/

namespace Url

variable {u : Url}

/-- A slash stands behind the colon of the scheme, so that segments can be added to the path. -/
def HoldsPath (u : Url) : Prop := ∃ behind, u.text = u.scheme ++ ":/" ++ behind

theorem holdsPath_of (h : u.authority = none → u.path ≠ []) : u.HoldsPath := by
  have hcolon : ":/" = ":" ++ "/" := rfl
  rw [HoldsPath, text, origin, hcolon]
  cases hauthority : u.authority with
  | some a =>
    have hslashes : "//" = "/" ++ "/" := rfl
    rw [hslashes]
    simp only [String.append_assoc, String.append_right_inj]
    exact ⟨_, rfl⟩
  | none =>
    cases hguarded : u.guarded with
    | true =>
      have hdot : "/." = "/" ++ "." := rfl
      rw [if_pos rfl, hdot]
      simp only [String.append_assoc, String.append_right_inj, String.empty_append]
      exact ⟨_, rfl⟩
    | false =>
      obtain ⟨segment, rest, hpath⟩ := List.exists_cons_of_ne_nil (h hauthority)
      rw [hpath, Path.text_cons]
      simp only [String.append_assoc, String.append_right_inj, String.empty_append]
      exact ⟨_, rfl⟩

theorem holdsPath_of_path (h : u.path ≠ []) : u.HoldsPath := holdsPath_of fun _ => h

theorem holdsPath_of_parse {raw : String} (h : Address.parse raw = .ok (.hierarchical u)) :
    u.HoldsPath := by
  obtain ⟨scheme, authority, path, s, rfl, -, hpath⟩ := isAssembled_of_parse h
  exact holdsPath_of fun hnone => Path.collapse_ne_nil (hpath hnone)

end Url

/-! ## What settings lack -/

namespace Settings

variable {s : Settings} {e : StoreError}

/-- A kind is given, or the name of one that is not blank. -/
def NamesResource (s : Settings) : Prop :=
  s.kind.isSome = true ∨ ∃ name kind, s.resourceName = some name ∧
    Text.isBlankText name = false ∧ Kind.ofResourceName? name = some kind

theorem exists_resolve_of_kind {kind : Kind} (hkind : s.kind = some kind) :
    ∃ resource, s.resolve = .ok resource := by
  rw [resolve, hkind]
  cases nonBlank? s.resourceName with
  | none | some _ => exact ⟨_, rfl⟩

theorem exists_resolve_iff : (∃ resource, s.resolve = .ok resource) ↔ s.NamesResource := by
  constructor
  · rintro ⟨resource, h⟩
    rw [resolve] at h
    split at h
    · rename_i hkind _
      exact .inl (hkind ▸ rfl)
    · rename_i hkind _
      exact .inl (hkind ▸ rfl)
    · rename_i name _ hname
      split at h
      · rename_i kind hnamed
        obtain ⟨hgiven, hblank⟩ := nonBlank?_eq_some_iff.mp hname
        exact .inr ⟨name, kind, hgiven, hblank, hnamed⟩
      · cases h
    · cases h
  · rintro (hkind | ⟨name, kind, hgiven, hblank, hnamed⟩)
    · obtain ⟨kind, hkind⟩ := Option.isSome_iff_exists.mp hkind
      exact exists_resolve_of_kind hkind
    · cases hkind : s.kind with
      | some kind => exact exists_resolve_of_kind hkind
      | none =>
        have hname := nonBlank?_eq_some_iff.mpr ⟨hgiven, hblank⟩
        refine ⟨(kind, name), ?_⟩
        rw [resolve, hkind, hname]
        simp only [hnamed]

theorem isConfiguration_of_resolve (h : s.resolve = .error e) : e.isConfiguration = true := by
  rw [resolve] at h
  split at h
  · cases h
  · cases h
  · split at h
    · cases h
    · cases h
      rfl
  · cases h
    rfl

end Settings

theorem Credentials.isConfiguration_of_migrate {c : Credentials} {e : StoreError}
    (h : c.migrate = .error e) : e.isConfiguration = true := by
  rw [migrate_eq] at h
  split at h
  · cases h
  · cases h
    rfl

namespace Backend

variable {s : Settings} {b : Backend} {e : StoreError}

theorem isConfiguration_of_parseBase {raw : String} (h : parseBase raw = .error e) :
    e.isConfiguration = true := by
  rw [parseBase] at h
  split at h
  · cases h
    rfl
  · cases h
    rfl
  · cases h

/-- A backend is not built for a fault of its settings only. -/
theorem isConfiguration_of_ofSettings (h : ofSettings s = .error e) : e.isConfiguration = true := by
  rw [ofSettings] at h
  rcases Except.eq_error_or_of_bind_eq_error h with hresource | ⟨resource, -, h⟩
  · exact Settings.isConfiguration_of_resolve hresource
  rcases Except.eq_error_or_of_bind_eq_error h with hcredentials | ⟨credentials, -, h⟩
  · exact Credentials.isConfiguration_of_migrate hcredentials
  rcases Except.eq_error_or_of_bind_eq_error h with hbase | ⟨base, -, h⟩
  · exact isConfiguration_of_parseBase hbase
  · cases h

theorem exists_ofSettings_iff :
    (∃ b, ofSettings s = .ok b) ↔
      s.NamesResource ∧
      ((∃ id, s.credentials.organizationId = some id ∧ id ≠ "") ∨
        ∃ id, s.credentials.accountId = some id ∧ id ≠ "") ∧
      ∃ u, Url.Address.parse s.baseUrl = .ok (.hierarchical u) ∧ u.HoldsPath := by
  rw [← Settings.exists_resolve_iff, ← Credentials.exists_named?_iff]
  constructor
  · rintro ⟨b, hb⟩
    have hbuilt := ofSettings_eq_ok_iff.mp hb
    obtain ⟨u, hread, -⟩ := parseBase_eq_ok_iff.mp hbuilt.base
    exact ⟨⟨_, hbuilt.resource⟩, ⟨_, hbuilt.named?_eq⟩, u, hread, Url.holdsPath_of_parse hread⟩
  · rintro ⟨⟨⟨kind, name⟩, hresource⟩, ⟨organization, hnamed⟩, u, hread, -⟩
    have hcredentials := Credentials.migrate_eq_ok_iff.mpr ⟨organization, hnamed, rfl⟩
    have hbase := parseBase_eq_ok_iff.mpr ⟨u, hread, rfl⟩
    let config := s.snapshot kind name
    exact ⟨⟨_, _, kind, name, config, storeIdOf config⟩,
      ofSettings_eq_ok_iff.mpr ⟨hresource, hcredentials, hbase, rfl, rfl⟩⟩

theorem BuiltFrom.holdsPath_base (h : b.BuiltFrom s) : b.base.HoldsPath := by
  apply Url.holdsPath_of_path
  intro hpath
  have hslash := h.endsWithSlash_base
  rw [hpath] at hslash
  contradiction

theorem holdsPath_collectionUrl (b : Backend) : b.collectionUrl.HoldsPath :=
  Url.holdsPath_of_path b.path_collectionUrl_ne_nil

/-- The errors of the configuration are those of the construction. A backend is built exactly if the
settings name a resource and an organization, and their address reads as one that can hold a path;
otherwise its configuration is refused, without a transport. Segments can then be added to the base
and to the collection, and no call, whatever the service does, is refused for the configuration. -/
theorem misconfiguration_found_at_construction (s : Settings) :
    ((∃ b, ofSettings s = .ok b) ↔
      s.NamesResource ∧
      ((∃ id, s.credentials.organizationId = some id ∧ id ≠ "") ∨
        ∃ id, s.credentials.accountId = some id ∧ id ≠ "") ∧
      ∃ u, Url.Address.parse s.baseUrl = .ok (.hierarchical u) ∧ u.HoldsPath) ∧
    (∀ e, ofSettings s = .error e → e.isConfiguration = true) ∧
    ∀ b, ofSettings s = .ok b →
      b.base.HoldsPath ∧ b.collectionUrl.HoldsPath ∧
      ∀ {σ : Type} (t : Transport σ) (call : Call Key) state e,
        ((call.perform b).run t state).result = .error e → e.isConfiguration = false := by
  refine ⟨exists_ofSettings_iff, fun e => isConfiguration_of_ofSettings, fun b hb => ?_⟩
  have hbuilt := ofSettings_eq_ok_iff.mp hb
  refine ⟨hbuilt.holdsPath_base, b.holdsPath_collectionUrl, fun t call state e he => ?_⟩
  rcases isValidation_or_isBackend t state he with hvalidation | hbackend
  · cases e <;> first | rfl | contradiction
  · cases e <;> first | rfl | contradiction

/-- An address of mail holds no path. The sample is built, and when the service is out of order its
call fails for that and not for the configuration. -/
theorem sample_configured :
    (∃ e, ofSettings (sampleSettings.withBaseUrl "mailto:team") = .error e ∧
      e.isConfiguration = true) ∧
    ofSettings sampleSettings = .ok sample ∧ sample.collectionUrl.HoldsPath ∧
    ∃ e, ((sampleCreate.perform sample).run .scripted []).result = .error e ∧
      e.isConfiguration = false := by
  obtain ⟨-, hrefused, -⟩ :=
    misconfiguration_found_at_construction (sampleSettings.withBaseUrl "mailto:team")
  obtain ⟨-, -, hcalls⟩ := misconfiguration_found_at_construction sampleSettings
  obtain ⟨-, hcollection, herrors⟩ := hcalls sample ofSettings_sampleSettings
  have hmail : ofSettings (sampleSettings.withBaseUrl "mailto:team") =
      .error (.configuration (.opaqueAddress "mailto:team")) := by cbv
  have hfailed : ((sampleCreate.perform sample).run .scripted []).result =
      .error (.backend .set (.status 500 "no reply queued")) := by cbv
  exact ⟨⟨_, hmail, hrefused _ hmail⟩, ofSettings_sampleSettings, hcollection, _, hfailed,
    herrors .scripted sampleCreate [] _ hfailed⟩

end Backend

end RecordStore
