import RecordStore.Backend.Basic
import RecordStore.Proofs.Steps

/-! # How a backend is built

What a backend takes from the settings it was built from: the organization under either of its
names, a resource name that is not blank, and an address that was read and closed by a slash. -/

namespace RecordStore

namespace Credentials

/-- The organization that credentials name: an account stands in where there is none. -/
def named? (c : Credentials) : Option String :=
  (nonEmpty? c.organizationId).or (nonEmpty? c.accountId)

theorem nonEmpty?_eq_some_iff {text : Option String} {s : String} :
    nonEmpty? text = some s ↔ text = some s ∧ s ≠ "" := by
  rw [nonEmpty?, Option.filter_eq_some_iff, decide_eq_true_eq]

theorem hasOrganization_iff {c : Credentials} :
    c.hasOrganization = true ↔ ∃ s, c.organizationId = some s ∧ s ≠ "" := by
  rw [hasOrganization, Option.isSome_iff_exists]
  simp only [nonEmpty?_eq_some_iff]

/-- Migration succeeds exactly when an organization is named, which is then all that is left beside
the token. -/
theorem migrate_eq_ok_iff {c migrated : Credentials} :
    c.migrate = .ok migrated ↔
      ∃ organization, c.named? = some organization ∧
        migrated = ofOrganization c.accessToken organization := by
  obtain ⟨token, organizationId, accountId⟩ := c
  cases horg : nonEmpty? organizationId with
  | some organization =>
    obtain ⟨rfl, hne⟩ := nonEmpty?_eq_some_iff.mp horg
    have hhas : ∀ account, (Credentials.mk token (some organization) account).hasOrganization = true :=
      fun account => hasOrganization_iff.mpr ⟨organization, rfl, hne⟩
    have hmigrate : (Credentials.mk token (some organization) accountId).migrate =
        .ok (ofOrganization token organization) := by
      cases hacc : nonEmpty? accountId <;> simp [migrate, hacc, hhas, ofOrganization]
    rw [hmigrate]
    simp [named?, horg, eq_comm]
  | none =>
    have hhas : ∀ account, (Credentials.mk token organizationId account).hasOrganization = false := by
      intro account
      simp [hasOrganization, horg]
    cases hacc : nonEmpty? accountId with
    | none => simp [migrate, named?, hacc, horg, hhas]
    | some account =>
      have hne := (nonEmpty?_eq_some_iff.mp hacc).2
      have hset : (Credentials.mk token (some account) none).hasOrganization = true :=
        hasOrganization_iff.mpr ⟨account, rfl, hne⟩
      simp [migrate, named?, hacc, horg, hhas, hset, ofOrganization, eq_comm]

theorem migrate_eq (c : Credentials) :
    c.migrate = match c.named? with
      | some organization => .ok (ofOrganization c.accessToken organization)
      | none => .error (.configuration .noOrganization) := by
  have honly : ∀ (migrated : Credentials) (e : StoreError),
      (if migrated.hasOrganization then Except.ok migrated
        else .error (.configuration .noOrganization)) = .error e →
      e = .configuration .noOrganization := by
    intro migrated e h
    split at h
    · contradiction
    · exact (Except.error.inj h).symm
  cases hnamed : c.named? with
  | some organization => exact migrate_eq_ok_iff.mpr ⟨organization, hnamed, rfl⟩
  | none =>
    cases hmigrate : c.migrate with
    | ok migrated =>
      obtain ⟨organization, hsome, -⟩ := migrate_eq_ok_iff.mp hmigrate
      rw [hnamed] at hsome
      contradiction
    | error e => rw [honly _ e hmigrate]

theorem nonEmpty?_eq_none_iff {text : Option String} :
    nonEmpty? text = none ↔ ∀ s, text = some s → s = "" := by
  rw [nonEmpty?, Option.filter_eq_none_iff]
  simp

theorem exists_named?_iff {c : Credentials} :
    (∃ organization, c.named? = some organization) ↔
      (∃ id, c.organizationId = some id ∧ id ≠ "") ∨ ∃ id, c.accountId = some id ∧ id ≠ "" := by
  rw [← Option.isSome_iff_exists, named?, Option.isSome_or, Bool.or_eq_true,
    Option.isSome_iff_exists, Option.isSome_iff_exists]
  simp only [nonEmpty?_eq_some_iff]

theorem ne_empty_of_named? {c : Credentials} {organization : String}
    (h : c.named? = some organization) : organization ≠ "" := by
  rcases Option.or_eq_some_iff.mp h with h | ⟨-, h⟩
  · exact (nonEmpty?_eq_some_iff.mp h).2
  · exact (nonEmpty?_eq_some_iff.mp h).2

theorem migrate_ofOrganization {token organization : String} (h : organization ≠ "") :
    (ofOrganization token organization).migrate = .ok (ofOrganization token organization) := by
  have horganization : nonEmpty? (some organization) = some organization :=
    nonEmpty?_eq_some_iff.mpr ⟨rfl, h⟩
  apply migrate_eq_ok_iff.mpr ⟨organization, ?_, rfl⟩
  simp [named?, ofOrganization, horganization]

/-- Migrated credentials stay as they are. -/
theorem migrate_migrated {c migrated : Credentials} (h : c.migrate = .ok migrated) :
    migrated.migrate = .ok migrated := by
  obtain ⟨organization, hnamed, rfl⟩ := migrate_eq_ok_iff.mp h
  exact migrate_ofOrganization (ne_empty_of_named? hnamed)

end Credentials

namespace Kind

theorem not_isBlankText_resourceName (kind : Kind) : Text.isBlankText kind.resourceName = false := by
  cases kind <;> rfl

theorem hyphenate_ne_empty {name : String} (h : name ≠ "") : hyphenate name ≠ "" := by
  intro hempty
  have hlength := congrArg (fun s : String => s.toList.length) hempty
  simp only [hyphenate, replaceChars, String.toList_ofList, List.length_map] at hlength
  exact h (String.toList_injective (List.length_eq_zero_iff.mp hlength))

end Kind

namespace Settings

theorem nonBlank?_eq_some_iff {text : Option String} {t : String} :
    nonBlank? text = some t ↔ text = some t ∧ Text.isBlankText t = false := by
  rw [nonBlank?, Option.filter_eq_some_iff, Bool.not_eq_true']

theorem not_isBlankText_of_resolve {s : Settings} {kind : Kind} {name : String}
    (h : s.resolve = .ok (kind, name)) : Text.isBlankText name = false := by
  have hgiven : ∀ given, nonBlank? s.resourceName = some given → Text.isBlankText given = false :=
    fun given hgiven => (nonBlank?_eq_some_iff.mp hgiven).2
  rw [resolve] at h
  split at h
  · rename_i hname
    obtain ⟨-, rfl⟩ := Prod.mk.inj (Except.ok.inj h)
    exact hgiven _ hname
  · obtain ⟨-, rfl⟩ := Prod.mk.inj (Except.ok.inj h)
    exact Kind.not_isBlankText_resourceName _
  · rename_i hname
    split at h
    · obtain ⟨-, rfl⟩ := Prod.mk.inj (Except.ok.inj h)
      exact hgiven _ hname
    · cases h
  · cases h

end Settings

namespace Backend

/-- What a backend takes from its settings. -/
structure BuiltFrom (b : Backend) (s : Settings) : Prop where
  resource : s.resolve = .ok (b.kind, b.resourceName)
  credentials : s.credentials.migrate = .ok b.credentials
  base : parseBase s.baseUrl = .ok b.base
  config : b.config = s.snapshot b.kind b.resourceName
  storeId : b.storeId = storeIdOf b.config

theorem ofSettings_eq_ok_iff {s : Settings} {b : Backend} :
    ofSettings s = .ok b ↔ b.BuiltFrom s := by
  rw [ofSettings]
  constructor
  · intro h
    obtain ⟨⟨kind, resourceName⟩, hresource, h⟩ := Except.exists_of_bind_eq_ok h
    obtain ⟨credentials, hcredentials, h⟩ := Except.exists_of_bind_eq_ok h
    obtain ⟨base, hbase, h⟩ := Except.exists_of_bind_eq_ok h
    cases h
    exact ⟨hresource, hcredentials, hbase, rfl, rfl⟩
  · rintro ⟨hresource, hcredentials, hbase, hconfig, hstoreId⟩
    rw [hresource, hcredentials, hbase]
    simp only [bind, Except.bind, ← hconfig, ← hstoreId]

theorem parseBase_eq_ok_iff {raw : String} {base : Url} :
    parseBase raw = .ok base ↔
      ∃ u, Url.Address.parse raw = .ok (.hierarchical u) ∧ base = u.close := by
  rw [parseBase]
  cases Url.Address.parse raw with
  | error fault => simp
  | ok address => cases address <;> simp [eq_comm]

namespace BuiltFrom

variable {b : Backend} {s : Settings}

theorem accessToken_eq (h : b.BuiltFrom s) : b.credentials.accessToken = s.credentials.accessToken := by
  obtain ⟨organization, -, hmigrated⟩ := Credentials.migrate_eq_ok_iff.mp h.credentials
  rw [hmigrated]
  rfl

theorem named?_eq (h : b.BuiltFrom s) : s.credentials.named? = some b.organization := by
  obtain ⟨organization, hnamed, hmigrated⟩ := Credentials.migrate_eq_ok_iff.mp h.credentials
  rw [hnamed, Backend.organization, hmigrated]
  rfl

theorem organization_ne_empty (h : b.BuiltFrom s) : b.organization ≠ "" :=
  Credentials.ne_empty_of_named? h.named?_eq

theorem resourceName_ne_empty (h : b.BuiltFrom s) : b.resourceName ≠ "" := by
  intro hempty
  have hblank := Settings.not_isBlankText_of_resolve h.resource
  rw [hempty] at hblank
  contradiction

theorem hyphenate_resourceName_ne_empty (h : b.BuiltFrom s) : Kind.hyphenate b.resourceName ≠ "" :=
  Kind.hyphenate_ne_empty h.resourceName_ne_empty

end BuiltFrom

end Backend

end RecordStore
