import RecordStore.Proofs.Construction
import RecordStore.Proofs.RecordAddresses

/-! # Credentials of the older form

An account is the older name of an organization. Credentials that name one can be migrated before a
backend is built or while it is built; nothing that the backend does tells the two apart. -/

namespace RecordStore

open Session (Call KeyRef Memory)

namespace Credentials

variable {c migrated : Credentials}

theorem migrate_eq_error_iff :
    (∃ e, c.migrate = .error e) ↔
      ¬((∃ id, c.organizationId = some id ∧ id ≠ "") ∨ ∃ id, c.accountId = some id ∧ id ≠ "") := by
  rw [← exists_named?_iff, migrate_eq]
  cases c.named? <;> simp

/-- What migration leaves: the token and the organization, which is the account where no other is
named. -/
theorem migrate_organizationId (h : c.migrate = .ok migrated) :
    (∀ id, c.organizationId = some id → id ≠ "" → migrated.organizationId = some id) ∧
      ((∀ id, c.organizationId = some id → id = "") → migrated.organizationId = c.accountId) := by
  obtain ⟨organization, hnamed, rfl⟩ := migrate_eq_ok_iff.mp h
  have hcases := Option.or_eq_some_iff.mp hnamed
  constructor
  · intro id hid hne
    have hgiven : nonEmpty? c.organizationId = some id := nonEmpty?_eq_some_iff.mpr ⟨hid, hne⟩
    rcases hcases with horganization | ⟨hnone, -⟩
    · rw [hgiven] at horganization
      exact horganization.symm
    · rw [hgiven] at hnone
      contradiction
  · intro hempty
    have hnone : nonEmpty? c.organizationId = none := nonEmpty?_eq_none_iff.mpr hempty
    rcases hcases with horganization | ⟨-, haccount⟩
    · rw [hnone] at horganization
      contradiction
    · exact (nonEmpty?_eq_some_iff.mp haccount).1.symm

end Credentials

namespace Backend

variable {c migrated : Credentials}

theorem ofSettings_migrated (h : c.migrate = .ok migrated) (s : Settings) :
    ofSettings { s with credentials := c } = ofSettings { s with credentials := migrated } := by
  have hmigrated := Credentials.migrate_migrated h
  have hresolve :
      ({ s with credentials := c } : Settings).resolve =
        ({ s with credentials := migrated } : Settings).resolve := rfl
  simp only [ofSettings, hresolve, h, hmigrated]
  rfl

/-- Migration fails exactly for credentials that name neither an organization nor an account.
Otherwise it keeps the token and the organization, for which an account stands in, and nothing else;
to migrate again changes nothing. Backends of the credentials before and after are built alike,
report the same configuration, and come to the same in every call and every session. -/
theorem legacy_credentials_interchangeable (c : Credentials) :
    ((∃ e, c.migrate = .error e) ↔
      ¬((∃ id, c.organizationId = some id ∧ id ≠ "") ∨ ∃ id, c.accountId = some id ∧ id ≠ "")) ∧
    ∀ migrated, c.migrate = .ok migrated →
      migrated.accessToken = c.accessToken ∧ migrated.accountId = none ∧
      (∀ id, c.organizationId = some id → id ≠ "" → migrated.organizationId = some id) ∧
      ((∀ id, c.organizationId = some id → id = "") → migrated.organizationId = c.accountId) ∧
      migrated.migrate = .ok migrated ∧
      ∀ s : Settings,
        ofSettings { s with credentials := c } = ofSettings { s with credentials := migrated } ∧
        ∀ b b', ofSettings { s with credentials := c } = .ok b →
          ofSettings { s with credentials := migrated } = .ok b' →
          b.config = b'.config ∧ ∀ {σ : Type} (t : Transport σ),
            (∀ (call : Call Key) state,
              (call.perform b).run t state = (call.perform b').run t state) ∧
            ∀ m state (calls : List (Call KeyRef)),
              Session.run b t m state calls = Session.run b' t m state calls := by
  refine ⟨Credentials.migrate_eq_error_iff, fun migrated h => ?_⟩
  obtain ⟨hnewer, holder⟩ := Credentials.migrate_organizationId h
  obtain ⟨organization, -, hmigrated⟩ := Credentials.migrate_eq_ok_iff.mp h
  have htoken : migrated.accessToken = c.accessToken := by rw [hmigrated]; rfl
  have haccount : migrated.accountId = none := by rw [hmigrated]; rfl
  refine ⟨htoken, haccount, hnewer, holder, Credentials.migrate_migrated h, fun s => ?_⟩
  have hbuilt := ofSettings_migrated h s
  refine ⟨hbuilt, fun b b' hb hb' => ?_⟩
  rw [hbuilt, hb'] at hb
  cases hb
  exact ⟨rfl, fun t => ⟨fun call state => rfl, fun m state calls => rfl⟩⟩

/-- An account leads to the backend of the organization. -/
theorem account_builds_sample :
    (Credentials.ofAccount "token-1" "org-1").migrate = .ok (.ofOrganization "token-1" "org-1") ∧
    ofSettings { sampleSettings with credentials := .ofAccount "token-1" "org-1" } = .ok sample ∧
    (Credentials.ofOrganization "token-1" "org-1").migrate =
      .ok (.ofOrganization "token-1" "org-1") := by
  have hmigrate : (Credentials.ofAccount "token-1" "org-1").migrate =
      .ok (.ofOrganization "token-1" "org-1") := rfl
  obtain ⟨-, hlegacy⟩ := legacy_credentials_interchangeable (.ofAccount "token-1" "org-1")
  obtain ⟨-, -, -, -, hagain, hbackends⟩ := hlegacy _ hmigrate
  obtain ⟨hbuilt, -⟩ := hbackends sampleSettings
  exact ⟨hmigrate, hbuilt.trans ofSettings_sampleSettings, hagain⟩

end Backend

end RecordStore
