import RecordStore.Proofs.CollectionAddresses

/-! # The path of the base

The path that was read for the base, with a slash at its end, stands before everything that is sent.
There are two exceptions: the path `//` loses a slash when segments are added to it, and on `file`
URLs a path without a slash at its end is read anew to get one. -/

namespace RecordStore

open Session (Call)

namespace Url

/-- The path of the URL stays in front of what is added once it is closed. -/
structure KeepsPath (u : Url) : Prop where
  ne_slashes : Path.withSlash u.path.text ≠ "//"
  rereads : u.path.endsWithSlash = false → Path.Rereads u.kind.isFile u.path

variable {u : Url} (hsound : u.IsSound)

include hsound

theorem keepsPath_iff_stem :
    u.KeepsPath ↔ Path.stem u.close.path = (Path.slashed u.path).dropLast := by
  rw [close, Path.Sound.stem_close_iff hsound, ne_eq, ← Path.Sound.withSlash_eq_slashes_iff hsound]
  exact ⟨fun h => ⟨h.ne_slashes, h.rereads⟩, fun h => ⟨h.1, h.2⟩⟩

/-- Only `//` is not kept where the scheme is another than `file`. -/
theorem keepsPath_iff_of_not_isFile (hfile : u.kind.isFile = false) :
    u.KeepsPath ↔ Path.withSlash u.path.text ≠ "//" :=
  ⟨fun h => h.ne_slashes, fun h => ⟨h, fun _ => Path.Sound.rereads hsound hfile⟩⟩

end Url

namespace Backend

variable {b : Backend} {s : Settings}

/-- What is added to a closed URL comes behind its path exactly if the path is kept. -/
theorem HasOrdinaryNames.text_path_collectionUrl_iff (hnames : b.HasOrdinaryNames)
    (h : b.BuiltFrom s) {u : Url} (hsound : u.IsSound) (hbase : b.base = u.close) :
    b.collectionUrl.path.text = Url.Path.withSlash u.path.text ++ b.collectionText ↔
      u.KeepsPath := by
  rw [hnames.text_path_collectionUrl h, hbase, Url.keepsPath_iff_stem hsound,
    ← Url.Path.text_slashed hsound.not_slash,
    ← Url.Path.text_of_endsWithSlash (Url.Path.endsWithSlash_slashed u.path), String.append_left_inj,
    String.append_left_inj]
  constructor
  · intro htext
    apply Url.Path.text_injective hsound.close.not_slash_stem _ htext
    exact fun segment hsegment =>
      hsound.not_slash_slashed segment (List.mem_of_mem_dropLast hsegment)
  · exact congrArg Url.Path.text

/-- The path of the base is followed by the organization and the resource exactly if it is kept;
then the same is so for whatever is sent about ordinary identifiers. -/
theorem collectionUrl_behind_base_iff (hb : ofSettings s = .ok b) (hnames : b.HasOrdinaryNames) :
    ∃ u, Url.Address.parse s.baseUrl = .ok (.hierarchical u) ∧
      (b.collectionUrl.path.text = Url.Path.withSlash u.path.text ++ b.collectionText ↔
        u.KeepsPath) ∧
      (u.kind.isFile = false → (u.KeepsPath ↔ Url.Path.withSlash u.path.text ≠ "//")) ∧
      (u.KeepsPath → ∀ call : Call Key,
        (∀ id, call.target? = some id → Url.Path.Ordinary id) →
        ∀ request ∈ (call.perform b).requests,
          request.url.path.text =
            Url.Path.withSlash u.path.text ++ b.collectionText ++ b.recordText call.target?) := by
  have hbuilt := ofSettings_eq_ok_iff.mp hb
  obtain ⟨u, hread, hbase⟩ := parseBase_eq_ok_iff.mp hbuilt.base
  have hsound := Url.isSound_of_parse hread
  have hcollection := hnames.text_path_collectionUrl_iff hbuilt hsound hbase
  refine ⟨u, hread, hcollection, Url.keepsPath_iff_of_not_isFile hsound, ?_⟩
  intro hkeeps call hid request hmem
  obtain ⟨path, hurl, hpath⟩ := hnames.urlOf_eq hbuilt hid
  have hsent := urlOf_of_mem_requests hmem
  rw [hurl] at hsent
  rw [← hcollection.mpr hkeeps, ← hpath, ← Except.ok.inj hsent]

/-- The sample with another address, whose path is `path` once it is closed. -/
def sampleAt (baseUrl : String) (path : Url.Path) : Backend :=
  { sample with
    base := { sample.base with path := path }
    config := (sampleSettings.withBaseUrl baseUrl).snapshot .checkpoint "checkpoints" }

/-- A base without slash at its end keeps its path. -/
theorem version_stays_before_the_collection :
    ofSettings (sampleSettings.withBaseUrl "https://cloud.example.test/v1") =
      .ok (sampleAt "https://cloud.example.test/v1" ["v1", ""]) ∧
    (sampleAt "https://cloud.example.test/v1" ["v1", ""]).HasOrdinaryNames ∧
    ∃ u, Url.Address.parse "https://cloud.example.test/v1" = .ok (.hierarchical u) ∧ u.KeepsPath := by
  have hb : ofSettings (sampleSettings.withBaseUrl "https://cloud.example.test/v1") =
      .ok (sampleAt "https://cloud.example.test/v1" ["v1", ""]) := by cbv
  have hnames : (sampleAt "https://cloud.example.test/v1" ["v1", ""]).HasOrdinaryNames :=
    ⟨by decide, by decide⟩
  refine ⟨hb, hnames, ?_⟩
  obtain ⟨u, hread, hbehind, -, -⟩ := collectionUrl_behind_base_iff hb hnames
  refine ⟨u, hread, hbehind.mp ?_⟩
  cases hread
  decide

/-- The path `//` loses a slash: its first segment is empty, and adding to it what comes behind the
second slash starts the path anew. -/
theorem slashes_lose_one :
    ofSettings (sampleSettings.withBaseUrl "https://cloud.example.test//") =
      .ok (sampleAt "https://cloud.example.test//" ["", ""]) ∧
    (sampleAt "https://cloud.example.test//" ["", ""]).collectionUrl.text =
      "https://cloud.example.test/organizations/org-1/checkpoints" ∧
    ∃ u, Url.Address.parse "https://cloud.example.test//" = .ok (.hierarchical u) ∧
      u.path.text = "//" ∧
      (sampleAt "https://cloud.example.test//" ["", ""]).collectionUrl.path.text ≠
        "//" ++ (sampleAt "https://cloud.example.test//" ["", ""]).collectionText := by
  refine ⟨by cbv, by decide, ?_⟩
  exact ⟨_, rfl, rfl, by decide⟩

end Backend

end RecordStore
