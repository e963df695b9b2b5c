import RecordStore.Proofs.CollectionAddresses
import RecordStore.Proofs.Names

/-! # Collections that are given by name

A plural name stands for a kind if it spells the words of the kind, with blanks at its ends or
without. The blanks are not looked at to find the kind, but they are written into the address: the
collection is that of the kind exactly if all of them are among the characters that are dropped from
addresses. -/

namespace RecordStore

namespace Url.Path

variable {special file : Bool} {path : Path} {s t : String}

/-- A text that becomes one segment on every path: no dots are left of it, and nothing in it can be
taken for a drive letter. -/
structure Literal (s : String) : Prop where
  not_showsDots : ¬ShowsDots s
  not_colon : ':' ∉ s.toList
  not_bar : '|' ∉ s.toList

theorem cutDrive?_of_not_colon {s : List Char} (h : ':' ∉ s) : cutDrive? s = none := by
  rw [cutDrive?]
  split
  · rfl
  · rename_i letter rest hrest
    split
    · rename_i more hmore
      have hcolon : ':' ∈ rest :=
        (List.dropWhile_suffix isDropped).subset (hmore ▸ List.mem_cons_self)
      have hmem : ':' ∈ s :=
        (List.dropWhile_suffix isDropped).subset (hrest ▸ List.mem_cons_of_mem letter hcolon)
      contradiction
    · rfl

theorem withColon_eq_self (hcolon : ':' ∉ s.toList) (hbar : '|' ∉ s.toList) : withColon s = s := by
  rw [withColon, if_neg]
  intro hdrive
  rw [isDriveLetter.eq_def] at hdrive
  split at hdrive
  · rename_i a b hab
    simp only [Bool.and_eq_true, Bool.or_eq_true, decide_eq_true_eq] at hdrive
    rw [hab] at hcolon hbar
    rcases hdrive.2 with rfl | rfl
    · exact hcolon (by simp)
    · exact hbar (by simp)
  · contradiction

theorem not_mem_segmentText {c : Char} (hc : isEscapeSign c = false) (h : c ∉ s.toList) :
    c ∉ (segmentText special s).toList := by
  intro hmem
  rw [segmentText, String.toList_ofList] at hmem
  rcases mem_of_mem_encode hmem with ⟨hshown, -⟩ | hescape
  · exact h (mem_shown hshown)
  · rw [hc] at hescape
    contradiction

theorem Literal.push_root (hs : Literal s) : push special file [""] s = [segmentText special s] := by
  obtain ⟨hhere, hup⟩ := not_or.mp hs.not_showsDots
  have hdot : s ≠ "." := by
    rintro rfl
    exact hhere rfl
  have hdots : s ≠ ".." := by
    rintro rfl
    exact hup rfl
  have hname : meaning (segmentText special s).toList = .name := by
    rw [segmentText, String.toList_ofList, meaning_encode, if_neg hhere, if_neg hup]
  have hcolon : withColon (segmentText special s) = segmentText special s :=
    withColon_eq_self (not_mem_segmentText (by decide) hs.not_colon)
      (not_mem_segmentText (by decide) hs.not_bar)
  rw [push_eq_collapse hdot hdots, if_pos rfl, addText, cutDrive?_of_not_colon hs.not_colon, ite_self]
  change collapse file (add file true [] (segmentText special s)) = _
  rw [add, hname]
  simp only [hcolon, ite_self, List.nil_append]
  exact collapse_cons_eq_self_iff.mpr fun _ _ => rfl

/-- What of a path stays before a text that is added: all of it, unless it is `/`. -/
def front (path : Path) : Path := if path = [""] then [] else path

theorem Literal.push_eq (hs : Literal s) (hcollapsed : collapse file path = path)
    (hpath : path ≠ []) : push special file path s = front path ++ [segmentText special s] := by
  rw [front]
  by_cases hroot : path = [""]
  · rw [hroot, if_pos rfl, hs.push_root]
    rfl
  · rw [if_neg hroot, push_eq_append hs.not_showsDots hcollapsed hpath hroot]

theorem segmentText_eq_iff :
    segmentText special s = segmentText special t ↔ shown s.toList = shown t.toList := by
  constructor
  · intro h
    have hdecoded := decodeText?_segmentText special s
    rw [h, decodeText?_segmentText] at hdecoded
    exact (String.ofList_injective (Option.some.inj hdecoded)).symm
  · intro h
    rw [segmentText, segmentText, h]

theorem shown_append (s t : List Char) : shown (s ++ t) = shown s ++ shown t := List.filter_append ..

end Url.Path

/-! ## Blanks in names -/

namespace Kind

open Url.Path

variable {kind : Kind} {name before words after : String}

theorem ordinary_hyphenate_resourceName (kind : Kind) : Ordinary (hyphenate kind.resourceName) := by
  cases kind <;> decide

theorem shown_hyphenate_eq_nil_iff {s : String} :
    shown (hyphenate s).toList = [] ↔ ∀ c ∈ s.toList, isDropped c = true := by
  have hchar : ∀ c : Char,
      isDropped (if c = '_' ∨ c = ' ' then '-' else c) = isDropped c := by
    intro c
    split
    · next hc => rcases hc with rfl | rfl <;> decide
    · rfl
  simp [shown, hyphenate, toList_replaceChars, List.filter_map, List.filter_eq_nil_iff, hchar]

theorem not_mem_hyphenate {s : String} {c : Char} (hs : ∀ d ∈ s.toList, Text.isBlank d = true)
    (hc : Text.isBlank c = false) (hhyphen : c ≠ '-') : c ∉ (hyphenate s).toList := by
  intro hmem
  rw [hyphenate, toList_replaceChars] at hmem
  obtain ⟨d, hd, hdc⟩ := List.mem_map.mp hmem
  split at hdc
  · exact hhyphen hdc.symm
  · rw [hdc] at hd
    rw [hs c hd] at hc
    contradiction

namespace Spells

variable (h : kind.Spells before words after)
include h

theorem hyphenate_eq : hyphenate (before ++ words ++ after) =
    hyphenate before ++ hyphenate kind.resourceName ++ hyphenate after := by
  rw [hyphenate_append, hyphenate_append, h.hyphenate_words]

theorem shown_hyphenate : shown (hyphenate (before ++ words ++ after)).toList =
    shown (hyphenate before).toList ++ (hyphenate kind.resourceName).toList ++
      shown (hyphenate after).toList := by
  rw [h.hyphenate_eq, String.toList_append, String.toList_append, shown_append, shown_append,
    (ordinary_hyphenate_resourceName kind).shown_eq]

theorem not_mem {c : Char} (hc : Text.isBlank c = false) (hhyphen : c ≠ '-')
    (hkind : c ∉ (hyphenate kind.resourceName).toList) :
    c ∉ (hyphenate (before ++ words ++ after)).toList := by
  rw [h.hyphenate_eq, String.toList_append, String.toList_append, List.mem_append, List.mem_append]
  rintro ((hmem | hmem) | hmem)
  · exact not_mem_hyphenate h.before hc hhyphen hmem
  · exact hkind hmem
  · exact not_mem_hyphenate h.after hc hhyphen hmem

theorem literal : Literal (hyphenate (before ++ words ++ after)) where
  not_showsDots := by
    -- Every plural name has an `s`, which is left of it with blanks or without.
    have hletter : 's' ∈ (hyphenate kind.resourceName).toList := by cases kind <;> decide
    have hmem : 's' ∈ shown (hyphenate (before ++ words ++ after)).toList := by
      rw [h.shown_hyphenate]
      exact List.mem_append_left _ (List.mem_append_right _ hletter)
    rintro (hshown | hshown)
    · rw [hshown] at hmem
      simp at hmem
    · rw [hshown] at hmem
      simp at hmem
  not_colon := h.not_mem (by decide) (by decide) (by cases kind <;> decide)
  not_bar := h.not_mem (by decide) (by decide) (by cases kind <;> decide)

theorem isDropped_of_isBlank_iff :
    (∀ c ∈ (before ++ words ++ after).toList, Text.isBlank c = true → isDropped c = true) ↔
      (∀ c ∈ before.toList, isDropped c = true) ∧ ∀ c ∈ after.toList, isDropped c = true := by
  simp only [String.toList_append, List.mem_append]
  constructor
  · intro hdropped
    exact ⟨fun c hc => hdropped c (.inl (.inl hc)) (h.before c hc),
      fun c hc => hdropped c (.inr hc) (h.after c hc)⟩
  · rintro ⟨hbefore, hafter⟩ c ((hc | hc) | hc) hblank
    · exact hbefore c hc
    · rw [h.not_isBlank c hc] at hblank
      contradiction
    · exact hafter c hc

/-- What is left of the name in an address are the words of the kind exactly if the blanks are among
the characters that are dropped. -/
theorem shown_hyphenate_eq_iff :
    shown (hyphenate (before ++ words ++ after)).toList = (hyphenate kind.resourceName).toList ↔
      ∀ c ∈ (before ++ words ++ after).toList, Text.isBlank c = true → isDropped c = true := by
  rw [h.isDropped_of_isBlank_iff, ← shown_hyphenate_eq_nil_iff, ← shown_hyphenate_eq_nil_iff,
    h.shown_hyphenate]
  constructor
  · intro hwords
    have hlength := congrArg List.length hwords
    simp only [List.length_append] at hlength
    exact ⟨List.length_eq_zero_iff.mp (by omega), List.length_eq_zero_iff.mp (by omega)⟩
  · rintro ⟨hbefore, hafter⟩
    rw [hbefore, hafter, List.nil_append, List.append_nil]

end Spells

theorem literal_hyphenate (h : ofResourceName? name = some kind) : Literal (hyphenate name) := by
  obtain ⟨before, words, after, rfl, hspells⟩ := exists_spells h
  exact hspells.literal

theorem segmentText_hyphenate_eq_iff {special : Bool} (h : ofResourceName? name = some kind) :
    segmentText special (hyphenate name) = segmentText special (hyphenate kind.resourceName) ↔
      ∀ c ∈ name.toList, Text.isBlank c = true → isDropped c = true := by
  obtain ⟨before, words, after, rfl, hspells⟩ := exists_spells h
  rw [segmentText_eq_iff, (ordinary_hyphenate_resourceName kind).shown_eq,
    hspells.shown_hyphenate_eq_iff]

end Kind

/-! ## Backends of a name and of a kind -/

namespace Settings

variable {s : Settings} {kind : Kind} {name resource : String}

theorem resolve_withKind (hname : s.resourceName = none) (kind : Kind) :
    (s.withKind kind).resolve = .ok (kind, kind.resourceName) := by
  simp only [resolve, withKind, hname, nonBlank?, Option.filter_none]

theorem resolve_withResourceName (hkind : s.kind = none)
    (h : (s.withResourceName name).resolve = .ok (kind, resource)) :
    resource = name ∧ Kind.ofResourceName? name = some kind := by
  simp only [resolve, withResourceName, hkind] at h
  cases hgiven : nonBlank? (some name) with
  | none =>
    simp only [hgiven] at h
    cases h
  | some given =>
    obtain ⟨hname, -⟩ := nonBlank?_eq_some_iff.mp hgiven
    cases hname
    simp only [hgiven] at h
    cases hfound : Kind.ofResourceName? name with
    | none =>
      simp only [hfound] at h
      cases h
    | some found =>
      simp only [hfound] at h
      cases h
      exact ⟨rfl, rfl⟩

end Settings

namespace Backend

variable {b b' : Backend} {s s' : Settings}

/-- Backends that differ in the name of the resource at most, as far as addresses go. -/
structure Siblings (b b' : Backend) : Prop where
  base : b.base = b'.base
  credentials : b.credentials = b'.credentials
  kind : b.kind = b'.kind

theorem Siblings.keyUrl_eq (h : b.Siblings b') (hurl : b.collectionUrl = b'.collectionUrl)
    (key : Key) : b.keyUrl key = b'.keyUrl key := by
  simp only [keyUrl, checkKind, itemUrl, h.kind, hurl]

def organizationPath (b : Backend) : Url.Path :=
  Url.Path.push b.base.kind.isSpecial b.base.kind.isFile b.organizationsPath b.organization

theorem BuiltFrom.path_collectionUrl_of_literal (h : b.BuiltFrom s)
    (hname : Url.Path.Literal (Kind.hyphenate b.resourceName)) :
    b.collectionUrl.path = b.organizationPath.front ++
      [Url.Path.segmentText b.base.kind.isSpecial (Kind.hyphenate b.resourceName)] := by
  have hne : b.organizationsPath ≠ [] := Url.Path.append_organizations_ne_nil
  rw [h.path_collectionUrl]
  exact hname.push_eq (Url.Path.collapse_push h.collapse_organizationsPath)
    (Url.Path.push_ne_nil hne)

theorem Siblings.organizationPath_eq (h : b.Siblings b') :
    b.organizationPath = b'.organizationPath := by
  simp only [organizationPath, organizationsPath, organization, h.base, h.credentials]

theorem collectionUrl_eq (b : Backend) :
    b.collectionUrl = { b.base with path := b.collectionUrl.path } := by
  rw [collectionUrl, Url.extend]

theorem text_collectionUrl (b : Backend) :
    b.collectionUrl.text = b.base.origin ++ b.collectionUrl.path.text ++ b.base.suffix := by
  rw [collectionUrl, Url.extend, Url.text]
  rfl

theorem Siblings.collectionUrl_eq_of_path (h : b.Siblings b')
    (hpath : b.collectionUrl.path = b'.collectionUrl.path) : b.collectionUrl = b'.collectionUrl := by
  rw [b.collectionUrl_eq, b'.collectionUrl_eq, hpath, h.base]

theorem Siblings.text_path_eq (h : b.Siblings b')
    (htext : b.collectionUrl.text = b'.collectionUrl.text) :
    b.collectionUrl.path.text = b'.collectionUrl.path.text := by
  rw [text_collectionUrl, text_collectionUrl, h.base] at htext
  exact (String.append_right_inj _).mp ((String.append_left_inj _).mp htext)

/-- Where both names become one segment, the addresses of all keys are the same exactly if the
segments are. -/
theorem Siblings.keyUrl_eq_iff (h : b.Siblings b') (hb : b.BuiltFrom s) (hb' : b'.BuiltFrom s')
    (hname : Url.Path.Literal (Kind.hyphenate b.resourceName))
    (hname' : Url.Path.Literal (Kind.hyphenate b'.resourceName)) :
    (∀ key, (b.keyUrl key).map Url.text = (b'.keyUrl key).map Url.text) ↔
      Url.Path.segmentText b'.base.kind.isSpecial (Kind.hyphenate b.resourceName) =
        Url.Path.segmentText b'.base.kind.isSpecial (Kind.hyphenate b'.resourceName) := by
  have hpath := hb.path_collectionUrl_of_literal hname
  have hpath' := hb'.path_collectionUrl_of_literal hname'
  rw [h.organizationPath_eq, h.base] at hpath
  constructor
  · intro hkeys
    have hcollection := hkeys (.unaddressed b.kind)
    have hkind : (Key.unaddressed b.kind).kind = b'.kind := h.kind
    rw [keyUrl_eq_urlOf rfl, keyUrl_eq_urlOf hkind] at hcollection
    have htext := h.text_path_eq (Except.ok.inj hcollection)
    rw [hpath, hpath', Url.Path.text_append, Url.Path.text_append, Url.Path.text_singleton,
      Url.Path.text_singleton] at htext
    exact (String.append_right_inj _).mp ((String.append_right_inj _).mp htext)
  · intro hsegment key
    rw [hsegment, ← hpath'] at hpath
    rw [h.keyUrl_eq (h.collectionUrl_eq_of_path hpath)]

/-- Settings that name a resource and settings of its kind are refused alike. -/
theorem ofSettings_eq_error_iff_of_resolve {resource resource' : Kind × String} {e : StoreError}
    (hresolve : s.resolve = .ok resource) (hresolve' : s'.resolve = .ok resource')
    (hcredentials : s.credentials = s'.credentials) (hbase : s.baseUrl = s'.baseUrl) :
    ofSettings s = .error e ↔ ofSettings s' = .error e := by
  rw [ofSettings, ofSettings, hresolve, hresolve', hcredentials, hbase]
  cases s'.credentials.migrate with
  | error e' => exact Iff.rfl
  | ok credentials =>
    cases parseBase s'.baseUrl with
    | error e' => exact Iff.rfl
    | ok base => constructor <;> intro h <;> contradiction

/-- A name that is accepted in place of a kind leads to a backend if the kind does, and is refused
for the same errors otherwise. The backends of both have the same addresses for all keys exactly if
every blank in the name is among the characters that are dropped from addresses, as it is where the
name has no blanks. -/
theorem named_addresses_as_its_kind_iff {s : Settings} {kind : Kind} {name resource : String}
    (hkind : s.kind = none) (hname : s.resourceName = none)
    (hresolve : (s.withResourceName name).resolve = .ok (kind, resource)) :
    (∀ e, ofSettings (s.withResourceName name) = .error e ↔
      ofSettings (s.withKind kind) = .error e) ∧
    ∀ b b', ofSettings (s.withResourceName name) = .ok b → ofSettings (s.withKind kind) = .ok b' →
      ((∀ key, (b.keyUrl key).map Url.text = (b'.keyUrl key).map Url.text) ↔
        ∀ c ∈ name.toList, Text.isBlank c = true → Url.Path.isDropped c = true) := by
  obtain ⟨rfl, hfound⟩ := Settings.resolve_withResourceName hkind hresolve
  have hresolve' := Settings.resolve_withKind hname kind
  refine ⟨fun e => ofSettings_eq_error_iff_of_resolve hresolve hresolve' rfl rfl, ?_⟩
  intro b b' hb hb'
  have hbuilt := ofSettings_eq_ok_iff.mp hb
  have hbuilt' := ofSettings_eq_ok_iff.mp hb'
  obtain ⟨hbkind, hbname⟩ := Prod.mk.inj (Except.ok.inj (hbuilt.resource.symm.trans hresolve))
  obtain ⟨hbkind', hbname'⟩ := Prod.mk.inj (Except.ok.inj (hbuilt'.resource.symm.trans hresolve'))
  have hsiblings : b.Siblings b' :=
    ⟨Except.ok.inj (hbuilt.base.symm.trans hbuilt'.base),
      Except.ok.inj (hbuilt.credentials.symm.trans hbuilt'.credentials), hbkind.trans hbkind'.symm⟩
  have hliteral : Url.Path.Literal (Kind.hyphenate b.resourceName) := by
    rw [hbname]
    exact Kind.literal_hyphenate hfound
  have hliteral' : Url.Path.Literal (Kind.hyphenate b'.resourceName) := by
    rw [hbname']
    exact Kind.literal_hyphenate (Kind.ofResourceName?_resourceName kind)
  rw [hsiblings.keyUrl_eq_iff hbuilt hbuilt' hliteral hliteral', hbname, hbname',
    Kind.segmentText_hyphenate_eq_iff hfound]

def unnamedSettings : Settings :=
  (Settings.ofCredentials (.ofOrganization "token-1" "org-1")).withBaseUrl
    "https://cloud.example.test/"

def sampleNamed (kind : Kind) (name : String) : Backend :=
  { sample with
    kind := kind
    resourceName := name
    config := unnamedSettings.snapshot kind name }

/-- Hyphens are read as separators, and a tab and a line end at the ends of the name are dropped. -/
theorem tabbed_name_addresses_its_kind :
    (unnamedSettings.withResourceName "\tdata-contexts\n").resolve =
      .ok (.dataContext, "\tdata-contexts\n") ∧
    ofSettings (unnamedSettings.withResourceName "\tdata-contexts\n") =
      .ok (sampleNamed .dataContext "\tdata-contexts\n") ∧
    ofSettings (unnamedSettings.withKind .dataContext) =
      .ok (sampleNamed .dataContext "data_contexts") ∧
    ∀ key, ((sampleNamed .dataContext "\tdata-contexts\n").keyUrl key).map Url.text =
      ((sampleNamed .dataContext "data_contexts").keyUrl key).map Url.text := by
  have hresolve : (unnamedSettings.withResourceName "\tdata-contexts\n").resolve =
      .ok (.dataContext, "\tdata-contexts\n") := by cbv
  have hnamed : ofSettings (unnamedSettings.withResourceName "\tdata-contexts\n") =
      .ok (sampleNamed .dataContext "\tdata-contexts\n") :=
    ofSettings_beside_sample rfl rfl hresolve
  have hkind : ofSettings (unnamedSettings.withKind .dataContext) =
      .ok (sampleNamed .dataContext "data_contexts") := ofSettings_beside_sample rfl rfl rfl
  have hdropped : ("\tdata-contexts\n".toList.all fun c =>
      !Text.isBlank c || Url.Path.isDropped c) = true := by decide
  obtain ⟨-, hsame⟩ := named_addresses_as_its_kind_iff rfl rfl hresolve
  refine ⟨hresolve, hnamed, hkind, (hsame _ _ hnamed hkind).mpr ?_⟩
  intro c hc hblank
  simpa [hblank] using List.all_eq_true.mp hdropped c hc

/-- Spaces at the ends of the name are not looked at to find the kind, and stand in the address as
hyphens: the backend addresses a collection beside that of its kind. -/
theorem spaces_name_another_collection :
    (unnamedSettings.withResourceName " checkpoints ").resolve =
      .ok (.checkpoint, " checkpoints ") ∧
    ofSettings (unnamedSettings.withResourceName " checkpoints ") =
      .ok (sampleNamed .checkpoint " checkpoints ") ∧
    ofSettings (unnamedSettings.withKind .checkpoint) = .ok (sampleNamed .checkpoint "checkpoints") ∧
    ((sampleNamed .checkpoint " checkpoints ").keyUrl (.unaddressed .checkpoint)).map Url.text =
      .ok "https://cloud.example.test/organizations/org-1/-checkpoints-" ∧
    ¬∀ key, ((sampleNamed .checkpoint " checkpoints ").keyUrl key).map Url.text =
      ((sampleNamed .checkpoint "checkpoints").keyUrl key).map Url.text := by
  have hurl : (sampleNamed .checkpoint " checkpoints ").keyUrl (.unaddressed .checkpoint) =
      .ok { sample.base with path := ["organizations", "org-1", "-checkpoints-"] } := rfl
  have hurl' : (sampleNamed .checkpoint "checkpoints").keyUrl (.unaddressed .checkpoint) =
      .ok { sample.base with path := ["organizations", "org-1", "checkpoints"] } := rfl
  have hresolve : (unnamedSettings.withResourceName " checkpoints ").resolve =
      .ok (.checkpoint, " checkpoints ") := by cbv
  refine ⟨hresolve, ofSettings_beside_sample rfl rfl hresolve, ofSettings_beside_sample rfl rfl rfl,
    ?_, fun hsame => ?_⟩
  · rw [hurl]
    rfl
  · have hcollection := hsame (.unaddressed .checkpoint)
    rw [hurl, hurl'] at hcollection
    exact absurd (Except.ok.inj hcollection) (by decide)

end Backend

end RecordStore
