import RecordStore.Proofs.Calls.Protocol
import RecordStore.Proofs.Url.Closing

/-! # The addresses of collections

The collection lies three segments below the base: one that says `organizations`, one for the
organization and one for the resource. The last two are there exactly if both texts are ordinary.
Then different keys have different addresses, unless their identifiers are not ordinary. -/

namespace RecordStore

open Session (Call)

/-- The path ends with segments that stand for the organization and the resource, behind the one for
all organizations. -/
def Url.IsCollectionOf (u : Url) (organization resource : String) : Prop :=
  ∃ front segment segment', u.path = front ++ ["organizations", segment, segment'] ∧
    decodeText? segment.toList = some organization ∧ decodeText? segment'.toList = some resource

namespace Url.Path

variable {special file : Bool} {front more : Path} {organization name segment segment' : String}

theorem append_organizations_ne_nil : front ++ ["organizations"] ≠ [] :=
  List.append_ne_nil_of_right_ne_nil front (by simp)

theorem append_organizations_ne_root : front ++ ["organizations"] ≠ [""] := by
  intro h
  have hlast := congrArg List.getLast? h
  rw [List.getLast?_concat] at hlast
  contradiction

theorem ordinary_organizations : Ordinary "organizations" := by decide

theorem decodeText?_organizations :
    decodeText? ("organizations" : String).toList = some "organizations" := by
  have hsegment : segmentText false "organizations" = "organizations" := rfl
  have hdecodes :=
    (decodeText?_segmentText_eq_iff false "organizations").mpr ordinary_organizations.kept
  rwa [hsegment] at hdecodes

theorem text_organizations (organization name : String) :
    text ["organizations", organization, name] =
      "/" ++ ("organizations/" ++ organization ++ "/" ++ name) := by
  have hslash : "organizations/" = "organizations" ++ "/" := rfl
  rw [text_cons, text_cons, text_singleton, hslash]
  simp only [String.append_assoc]

/-- Two texts that are added one after the other give segments for themselves only if both are
ordinary. -/
theorem ordinary_of_push_push
    (hcollapsed : collapse file (front ++ ["organizations"]) = front ++ ["organizations"])
    (horganization : organization ≠ "") (hname : name ≠ "")
    (hpush : push special file (push special file (front ++ ["organizations"]) organization) name =
      more ++ ["organizations", segment, segment'])
    (hsegment : decodeText? segment.toList = some organization)
    (hsegment' : decodeText? segment'.toList = some name) :
    Ordinary organization ∧ Ordinary name := by
  have hpath := @append_organizations_ne_nil front
  have hlast : (front ++ ["organizations"]).getLast? = some "organizations" := List.getLast?_concat
  have hordinary : ∀ x meant,
      (push special file (front ++ ["organizations"]) organization).getLast? = some x →
      decodeText? x.toList = some meant → meant ≠ "" →
      meant ≠ "." ∧ meant ≠ ".." ∧ (meant = organization → Ordinary organization) := by
    intro x meant hx hmeant hne
    exact ordinary_of_getLast?_push hcollapsed hpath append_organizations_ne_root hlast
      decodeText?_organizations ordinary_organizations hx hmeant hne
  generalize hnext : push special file (front ++ ["organizations"]) organization = next at *
  have hroot : next ≠ [""] := by
    rintro rfl
    have hle := @length_push_root_le special file name
    rw [hpush, List.length_append] at hle
    simp at hle
  have hne : next ≠ [] := hnext ▸ push_ne_nil hpath
  have hnextCollapsed : collapse file next = next := by
    rw [← hnext]
    exact collapse_push hcollapsed
  rcases push_cases hnextCollapsed hne hroot special name with
    ⟨hdots, hstays⟩ | hslash | ⟨hshows, happend⟩
  · -- The last segment stands for the organization then, and not for dots.
    have hx : next.getLast? = some segment' := by
      rw [← hstays, hpush]
      simp
    obtain ⟨hdot, hdots', -⟩ := hordinary segment' name hx hsegment' hname
    exact absurd hdots (not_or.mpr ⟨hdot, hdots'⟩)
  · have hempty : segment' = "" := by simpa [hpush] using hslash
    rw [hempty, decodeText?_empty] at hsegment'
    exact absurd (Option.some.inj hsegment').symm hname
  · rw [happend] at hpush
    have hsplit : next ++ [segmentText special name] =
        (more ++ ["organizations", segment]) ++ [segment'] := by
      rw [hpush]
      simp
    obtain ⟨hfront, hend⟩ := List.append_inj' hsplit rfl
    have hx : next.getLast? = some segment := by
      rw [hfront]
      simp
    refine ⟨(hordinary segment organization hx hsegment horganization).2.2 rfl, ?_⟩
    exact ordinary_of_decodeText? hshows (List.singleton_inj.mp hend ▸ hsegment')

end Url.Path

namespace Backend

variable {b : Backend} {s : Settings}

/-! ## From the base to the collection -/

theorem BuiltFrom.endsWithSlash_base (h : b.BuiltFrom s) :
    Url.Path.endsWithSlash b.base.path = true := by
  obtain ⟨u, -, hbase⟩ := parseBase_eq_ok_iff.mp h.base
  rw [hbase]
  exact Url.Path.endsWithSlash_close _ _

theorem BuiltFrom.collapse_base (h : b.BuiltFrom s) :
    Url.Path.collapse b.base.kind.isFile b.base.path = b.base.path := by
  obtain ⟨u, hread, hbase⟩ := parseBase_eq_ok_iff.mp h.base
  rw [hbase]
  exact (Url.isSound_of_parse hread).close.collapsed

def segment (b : Backend) (s : String) : String := Url.Path.encoded b.base.kind.isSpecial s

def organizationsPath (b : Backend) : Url.Path := Url.Path.stem b.base.path ++ ["organizations"]

theorem BuiltFrom.push_organizations (h : b.BuiltFrom s) :
    Url.Path.push b.base.kind.isSpecial b.base.kind.isFile b.base.path.openEnd "organizations" =
      b.organizationsPath :=
  Url.Path.push_organizations h.endsWithSlash_base h.collapse_base

theorem BuiltFrom.collapse_organizationsPath (h : b.BuiltFrom s) :
    Url.Path.collapse b.base.kind.isFile b.organizationsPath = b.organizationsPath := by
  rw [← h.push_organizations, Url.Path.push_eq_collapse (by decide) (by decide),
    Url.Path.collapse_collapse]

theorem BuiltFrom.path_collectionUrl (h : b.BuiltFrom s) :
    b.collectionUrl.path =
      Url.Path.push b.base.kind.isSpecial b.base.kind.isFile
        (Url.Path.push b.base.kind.isSpecial b.base.kind.isFile b.organizationsPath b.organization)
        (Kind.hyphenate b.resourceName) := by
  rw [← h.push_organizations]
  rfl

/-- What names the collection consists of ordinary texts. -/
structure HasOrdinaryNames (b : Backend) : Prop where
  organization : Url.Path.Ordinary b.organization
  resource : Url.Path.Ordinary (Kind.hyphenate b.resourceName)

/-- Ordinary texts become the last two segments. -/
theorem HasOrdinaryNames.path_collectionUrl (hnames : b.HasOrdinaryNames) (h : b.BuiltFrom s) :
    b.collectionUrl.path = Url.Path.stem b.base.path ++
      ["organizations", b.segment b.organization, b.segment (Kind.hyphenate b.resourceName)] := by
  have hcollapsed := h.collapse_organizationsPath
  have hne : b.organizationsPath ≠ [] := Url.Path.append_organizations_ne_nil
  have hroot : b.organizationsPath ≠ [""] := Url.Path.append_organizations_ne_root
  have hnext : b.organizationsPath ++ [b.segment b.organization] ≠ [""] := by
    intro hempty
    have hdrop := congrArg List.dropLast hempty
    rw [List.dropLast_concat] at hdrop
    exact hne hdrop
  have horganization : Url.Path.push b.base.kind.isSpecial b.base.kind.isFile b.organizationsPath
      b.organization = b.organizationsPath ++ [b.segment b.organization] :=
    hnames.organization.push_eq hcollapsed hne hroot
  rw [h.path_collectionUrl, horganization,
    hnames.resource.push_eq (Url.Path.collapse_append hcollapsed hne hroot _) (by simp) hnext,
    organizationsPath]
  simp [segment]

theorem HasOrdinaryNames.isCollectionOf (hnames : b.HasOrdinaryNames) (h : b.BuiltFrom s) :
    b.collectionUrl.IsCollectionOf b.organization (Kind.hyphenate b.resourceName) := by
  refine ⟨_, _, _, hnames.path_collectionUrl h, ?_, ?_⟩
  · rw [segment, ← hnames.organization.segmentText_eq]
    exact (Url.Path.decodeText?_segmentText_eq_iff _ _).mpr hnames.organization.kept
  · rw [segment, ← hnames.resource.segmentText_eq]
    exact (Url.Path.decodeText?_segmentText_eq_iff _ _).mpr hnames.resource.kept

/-- Only ordinary texts name a collection. -/
theorem BuiltFrom.isCollectionOf_iff (h : b.BuiltFrom s) :
    b.collectionUrl.IsCollectionOf b.organization (Kind.hyphenate b.resourceName) ↔
      b.HasOrdinaryNames := by
  constructor
  · rintro ⟨more, segment, segment', hpath, hsegment, hsegment'⟩
    rw [h.path_collectionUrl] at hpath
    obtain ⟨horganization, hresource⟩ := Url.Path.ordinary_of_push_push h.collapse_organizationsPath
      h.organization_ne_empty h.hyphenate_resourceName_ne_empty hpath hsegment hsegment'
    exact ⟨horganization, hresource⟩
  · exact fun hnames => hnames.isCollectionOf h

/-! ## Below the collection -/

theorem isItemOf_of_itemUrl {id : String} {u : Url} (hid : id ≠ "")
    (hkept : ∀ c ∈ id.toList, Url.Path.isDropped c = false) (hroot : b.collectionUrl.path ≠ [""])
    (h : b.itemUrl id = .ok u) : u.IsItemOf b.collectionUrl id := by
  have hitem := (itemUrl_refused_or_isItemOf_iff b hid).mpr (.inr (.inr ⟨hroot, hkept⟩))
  rw [h] at hitem
  rcases hitem with hrefused | ⟨u', hok, hitem⟩
  · contradiction
  · cases hok
    exact hitem

def collectionText (b : Backend) : String :=
  "organizations/" ++ b.segment b.organization ++ "/" ++ b.segment (Kind.hyphenate b.resourceName)

def recordText (b : Backend) : Option String → String
  | some id => "/" ++ b.segment id
  | none => ""

theorem recordText_injective (b : Backend) : Function.Injective b.recordText := by
  intro id? id?' h
  cases id? with
  | none =>
    cases id?' with
    | none => rfl
    | some id' => simp [recordText] at h
  | some id =>
    cases id?' with
    | none => simp [recordText] at h
    | some id' => rw [Url.Path.encoded_injective _ ((String.append_right_inj "/").mp h)]

theorem HasOrdinaryNames.text_path_collectionUrl (hnames : b.HasOrdinaryNames) (h : b.BuiltFrom s) :
    b.collectionUrl.path.text = (Url.Path.stem b.base.path).text ++ "/" ++ b.collectionText := by
  have htext := congrArg Url.Path.text (hnames.path_collectionUrl h)
  rwa [Url.Path.text_append, Url.Path.text_organizations, ← String.append_assoc] at htext

theorem HasOrdinaryNames.path_collectionUrl_ne_root (hnames : b.HasOrdinaryNames)
    (h : b.BuiltFrom s) : b.collectionUrl.path ≠ [""] := by
  rw [hnames.path_collectionUrl h]
  intro hpath
  have hlength := congrArg List.length hpath
  simp at hlength

/-- A record has one more segment than the collection. -/
theorem HasOrdinaryNames.itemUrl_eq (hnames : b.HasOrdinaryNames) (h : b.BuiltFrom s) {id : String}
    (hid : Url.Path.Ordinary id) :
    b.itemUrl id =
      .ok { b.base with path := b.collectionUrl.path ++ [b.segment id] } := by
  have hpush : Url.Path.push b.base.kind.isSpecial b.base.kind.isFile b.collectionUrl.path id =
      b.collectionUrl.path ++ [b.segment id] :=
    hid.push_eq b.collapse_path_collectionUrl b.path_collectionUrl_ne_nil
      (hnames.path_collectionUrl_ne_root h)
  rw [itemUrl, if_neg (not_or.mpr ⟨hid.ne_dot, hid.ne_dots⟩), Url.push, kind_collectionUrl, hpush]
  rfl

/-- Where records and the collection are: the rest of the base stays as it is. -/
theorem HasOrdinaryNames.urlOf_eq (hnames : b.HasOrdinaryNames) (h : b.BuiltFrom s)
    {id? : Option String} (hid : ∀ id, id? = some id → Url.Path.Ordinary id) :
    ∃ path, b.urlOf id? = .ok { b.base with path := path } ∧
      path.text = b.collectionUrl.path.text ++ b.recordText id? := by
  cases id? with
  | none => exact ⟨b.collectionUrl.path, rfl, String.append_empty.symm⟩
  | some id =>
    refine ⟨_, hnames.itemUrl_eq h (hid id rfl), ?_⟩
    rw [Url.Path.text_append, Url.Path.text_singleton]
    rfl

/-! ## Keys and their addresses -/

/-- The key is of the kind of the backend, and its identifier is ordinary if it has one. -/
structure Accepts (b : Backend) (key : Key) : Prop where
  kind : key.kind = b.kind
  id : ∀ id, key.id? = some id → Url.Path.Ordinary id

/-- A key leads from the base to the organization, the resource and the identifier, so that keys
with the same address are the same. -/
theorem keyUrl_injective (hb : ofSettings s = .ok b) (hbase : b.base.path.text ≠ "//")
    (hnames : b.HasOrdinaryNames) :
    (∀ key, b.Accepts key → ∃ path, b.keyUrl key = .ok { b.base with path := path } ∧
      path.text = b.base.path.text ++ b.collectionText ++ b.recordText key.id?) ∧
    ∀ key other, b.Accepts key → b.Accepts other →
      ((b.keyUrl key).map Url.text = (b.keyUrl other).map Url.text ↔ (key == other) = true) := by
  have hbuilt := ofSettings_eq_ok_iff.mp hb
  have hurl : ∀ key, b.Accepts key → ∃ path, b.keyUrl key = .ok { b.base with path := path } ∧
      path.text = b.base.path.text ++ b.collectionText ++ b.recordText key.id? := by
    intro key hkey
    have hslashes : b.base.path ≠ ["", ""] := by
      intro hpath
      rw [hpath] at hbase
      exact hbase rfl
    rw [keyUrl_eq_urlOf hkey.kind, ← Url.Path.text_stem hbuilt.endsWithSlash_base hslashes,
      ← hnames.text_path_collectionUrl hbuilt]
    exact hnames.urlOf_eq hbuilt hkey.id
  refine ⟨hurl, fun key other hkey hother => ?_⟩
  rw [Key.beq_iff]
  constructor
  · intro htext
    refine ⟨hkey.kind.trans hother.kind.symm, ?_⟩
    obtain ⟨path, hok, hpath⟩ := hurl key hkey
    obtain ⟨path', hok', hpath'⟩ := hurl other hother
    rw [hok, hok'] at htext
    -- Both addresses have the same text before and behind their paths.
    have horigin := (String.append_left_inj _).mp (Except.ok.inj htext)
    have hpaths : path.text = path'.text := (String.append_right_inj _).mp horigin
    rw [hpath, hpath'] at hpaths
    exact b.recordText_injective ((String.append_right_inj _).mp hpaths)
  · rintro ⟨-, hid⟩
    rw [keyUrl_eq_urlOf hkey.kind, keyUrl_eq_urlOf hother.kind, hid]

/-- A slash within an identifier does not end its segment. -/
theorem sample_keyUrl_injective :
    ofSettings sampleSettings = .ok sample ∧ sample.base.path.text ≠ "//" ∧
      sample.HasOrdinaryNames ∧ sample.Accepts (.addressed .checkpoint "a/b") ∧
      sample.Accepts (.addressed .checkpoint "a%2Fb") ∧
      (sample.keyUrl (.addressed .checkpoint "a/b")).map Url.text ≠
        (sample.keyUrl (.addressed .checkpoint "a%2Fb")).map Url.text := by
  have hbase : sample.base.path.text ≠ "//" := by decide
  have hnames : sample.HasOrdinaryNames := ⟨by decide, by decide⟩
  have hkey : sample.Accepts (.addressed .checkpoint "a/b") := by
    refine ⟨rfl, fun id hid => ?_⟩
    cases hid
    decide
  have hother : sample.Accepts (.addressed .checkpoint "a%2Fb") := by
    refine ⟨rfl, fun id hid => ?_⟩
    cases hid
    decide
  obtain ⟨-, hinjective⟩ := keyUrl_injective ofSettings_sampleSettings hbase hnames
  refine ⟨ofSettings_sampleSettings, hbase, hnames, hkey, hother, ?_⟩
  rw [ne_eq, hinjective _ _ hkey hother]
  decide

/-! ## The organization that requests are about -/

/-- The collection is the one of the organization and the resource exactly if both are named by
ordinary texts. Then requests stay within it: they go to the collection, or to a record whose segment
stands for the identifier of the key. -/
theorem collectionUrl_isCollectionOf_iff (hb : ofSettings s = .ok b) :
    (b.collectionUrl.IsCollectionOf b.organization (Kind.hyphenate b.resourceName) ↔
      b.HasOrdinaryNames) ∧
    s.credentials.named? = some b.organization ∧
    (b.HasOrdinaryNames → ∀ (call : Call Key), ∀ request ∈ (call.perform b).requests,
      (call.target? = none → request.url = b.collectionUrl) ∧
      ∀ id, call.target? = some id → (∀ c ∈ id.toList, Url.Path.isDropped c = false) →
        request.url.IsItemOf b.collectionUrl id) := by
  have hbuilt := ofSettings_eq_ok_iff.mp hb
  refine ⟨hbuilt.isCollectionOf_iff, hbuilt.named?_eq, ?_⟩
  intro hnames call request hmem
  have hurl := urlOf_of_mem_requests hmem
  constructor
  · intro hnone
    rw [hnone] at hurl
    exact (Except.ok.inj hurl).symm
  · intro id hid hkept
    rw [hid] at hurl
    exact isItemOf_of_itemUrl (ne_empty_of_target? hid) hkept
      (hnames.path_collectionUrl_ne_root hbuilt) hurl

theorem sample_isCollectionOf :
    ofSettings sampleSettings = .ok sample ∧
      sample.collectionUrl.IsCollectionOf "org-1" "checkpoints" :=
  ⟨ofSettings_sampleSettings,
    (collectionUrl_isCollectionOf_iff ofSettings_sampleSettings).1.mpr ⟨by decide, by decide⟩⟩

def sampleFor (organization : String) : Backend :=
  { sample with credentials := .ofOrganization "token-1" organization }

/-- An organization of two dots is passed over when the segments are added: the collection belongs
to no organization. -/
theorem dots_leave_the_organization_out :
    ofSettings { sampleSettings with credentials := .ofOrganization "token-1" ".." } =
      .ok (sampleFor "..") ∧
    (sampleFor "..").collectionUrl.text = "https://cloud.example.test/organizations/checkpoints" ∧
    ¬(sampleFor "..").collectionUrl.IsCollectionOf ".." "checkpoints" := by
  refine ⟨by cbv, by decide, ?_⟩
  rintro ⟨front, segment, segment', hpath, -⟩
  have htwo : (sampleFor "..").collectionUrl.path = ["organizations", "checkpoints"] := rfl
  have hlength := congrArg List.length hpath
  rw [htwo, List.length_append] at hlength
  simp at hlength

end Backend

end RecordStore
