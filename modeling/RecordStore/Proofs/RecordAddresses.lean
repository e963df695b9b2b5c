import RecordStore.Proofs.Calls.Requests
import RecordStore.Proofs.Construction
import RecordStore.Proofs.Url.Segments

/-! # The addresses of records

A record lies one segment below its collection, and this segment decodes to its identifier. That
is so for the identifiers of which nothing is dropped on the way into the path, below every
collection but `/`. -/

namespace RecordStore

open Session (Call)

/-- The segment is whole, as nothing in it ends it, and decodes to the name. -/
structure Url.Path.Names (special : Bool) (segment name : String) : Prop where
  whole : ∀ c ∈ segment.toList, isSeparator special c = false ∧ endsPath c = false
  decodes : decodeText? segment.toList = some name

/-- The address with one further segment, which stands for the name. -/
def Url.IsItemOf (u collection : Url) (name : String) : Prop :=
  ∃ segment, u = { collection with path := collection.path ++ [segment] } ∧
    Path.Names collection.kind.isSpecial segment name

/-- The key of the record that a call reads, writes or removes. -/
def Session.Call.subject? {κ : Type} : Call κ → Option κ
  | .get key | .getPayload key | .set key _ _ | .setWithOptions key _ _ | .removeKey key => some key
  | _ => none

namespace Url

variable {u collection : Url} {name : String}

theorem not_isItemOf_self : ¬u.IsItemOf u name := by
  rintro ⟨segment, heq, -⟩
  have hpath : u.path = u.path ++ [segment] := congrArg Url.path heq
  simp at hpath

theorem push_isItemOf_iff (hcollapsed : Path.collapse collection.kind.isFile collection.path =
      collection.path) (hpath : collection.path ≠ []) (hdot : name ≠ ".") (hdots : name ≠ "..")
    (hname : name ≠ "") :
    (collection.push name).IsItemOf collection name ↔
      collection.path ≠ [""] ∧ ∀ c ∈ name.toList, Path.isDropped c = false := by
  constructor
  · rintro ⟨segment, heq, -, hdecodes⟩
    have hpush : collection.path.push collection.kind.isSpecial collection.kind.isFile name =
        collection.path ++ [segment] := congrArg Url.path heq
    have hroot : collection.path ≠ [""] := by
      intro hroot
      rw [hroot] at hpush
      exact Path.push_root_ne hdot hdots segment hpush
    refine ⟨hroot, ?_⟩
    by_cases hshows : Path.ShowsDots name
    · -- The path ends with a slash then, so that the segment would be empty.
      have hlast : (collection.path.push collection.kind.isSpecial collection.kind.isFile
          name).getLast? = some "" :=
        Path.getLast?_push_of_showsDots hshows hdot hdots hpath hroot
      rw [hpush, List.getLast?_concat] at hlast
      rw [Option.some.inj hlast, Path.decodeText?_empty] at hdecodes
      exact absurd (Option.some.inj hdecodes).symm hname
    · rw [Path.push_eq_append hshows hcollapsed hpath hroot] at hpush
      have hsegment := List.singleton_inj.mp (List.append_cancel_left hpush)
      rw [← hsegment] at hdecodes
      exact (Path.decodeText?_segmentText_eq_iff _ name).mp hdecodes
  · rintro ⟨hroot, hkept⟩
    have hshown := Path.shown_eq_self_iff.mpr hkept
    have hshows : ¬Path.ShowsDots name := by
      rw [Path.ShowsDots, hshown]
      rintro (h | h)
      · exact hdot (String.toList_injective h)
      · exact hdots (String.toList_injective h)
    refine ⟨Path.segmentText collection.kind.isSpecial name, ?_, ?_, ?_⟩
    · rw [push, Path.push_eq_append hshows hcollapsed hpath hroot]
    · intro c hc
      rw [Path.segmentText, String.toList_ofList] at hc
      exact not_ends_of_mem_encode hc
    · exact (Path.decodeText?_segmentText_eq_iff _ name).mpr hkept

end Url

namespace Backend

variable (b : Backend)

/-! ## The collection -/

theorem kind_collectionUrl : b.collectionUrl.kind = b.base.kind := rfl

theorem path_collectionUrl_ne_nil : b.collectionUrl.path ≠ [] := by
  rw [collectionUrl, Url.extend, collectionSegments]
  simp only [Url.Path.pushAll, List.foldl_cons, List.foldl_nil]
  apply Url.Path.push_ne_nil
  apply Url.Path.push_ne_nil
  rw [Url.Path.push_eq_collapse (by decide) (by decide)]
  exact Url.Path.collapse_ne_nil (Url.Path.addText_ne_nil _ _)

theorem collapse_path_collectionUrl :
    Url.Path.collapse b.collectionUrl.kind.isFile b.collectionUrl.path = b.collectionUrl.path := by
  rw [kind_collectionUrl, collectionUrl, Url.extend, collectionSegments]
  simp only [Url.Path.pushAll, List.foldl_cons, List.foldl_nil]
  apply Url.Path.collapse_push
  apply Url.Path.collapse_push
  rw [Url.Path.push_eq_collapse (by decide) (by decide), Url.Path.collapse_collapse]

/-! ## A backend to look at -/

def sampleSettings : Settings :=
  ((Settings.ofCredentials (.ofOrganization "token-1" "org-1")).withBaseUrl
    "https://cloud.example.test/").withKind .checkpoint

def sample : Backend where
  credentials := .ofOrganization "token-1" "org-1"
  base := ⟨"https", some ⟨"", none, .domain "cloud.example.test", none⟩, false, [""], none, none⟩
  kind := .checkpoint
  resourceName := "checkpoints"
  config := sampleSettings.snapshot .checkpoint "checkpoints"
  storeId := .suppressed

theorem ofSettings_sampleSettings : ofSettings sampleSettings = .ok sample := by cbv

/-- Settings with the address and the credentials of the sample lead to a backend beside it. -/
theorem ofSettings_beside_sample {s : Settings} {kind : Kind} {name : String}
    (hcredentials : s.credentials = sampleSettings.credentials)
    (hbase : s.baseUrl = sampleSettings.baseUrl) (hresolve : s.resolve = .ok (kind, name)) :
    ofSettings s = .ok { sample with
      kind := kind
      resourceName := name
      config := s.snapshot kind name
      storeId := storeIdOf (s.snapshot kind name) } := by
  have hsample := ofSettings_eq_ok_iff.mp ofSettings_sampleSettings
  refine ofSettings_eq_ok_iff.mpr ⟨hresolve, ?_, ?_, rfl, rfl⟩
  · rw [hcredentials]
    exact hsample.credentials
  · rw [hbase]
    exact hsample.base

/-! ## What calls ask for -/

variable {b}

theorem Asks.url_eq {call : Call Key} {key : Key} {request : Request} {conclude}
    (h : Asks b call request conclude) (hkey : call.subject? = some key) :
    request.url = b.addressOf key := by
  induction h with
  | get | getPayload | create | update | removeKey =>
    cases hkey
    rfl
  | options _ _ ih => exact ih hkey
  | listKeys | hasKey => contradiction

theorem keyUrl_of_objections_eq_nil {call : Call Key} {key : Key}
    (hkey : call.subject? = some key) (h : b.objections call = []) :
    b.keyUrl key = .ok (b.addressOf key) := by
  have hkinds : b.kindObjections key ++ dotObjections key = [] := by
    cases call <;> cases hkey <;> simp_all [objections, writeObjections]
  rw [keyUrl_eq_verdict, hkinds]
  rfl

/-- Only options and payloads can be refused with the key of a record. -/
theorem AcceptsRecord.objections_eq_nil {call : Call Key} {key : Key} {id : String}
    (h : b.AcceptsRecord key id) (hsubject : call.subject? = some key)
    (hoptions : call.hasOptions = false) : b.objections call = [] := by
  cases call with
  | get key | getPayload key =>
    cases hsubject
    rw [objections, h.kindObjections_eq_nil, h.dotObjections_eq_nil]
    rfl
  | set key value fields =>
    cases hsubject
    exact h.writeObjections_eq_nil fields
  | removeKey key =>
    cases hsubject
    rw [objections, h.kindObjections_eq_nil, h.dotObjections_eq_nil, idObjections, h.id?_eq]
    rfl
  | setWithOptions _ _ _ => contradiction
  | info | config | urlForKey _ | listKeys | hasKey _ | validateFields _ | decodeListing _ =>
    contradiction

/-- What is sent for a key goes to the address of the key. -/
theorem keyUrl_of_mem_requests {call : Call Key} {key : Key} {request : Request}
    (hkey : call.subject? = some key) (hmem : request ∈ (call.perform b).requests) :
    b.keyUrl key = .ok request.url := by
  have hremote : call.isRemote = true := by cases call <;> cases hkey <;> rfl
  have hperform := b.perform_of_isRemote hremote
  cases h : b.objections call with
  | nil =>
    obtain ⟨sent, conclude, hasks, hask⟩ := hperform.asks h
    rw [hask, Exchange.requests, List.mem_singleton] at hmem
    rw [hmem, hasks.url_eq hkey, keyUrl_of_objections_eq_nil hkey h]
  | cons e rest =>
    rw [hperform.refuses e rest h] at hmem
    contradiction

variable (b)

theorem keyUrl_addressed {id : String} (hid : id ≠ "") :
    b.keyUrl (.addressed b.kind id) = b.itemUrl id := by
  simp only [keyUrl, checkKind, Key.kind, Key.id?, if_true, if_neg hid]
  rfl

theorem keyUrl_addressed_empty : b.keyUrl (.addressed b.kind "") = .ok b.collectionUrl := by
  simp only [keyUrl, checkKind, Key.kind, Key.id?, if_true]
  rfl

theorem itemUrl_refused_or_isItemOf_iff {id : String} (hid : id ≠ "") :
    (b.itemUrl id = .error (.invalidIdentifier id) ∨
        ∃ u, b.itemUrl id = .ok u ∧ u.IsItemOf b.collectionUrl id) ↔
      id = "." ∨ id = ".." ∨
        b.collectionUrl.path ≠ [""] ∧ ∀ c ∈ id.toList, Url.Path.isDropped c = false := by
  by_cases hdots : id = "." ∨ id = ".."
  · rw [itemUrl, if_pos hdots]
    constructor
    · intro _
      rw [← or_assoc]
      exact .inl hdots
    · exact fun _ => .inl rfl
  · obtain ⟨hdot, hdots'⟩ := not_or.mp hdots
    have hitem := Url.push_isItemOf_iff b.collapse_path_collectionUrl b.path_collectionUrl_ne_nil
      hdot hdots' hid
    rw [itemUrl, if_neg hdots]
    constructor
    · rintro (h | ⟨u, h, hu⟩)
      · contradiction
      · cases h
        exact .inr (.inr (hitem.mp hu))
    · rintro (h | h | h)
      · contradiction
      · contradiction
      · exact .inr ⟨_, rfl, hitem.mpr h⟩

/-- An identifier is refused or has an address of its own below the collection exactly if it is one
or two dots, or nothing is dropped from it and the collection is not `/`. Whatever is sent for a key
goes to the address of the key. -/
theorem keyUrl_refused_or_isItemOf_iff (id : String) :
    ((b.keyUrl (.addressed b.kind id) = .error (.invalidIdentifier id) ∨
        ∃ u, b.keyUrl (.addressed b.kind id) = .ok u ∧ u.IsItemOf b.collectionUrl id) ↔
      id = "." ∨ id = ".." ∨
        id ≠ "" ∧ b.collectionUrl.path ≠ [""] ∧ ∀ c ∈ id.toList, Url.Path.isDropped c = false) ∧
    ∀ (call : Call Key) (key : Key), call.subject? = some key →
      ∀ request ∈ (call.perform b).requests, b.keyUrl key = .ok request.url := by
  refine ⟨?_, fun call key hkey request hmem => keyUrl_of_mem_requests hkey hmem⟩
  by_cases hid : id = ""
  · subst hid
    rw [keyUrl_addressed_empty]
    constructor
    · rintro (h | ⟨u, h, hu⟩)
      · contradiction
      · cases h
        exact absurd hu Url.not_isItemOf_self
    · rintro (h | h | ⟨h, -⟩) <;> contradiction
  · rw [keyUrl_addressed b hid, itemUrl_refused_or_isItemOf_iff b hid]
    simp only [ne_eq, hid, not_false_eq_true, true_and]

/-- A tab is dropped after the identifier was looked at: the two dots around it lead from the
collection to the organization. -/
theorem tab_between_dots_leads_up :
    ofSettings sampleSettings = .ok sample ∧
    (sample.keyUrl (.addressed sample.kind ".\t.")).map Url.text =
      .ok "https://cloud.example.test/organizations/org-1/" ∧
    ¬(sample.keyUrl (.addressed sample.kind ".\t.") = .error (.invalidIdentifier ".\t.") ∨
      ∃ u, sample.keyUrl (.addressed sample.kind ".\t.") = .ok u ∧
        u.IsItemOf sample.collectionUrl ".\t.") := by
  have hurl : sample.keyUrl (.addressed sample.kind ".\t.") =
      .ok { sample.base with path := ["organizations", "org-1", ""] } := rfl
  refine ⟨ofSettings_sampleSettings, ?_, ?_⟩
  · rw [hurl]
    rfl
  rw [hurl]
  rintro (h | ⟨u, h, segment, hu, -⟩)
  · contradiction
  · cases h
    have hpath : ["organizations", "org-1", ""] =
        ["organizations", "org-1", "checkpoints"] ++ [segment] := congrArg Url.path hu
    simp at hpath

end Backend

end RecordStore
