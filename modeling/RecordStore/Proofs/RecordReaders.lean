import RecordStore.Settings
import RecordStore.Proofs.Json.Records
import RecordStore.Proofs.Names

/-! # What records are read from

A record is read from the objects that hold what it consists of. Fields that are not required may be
missing, and have their defaults then; members that are no fields make no difference. -/

namespace RecordStore

open Json (Members Reader Field)

/-! ## Values -/

namespace Json.Reader

variable {α : Type} {v : Json}

theorem text_eq_ok_iff {s : String} : text.ofJson v = .ok s ↔ v = .string s := by
  cases v <;> simp [text]

theorem flag_eq_ok_iff {b : Bool} : flag.ofJson v = .ok b ↔ v = .bool b := by
  cases v <;> simp [flag]

theorem optional_eq_ok_iff {r : Reader α} {option : Option α} :
    (optional r).ofJson v = .ok option ↔
      v = .null ∧ option = none ∨ v ≠ .null ∧ ∃ a, r.ofJson v = .ok a ∧ some a = option := by
  by_cases hv : v = .null
  · simp [hv, optional, eq_comm]
  · have hread : (optional r).ofJson v = (r.ofJson v).map some := by
      cases v with
      | null => contradiction
      | bool _ | number _ | string _ | array _ | object _ => rfl
    rw [hread, Except.map_eq_ok_iff]
    simp [hv]

end Json.Reader

theorem Kind.ofJson_string_eq_ok_iff {name : String} {kind : Kind} :
    Kind.reader.ofJson (.string name) = .ok kind ↔ name = kind.typeName := by
  rw [eq_comm (b := kind.typeName),
    ← find?_listed_eq_some_iff mem_all typeName_injective]
  simp only [Kind.reader, Reader.choice, List.find?_map, Function.comp_def]
  cases all.find? fun k => k.typeName = name with
  | none => simp
  | some k => simp

theorem Kind.ofJson_singleton_eq_ok_iff {name : String} {v : Json} {kind : Kind} :
    Kind.reader.ofJson (.object [(name, v)]) = .ok kind ↔ name = kind.typeName ∧ v = .null := by
  refine (Except.bind_eq_ok_iff (x := Kind.reader.ofJson (.string name))).trans ?_
  simp only [Kind.ofJson_string_eq_ok_iff]
  cases v <;> simp

/-- A kind is read from its name, alone or as the only member of an object. -/
theorem Kind.ofJson_eq_ok_iff {v : Json} {kind : Kind} :
    Kind.reader.ofJson v = .ok kind ↔
      v = .string kind.typeName ∨ v = .object [(kind.typeName, .null)] := by
  cases v with
  | string name => simp [Kind.ofJson_string_eq_ok_iff]
  | object m =>
    match m with
    | [] => simp [Kind.reader, Reader.choice]
    | [(name, v)] => simp [Kind.ofJson_singleton_eq_ok_iff]
    | _ :: _ :: _ => simp [Kind.reader, Reader.choice]
  | null | bool _ | number _ | array _ => simp [Kind.reader, Reader.choice]

/-! ## Records -/

variable {m : Members}

structure Credentials.ReadFrom (m : Members) (c : Credentials) : Prop where
  accessToken : Reader.text.Takes m "access_token" c.accessToken
  organizationId : (Reader.optional .text).Finds m "organization_id" c.organizationId none
  accountId : (Reader.optional .text).Finds m "account_id" c.accountId none

structure Settings.ReadFrom (m : Members) (s : Settings) : Prop where
  baseUrl : Reader.text.Finds m "base_url" s.baseUrl defaultBaseUrl
  credentials : Credentials.reader.Takes m "credentials" s.credentials
  kind : (Reader.optional Kind.reader).Finds m "resource_kind" s.kind none
  resourceName : (Reader.optional .text).Finds m "resource_name" s.resourceName none
  suppressStoreId : Reader.flag.Finds m "suppress_store_backend_id" s.suppressStoreId true
  givenStoreId :
    (Reader.optional .text).Finds m "manually_initialize_store_backend_id" s.givenStoreId none
  storeName : (Reader.optional .text).Finds m "store_name" s.storeName none

structure Config.ReadFrom (m : Members) (c : Config) : Prop where
  baseUrl : Reader.text.Finds m "base_url" c.baseUrl ""
  kind : Kind.reader.Takes m "resource_kind" c.kind
  resourceName : Reader.text.Takes m "resource_name" c.resourceName
  fixedLengthKey : Reader.flag.Finds m "fixed_length_key" c.fixedLengthKey false
  suppressStoreId : Reader.flag.Finds m "suppress_store_backend_id" c.suppressStoreId false
  givenStoreId :
    (Reader.optional .text).Finds m "manually_initialize_store_backend_id" c.givenStoreId none
  storeName : (Reader.optional .text).Finds m "store_name" c.storeName none
  className : Reader.text.Finds m "class_name" c.className ""

structure Reference.ReadFrom (m : Members) (r : Reference) : Prop where
  kind : Kind.reader.Takes m "resource_kind" r.kind
  remoteId : Reader.text.Takes m "remote_id" r.remoteId
  url : Reader.text.Takes m "url" r.url

namespace Credentials

theorem independent_layout : layout.Independent where
  nodup := by decide
  commutes := by
    simp only [layout, List.pairwise_cons, List.mem_cons, forall_eq_or_imp, List.not_mem_nil]
    and_intros
    all_goals first | exact Field.Commutes.of fun _ _ _ => rfl | simp

theorem ofMembers_eq_ok_iff (h : m.names.Nodup) {c : Credentials} :
    layout.ofMembers m = .ok c ↔ c.ReadFrom m := by
  rw [Json.Layout.ofMembers_eq_ok_iff independent_layout h]
  constructor
  · rintro ⟨hfields, hrequired⟩
    obtain ⟨_, htoken, hfields⟩ := (Field.foldlM_take_cons_iff "" rfl).mp hfields
    obtain ⟨_, horganization, hfields⟩ := (Field.foldlM_take_cons_iff none rfl).mp hfields
    obtain ⟨_, haccount, hfields⟩ := (Field.foldlM_take_cons_iff none rfl).mp hfields
    cases hfields
    exact ⟨htoken.takes (hrequired _ (.head _) rfl), horganization, haccount⟩
  · intro hread
    constructor
    · refine (Field.foldlM_take_cons_iff "" rfl).mpr ⟨_, hread.accessToken.finds, ?_⟩
      refine (Field.foldlM_take_cons_iff none rfl).mpr ⟨_, hread.organizationId, ?_⟩
      exact (Field.foldlM_take_cons_iff none rfl).mpr ⟨_, hread.accountId, rfl⟩
    · simp [layout, Field.of, hread.accessToken.mem_names]

end Credentials

namespace Settings

theorem independent_layout : layout.Independent where
  nodup := by decide
  commutes := by
    simp only [layout, List.pairwise_cons, List.mem_cons, forall_eq_or_imp, List.not_mem_nil]
    and_intros
    all_goals first | exact Field.Commutes.of fun _ _ _ => rfl | simp

theorem ofMembers_eq_ok_iff (h : m.names.Nodup) {s : Settings} :
    layout.ofMembers m = .ok s ↔ s.ReadFrom m := by
  rw [Json.Layout.ofMembers_eq_ok_iff independent_layout h]
  constructor
  · rintro ⟨hfields, hrequired⟩
    obtain ⟨_, hbaseUrl, hfields⟩ := (Field.foldlM_take_cons_iff defaultBaseUrl rfl).mp hfields
    obtain ⟨_, hcredentials, hfields⟩ :=
      (Field.foldlM_take_cons_iff Credentials.layout.defaults rfl).mp hfields
    obtain ⟨_, hkind, hfields⟩ := (Field.foldlM_take_cons_iff none rfl).mp hfields
    obtain ⟨_, hname, hfields⟩ := (Field.foldlM_take_cons_iff none rfl).mp hfields
    obtain ⟨_, hsuppress, hfields⟩ := (Field.foldlM_take_cons_iff true rfl).mp hfields
    obtain ⟨_, hgiven, hfields⟩ := (Field.foldlM_take_cons_iff none rfl).mp hfields
    obtain ⟨_, hstore, hfields⟩ := (Field.foldlM_take_cons_iff none rfl).mp hfields
    cases hfields
    exact ⟨hbaseUrl, hcredentials.takes (hrequired _ (.tail _ (.head _)) rfl), hkind, hname,
      hsuppress, hgiven, hstore⟩
  · intro hread
    constructor
    · refine (Field.foldlM_take_cons_iff defaultBaseUrl rfl).mpr ⟨_, hread.baseUrl, ?_⟩
      refine (Field.foldlM_take_cons_iff Credentials.layout.defaults rfl).mpr
        ⟨_, hread.credentials.finds, ?_⟩
      refine (Field.foldlM_take_cons_iff none rfl).mpr ⟨_, hread.kind, ?_⟩
      refine (Field.foldlM_take_cons_iff none rfl).mpr ⟨_, hread.resourceName, ?_⟩
      refine (Field.foldlM_take_cons_iff true rfl).mpr ⟨_, hread.suppressStoreId, ?_⟩
      refine (Field.foldlM_take_cons_iff none rfl).mpr ⟨_, hread.givenStoreId, ?_⟩
      exact (Field.foldlM_take_cons_iff none rfl).mpr ⟨_, hread.storeName, rfl⟩
    · simp [layout, Field.of, hread.credentials.mem_names]

end Settings

namespace Config

theorem independent_layout : layout.Independent where
  nodup := by decide
  commutes := by
    simp only [layout, List.pairwise_cons, List.mem_cons, forall_eq_or_imp, List.not_mem_nil]
    and_intros
    all_goals first | exact Field.Commutes.of fun _ _ _ => rfl | simp

theorem ofMembers_eq_ok_iff (h : m.names.Nodup) {c : Config} :
    layout.ofMembers m = .ok c ↔ c.ReadFrom m := by
  rw [Json.Layout.ofMembers_eq_ok_iff independent_layout h]
  constructor
  · rintro ⟨hfields, hrequired⟩
    obtain ⟨_, hbaseUrl, hfields⟩ := (Field.foldlM_take_cons_iff "" rfl).mp hfields
    obtain ⟨_, hkind, hfields⟩ := (Field.foldlM_take_cons_iff .expectationSuite rfl).mp hfields
    obtain ⟨_, hname, hfields⟩ := (Field.foldlM_take_cons_iff "" rfl).mp hfields
    obtain ⟨_, hfixed, hfields⟩ := (Field.foldlM_take_cons_iff false rfl).mp hfields
    obtain ⟨_, hsuppress, hfields⟩ := (Field.foldlM_take_cons_iff false rfl).mp hfields
    obtain ⟨_, hgiven, hfields⟩ := (Field.foldlM_take_cons_iff none rfl).mp hfields
    obtain ⟨_, hstore, hfields⟩ := (Field.foldlM_take_cons_iff none rfl).mp hfields
    obtain ⟨_, hclass, hfields⟩ := (Field.foldlM_take_cons_iff "" rfl).mp hfields
    cases hfields
    exact ⟨hbaseUrl, hkind.takes (hrequired _ (.tail _ (.head _)) rfl),
      hname.takes (hrequired _ (.tail _ (.tail _ (.head _))) rfl), hfixed, hsuppress, hgiven,
      hstore, hclass⟩
  · intro hread
    constructor
    · refine (Field.foldlM_take_cons_iff "" rfl).mpr ⟨_, hread.baseUrl, ?_⟩
      refine (Field.foldlM_take_cons_iff .expectationSuite rfl).mpr ⟨_, hread.kind.finds, ?_⟩
      refine (Field.foldlM_take_cons_iff "" rfl).mpr ⟨_, hread.resourceName.finds, ?_⟩
      refine (Field.foldlM_take_cons_iff false rfl).mpr ⟨_, hread.fixedLengthKey, ?_⟩
      refine (Field.foldlM_take_cons_iff false rfl).mpr ⟨_, hread.suppressStoreId, ?_⟩
      refine (Field.foldlM_take_cons_iff none rfl).mpr ⟨_, hread.givenStoreId, ?_⟩
      refine (Field.foldlM_take_cons_iff none rfl).mpr ⟨_, hread.storeName, ?_⟩
      exact (Field.foldlM_take_cons_iff "" rfl).mpr ⟨_, hread.className, rfl⟩
    · simp [layout, Field.of, hread.kind.mem_names, hread.resourceName.mem_names]

end Config

namespace Reference

theorem independent_layout : layout.Independent where
  nodup := by decide
  commutes := by
    simp only [layout, List.pairwise_cons, List.mem_cons, forall_eq_or_imp, List.not_mem_nil]
    and_intros
    all_goals first | exact Field.Commutes.of fun _ _ _ => rfl | simp

theorem ofMembers_eq_ok_iff (h : m.names.Nodup) {r : Reference} :
    layout.ofMembers m = .ok r ↔ r.ReadFrom m := by
  rw [Json.Layout.ofMembers_eq_ok_iff independent_layout h]
  constructor
  · rintro ⟨hfields, hrequired⟩
    obtain ⟨_, hkind, hfields⟩ := (Field.foldlM_take_cons_iff .expectationSuite rfl).mp hfields
    obtain ⟨_, hid, hfields⟩ := (Field.foldlM_take_cons_iff "" rfl).mp hfields
    obtain ⟨_, hurl, hfields⟩ := (Field.foldlM_take_cons_iff "" rfl).mp hfields
    cases hfields
    exact ⟨hkind.takes (hrequired _ (.head _) rfl), hid.takes (hrequired _ (.tail _ (.head _)) rfl),
      hurl.takes (hrequired _ (.tail _ (.tail _ (.head _))) rfl)⟩
  · intro hread
    constructor
    · refine (Field.foldlM_take_cons_iff .expectationSuite rfl).mpr ⟨_, hread.kind.finds, ?_⟩
      refine (Field.foldlM_take_cons_iff "" rfl).mpr ⟨_, hread.remoteId.finds, ?_⟩
      exact (Field.foldlM_take_cons_iff "" rfl).mpr ⟨_, hread.url.finds, rfl⟩
    · simp [layout, Field.of, hread.kind.mem_names, hread.remoteId.mem_names, hread.url.mem_names]

end Reference

end RecordStore
