import Mathlib.Data.Set.Finite.Basic
import RecordStore.Proofs.RecordReaders

/-! # Settings that are read and settings that are built

Settings are read from an object as they are built from the credentials in it by the choices that
its other members make, in whatever order these are made. -/

namespace RecordStore.Settings

open Json (Members Reader)

/-- What may be chosen about a backend. -/
inductive Choice where
  | baseUrl (url : String)
  | kind (kind : Kind)
  | resourceName (name : String)
  | suppressStoreId (suppress : Bool)
  | storeId (id : String)
  | storeName (name : String)

def choose (s : Settings) : Choice → Settings
  | .baseUrl url => s.withBaseUrl url
  | .kind kind => s.withKind kind
  | .resourceName name => s.withResourceName name
  | .suppressStoreId suppress => s.withSuppressStoreId suppress
  | .storeId id => s.withStoreId id
  | .storeName name => s.withStoreName name

/-- The settings for the credentials with the choices made one after the other. -/
def build (c : Credentials) (choices : List Choice) : Settings :=
  choices.foldl choose (ofCredentials c)

namespace Choice

def member : Choice → String
  | baseUrl _ => "base_url"
  | kind _ => "resource_kind"
  | resourceName _ => "resource_name"
  | suppressStoreId _ => "suppress_store_backend_id"
  | storeId _ => "manually_initialize_store_backend_id"
  | storeName _ => "store_name"

/-- The choice may stand as this value in JSON. -/
def StandsAs (v : Json) : Choice → Prop
  | baseUrl url => v = .string url
  | kind k => v = .string k.typeName ∨ v = .object [(k.typeName, .null)]
  | resourceName name => v = .string name
  | suppressStoreId suppress => v = .bool suppress
  | storeId id => v = .string id
  | storeName name => v = .string name

def names : List String :=
  ["base_url", "resource_kind", "resource_name", "suppress_store_backend_id",
   "manually_initialize_store_backend_id", "store_name"]

/-- Those of them that may be `null`, and make no choice then. -/
def optionalNames : List String :=
  ["resource_kind", "resource_name", "manually_initialize_store_backend_id", "store_name"]

/-- The choice is made by one of the members. -/
def IsMadeBy (m : Members) (choice : Choice) : Prop :=
  ∃ v, m.get? choice.member = some v ∧ choice.StandsAs v

def AreMadeBy (m : Members) (choices : List Choice) : Prop :=
  ∀ choice, choice ∈ choices ↔ choice.IsMadeBy m

end Choice

/-- The members that make choices have values that stand for some. -/
def WellTyped (m : Members) : Prop :=
  ∀ name ∈ Choice.names, ∀ v, m.get? name = some v →
    (∃ choice : Choice, choice.member = name ∧ choice.StandsAs v) ∨
      name ∈ Choice.optionalNames ∧ v = .null

variable {m : Members} {c : Credentials} {s : Settings} {choice other : Choice}
  {choices : List Choice} {name : String} {v : Json}

/-! ## Choices -/

namespace Choice

theorem member_mem_names : choice.member ∈ names := by
  cases choice <;> simp [member, names]

theorem StandsAs.ne_null (h : choice.StandsAs v) : v ≠ .null := by
  rintro rfl
  cases choice <;> simp [StandsAs] at h

/-- A member makes no two choices. -/
theorem StandsAs.unique (h : choice.StandsAs v) (hother : other.StandsAs v)
    (hmember : choice.member = other.member) : choice = other := by
  cases choice <;> cases other <;> simp [member] at hmember
  case kind.kind k l =>
    have hk : Kind.reader.ofJson v = .ok k := Kind.ofJson_eq_ok_iff.mpr h
    have hl : Kind.reader.ofJson v = .ok l := Kind.ofJson_eq_ok_iff.mpr hother
    rw [hk, Except.ok.injEq] at hl
    rw [hl]
  all_goals
    subst h
    cases hother
    rfl

theorem IsMadeBy.standsAs (h : choice.IsMadeBy m) (hfound : m.get? choice.member = some v) :
    choice.StandsAs v := by
  obtain ⟨w, hw, hstands⟩ := h
  rw [hfound, Option.some.injEq] at hw
  exact hw ▸ hstands

/-- Finitely many choices are made by members. -/
theorem exists_areMadeBy (m : Members) : ∃ choices, AreMadeBy m choices := by
  have hinj : Set.InjOn member {choice : Choice | choice.IsMadeBy m} := by
    rintro choice ⟨v, hfound, hstands⟩ other hother hmember
    exact hstands.unique (hother.standsAs (hmember ▸ hfound)) hmember
  have hfinite : {choice : Choice | choice.IsMadeBy m}.Finite :=
    .of_injOn (t := {name | name ∈ names}) (fun _ _ => member_mem_names) hinj names.finite_toSet
  exact ⟨hfinite.toFinset.toList, fun choice => by simp⟩

end Choice

/-! ## One field -/

/-- `get` gets the field of settings that is read from the member called `name`: the choices that
`make` makes set it, no others do, and its reader takes the values that stand for them. -/
structure IsField {α β : Type} (name : String) (r : Reader α) (get : Settings → α) (default : α)
    (make : β → Choice) (wrap : β → α) : Prop where
  get_ofCredentials : ∀ c, get (ofCredentials c) = default
  get_make : ∀ s b, get (choose s (make b)) = wrap b
  member_make : ∀ b, (make b).member = name
  cases : ∀ choice : Choice,
    (∃ b, choice = make b) ∨ choice.member ≠ name ∧ ∀ s, get (choose s choice) = get s
  ofJson_eq_ok_iff : ∀ v a, r.ofJson v = .ok a ↔
    (∃ b, (make b).StandsAs v ∧ wrap b = a) ∨ name ∈ Choice.optionalNames ∧ v = .null ∧ a = default

theorem ofJson_optional_eq_ok_iff {β : Type} {r : Reader β} {make : β → Choice} {option : Option β}
    (hread : ∀ b, r.ofJson v = .ok b ↔ (make b).StandsAs v) (hname : name ∈ Choice.optionalNames) :
    (Reader.optional r).ofJson v = .ok option ↔
      (∃ b, (make b).StandsAs v ∧ some b = option) ∨
        name ∈ Choice.optionalNames ∧ v = .null ∧ option = none := by
  simp only [Reader.optional_eq_ok_iff, hread]
  constructor
  · rintro (hnull | ⟨-, hchoice⟩)
    · exact .inr ⟨hname, hnull⟩
    · exact .inl hchoice
  · rintro (⟨b, hstands, hb⟩ | ⟨-, hnull⟩)
    · exact .inr ⟨hstands.ne_null, b, hstands, hb⟩
    · exact .inl hnull

theorem isField_baseUrl : IsField "base_url" .text baseUrl defaultBaseUrl .baseUrl id where
  get_ofCredentials _ := rfl
  get_make _ _ := rfl
  member_make _ := rfl
  cases
    | .baseUrl url => .inl ⟨url, rfl⟩
    | .kind _ | .resourceName _ | .suppressStoreId _ | .storeId _ | .storeName _ =>
      .inr ⟨by simp [Choice.member], fun _ => rfl⟩
  ofJson_eq_ok_iff v a := by
    simp [Reader.text_eq_ok_iff, Choice.StandsAs, Choice.optionalNames]

theorem isField_suppressStoreId :
    IsField "suppress_store_backend_id" .flag suppressStoreId true .suppressStoreId id where
  get_ofCredentials _ := rfl
  get_make _ _ := rfl
  member_make _ := rfl
  cases
    | .suppressStoreId suppress => .inl ⟨suppress, rfl⟩
    | .baseUrl _ | .kind _ | .resourceName _ | .storeId _ | .storeName _ =>
      .inr ⟨by simp [Choice.member], fun _ => rfl⟩
  ofJson_eq_ok_iff v a := by
    simp [Reader.flag_eq_ok_iff, Choice.StandsAs, Choice.optionalNames]

theorem isField_kind :
    IsField "resource_kind" (.optional Kind.reader) kind none .kind some where
  get_ofCredentials _ := rfl
  get_make _ _ := rfl
  member_make _ := rfl
  cases
    | .kind k => .inl ⟨k, rfl⟩
    | .baseUrl _ | .resourceName _ | .suppressStoreId _ | .storeId _ | .storeName _ =>
      .inr ⟨by simp [Choice.member], fun _ => rfl⟩
  ofJson_eq_ok_iff _ _ := ofJson_optional_eq_ok_iff (fun _ => Kind.ofJson_eq_ok_iff) (by decide)

theorem isField_resourceName :
    IsField "resource_name" (.optional .text) resourceName none .resourceName some where
  get_ofCredentials _ := rfl
  get_make _ _ := rfl
  member_make _ := rfl
  cases
    | .resourceName name => .inl ⟨name, rfl⟩
    | .baseUrl _ | .kind _ | .suppressStoreId _ | .storeId _ | .storeName _ =>
      .inr ⟨by simp [Choice.member], fun _ => rfl⟩
  ofJson_eq_ok_iff _ _ := ofJson_optional_eq_ok_iff (fun _ => Reader.text_eq_ok_iff) (by decide)

theorem isField_givenStoreId :
    IsField "manually_initialize_store_backend_id" (.optional .text) givenStoreId none .storeId
      some where
  get_ofCredentials _ := rfl
  get_make _ _ := rfl
  member_make _ := rfl
  cases
    | .storeId id => .inl ⟨id, rfl⟩
    | .baseUrl _ | .kind _ | .resourceName _ | .suppressStoreId _ | .storeName _ =>
      .inr ⟨by simp [Choice.member], fun _ => rfl⟩
  ofJson_eq_ok_iff _ _ := ofJson_optional_eq_ok_iff (fun _ => Reader.text_eq_ok_iff) (by decide)

theorem isField_storeName :
    IsField "store_name" (.optional .text) storeName none .storeName some where
  get_ofCredentials _ := rfl
  get_make _ _ := rfl
  member_make _ := rfl
  cases
    | .storeName name => .inl ⟨name, rfl⟩
    | .baseUrl _ | .kind _ | .resourceName _ | .suppressStoreId _ | .storeId _ =>
      .inr ⟨by simp [Choice.member], fun _ => rfl⟩
  ofJson_eq_ok_iff _ _ := ofJson_optional_eq_ok_iff (fun _ => Reader.text_eq_ok_iff) (by decide)

namespace IsField

variable {α β : Type} {r : Reader α} {get : Settings → α} {default a : α} {make : β → Choice}
  {wrap : β → α}

theorem get_choose_of_ne (h : IsField name r get default make wrap) (hne : choice.member ≠ name) :
    get (s.choose choice) = get s := by
  rcases h.cases choice with ⟨b, rfl⟩ | ⟨-, hget⟩
  · exact absurd (h.member_make b) hne
  · exact hget s

theorem ofJson_get_choose (h : IsField name r get default make wrap)
    (hmember : choice.member = name) (hstands : choice.StandsAs v) :
    r.ofJson v = .ok (get (s.choose choice)) := by
  rcases h.cases choice with ⟨b, rfl⟩ | ⟨hne, -⟩
  · rw [h.get_make]
    exact (h.ofJson_eq_ok_iff v _).mpr (.inl ⟨b, hstands, rfl⟩)
  · contradiction

/-- Settings have a field as they had it, or as the choices set it if these agree. -/
theorem get_foldl (h : IsField name r get default make wrap)
    (hagree : ∀ choice ∈ choices, choice.member = name → ∀ s, get (choose s choice) = a)
    (hget : get s = a ∨ ∃ choice ∈ choices, choice.member = name) :
    get (choices.foldl choose s) = a := by
  induction choices generalizing s with
  | nil => exact hget.resolve_right (by simp)
  | cons choice choices ih =>
    apply ih fun other hother => hagree other (.tail _ hother)
    by_cases hmember : choice.member = name
    · exact .inl (hagree choice (.head _) hmember s)
    · rw [h.get_choose_of_ne hmember]
      refine hget.imp_right ?_
      rintro ⟨other, hother, hname⟩
      rcases List.mem_cons.mp hother with rfl | hother
      · contradiction
      · exact ⟨other, hother, hname⟩

theorem get_build_of_ne (h : IsField name r get default make wrap)
    (hne : ∀ choice ∈ choices, choice.member ≠ name) : get (build c choices) = default :=
  h.get_foldl (fun choice hmem hmember => absurd hmember (hne choice hmem))
    (.inl (h.get_ofCredentials c))

/-- The field of what is built is found in the members that make the choices. -/
theorem finds_build (h : IsField name r get default make wrap) (hname : name ∈ Choice.names)
    (htyped : WellTyped m) (hmade : Choice.AreMadeBy m choices) :
    r.Finds m name (get (build c choices)) default := by
  cases hfound : m.get? name with
  | none =>
    refine .inr ⟨hfound, h.get_build_of_ne ?_⟩
    rintro choice hmem rfl
    obtain ⟨v, hsome, -⟩ := (hmade choice).mp hmem
    rw [hfound] at hsome
    contradiction
  | some v =>
    have hstands : ∀ choice ∈ choices, choice.member = name → choice.StandsAs v := by
      rintro choice hmem rfl
      exact ((hmade choice).mp hmem).standsAs hfound
    refine .of_read hfound ?_
    rcases htyped name hname v hfound with ⟨choice, hmember, hchoice⟩ | ⟨hoptional, rfl⟩
    · have hmem : choice ∈ choices := (hmade choice).mpr ⟨v, hmember ▸ hfound, hchoice⟩
      have hread := h.ofJson_get_choose (s := ofCredentials c) hmember hchoice
      have hget : get (build c choices) = get ((ofCredentials c).choose choice) := by
        refine h.get_foldl (fun other hother hname s => ?_) (.inr ⟨choice, hmem, hmember⟩)
        have hother := h.ofJson_get_choose (s := s) hname (hstands other hother hname)
        rw [hread, Except.ok.injEq] at hother
        exact hother.symm
      rw [hget, hread]
    · have hnone : ∀ choice ∈ choices, choice.member ≠ name := fun choice hmem hmember =>
        (hstands choice hmem hmember).ne_null rfl
      rw [h.get_build_of_ne hnone]
      exact (h.ofJson_eq_ok_iff _ _).mpr (.inr ⟨hoptional, rfl, rfl⟩)

theorem standsAs_of_finds (h : IsField name r get default make wrap)
    (hfinds : r.Finds m name a default) (hfound : m.get? name = some v) :
    (∃ choice : Choice, choice.member = name ∧ choice.StandsAs v) ∨
      name ∈ Choice.optionalNames ∧ v = .null := by
  rcases hfinds with ⟨w, hw, hread⟩ | ⟨habsent, -⟩
  · rw [hfound, Option.some.injEq] at hw
    subst hw
    rcases (h.ofJson_eq_ok_iff v a).mp hread with ⟨b, hstands, -⟩ | ⟨hoptional, hnull, -⟩
    · exact .inl ⟨make b, h.member_make b, hstands⟩
    · exact .inr ⟨hoptional, hnull⟩
  · rw [hfound] at habsent
    contradiction

end IsField

/-! ## All fields -/

theorem credentials_build : (build c choices).credentials = c := by
  have hfold : ∀ s : Settings, (choices.foldl choose s).credentials = s.credentials := by
    induction choices with
    | nil => exact fun _ => rfl
    | cons choice choices ih =>
      intro s
      rw [List.foldl_cons, ih]
      cases choice <;> rfl
  exact hfold _

theorem readFrom_build (hcredentials : Credentials.reader.Takes m "credentials" c)
    (htyped : WellTyped m) (hmade : Choice.AreMadeBy m choices) : (build c choices).ReadFrom m where
  baseUrl := isField_baseUrl.finds_build (by decide) htyped hmade
  credentials := by rwa [credentials_build]
  kind := isField_kind.finds_build (by decide) htyped hmade
  resourceName := isField_resourceName.finds_build (by decide) htyped hmade
  suppressStoreId := isField_suppressStoreId.finds_build (by decide) htyped hmade
  givenStoreId := isField_givenStoreId.finds_build (by decide) htyped hmade
  storeName := isField_storeName.finds_build (by decide) htyped hmade

theorem ReadFrom.wellTyped (h : s.ReadFrom m) : WellTyped m := by
  intro name hname v hfound
  simp only [Choice.names, List.mem_cons, List.not_mem_nil, or_false] at hname
  rcases hname with rfl | rfl | rfl | rfl | rfl | rfl
  · exact isField_baseUrl.standsAs_of_finds h.baseUrl hfound
  · exact isField_kind.standsAs_of_finds h.kind hfound
  · exact isField_resourceName.standsAs_of_finds h.resourceName hfound
  · exact isField_suppressStoreId.standsAs_of_finds h.suppressStoreId hfound
  · exact isField_givenStoreId.standsAs_of_finds h.givenStoreId hfound
  · exact isField_storeName.standsAs_of_finds h.storeName hfound

/-- Objects are read as settings exactly if they hold credentials and the members that make choices
have values that stand for some. -/
theorem exists_ofJson_eq_ok_iff (hnodup : m.names.Nodup) :
    (∃ s, reader.ofJson (.object m) = .ok s) ↔
      (∃ c, Credentials.reader.Takes m "credentials" c) ∧ WellTyped m := by
  have hreads : ∀ s, reader.ofJson (.object m) = .ok s ↔ s.ReadFrom m := fun s =>
    ofMembers_eq_ok_iff hnodup
  constructor
  · rintro ⟨s, hread⟩
    have hs := (hreads s).mp hread
    exact ⟨⟨_, hs.credentials⟩, hs.wellTyped⟩
  · rintro ⟨⟨c, hcredentials⟩, htyped⟩
    obtain ⟨choices, hmade⟩ := Choice.exists_areMadeBy m
    exact ⟨_, (hreads _).mpr (readFrom_build hcredentials htyped hmade)⟩

/-- An object with credentials is read as the settings that are built from these by the choices its
members make, in whatever order, and however often. -/
theorem ofJson_eq_ok_build (hnodup : m.names.Nodup)
    (hcredentials : Credentials.reader.Takes m "credentials" c) (htyped : WellTyped m) :
    (∃ choices, Choice.AreMadeBy m choices) ∧
      ∀ choices, Choice.AreMadeBy m choices →
        reader.ofJson (.object m) = .ok (build c choices) :=
  ⟨Choice.exists_areMadeBy m, fun _ hmade =>
    (ofMembers_eq_ok_iff hnodup).mpr (readFrom_build hcredentials htyped hmade)⟩

/-- Two choices are made, the member that is `null` and the one of another name make none. -/
def sampleMembers : Members :=
  [("credentials", .object [("access_token", .string "secret")]),
   ("resource_kind", .string "checkpoint"), ("store_name", .null),
   ("suppress_store_backend_id", .bool false), ("theme", .array [])]

theorem ofJson_sampleMembers :
    let c : Credentials := ⟨"secret", none, none⟩
    reader.ofJson (.object sampleMembers) =
        .ok (build c [.kind .checkpoint, .suppressStoreId false]) ∧
      reader.ofJson (.object sampleMembers) =
        .ok (build c [.suppressStoreId false, .kind .checkpoint]) := by
  have hnodup : sampleMembers.names.Nodup := by decide
  have hcredentials :
      Credentials.reader.Takes sampleMembers "credentials" ⟨"secret", none, none⟩ := ⟨_, rfl, rfl⟩
  have htyped : WellTyped sampleMembers := by
    intro name hname v hfound
    simp only [Choice.names, List.mem_cons, List.not_mem_nil, or_false] at hname
    rcases hname with rfl | rfl | rfl | rfl | rfl | rfl <;> cases hfound
    · exact .inl ⟨.kind .checkpoint, rfl, .inl rfl⟩
    · exact .inl ⟨.suppressStoreId false, rfl, rfl⟩
    · exact .inr ⟨by decide, rfl⟩
  have hmade : Choice.AreMadeBy sampleMembers [.kind .checkpoint, .suppressStoreId false] := by
    intro choice
    cases choice <;> simp [Choice.IsMadeBy, Choice.StandsAs, Choice.member, sampleMembers]
    case kind k => cases k <;> decide
  have hswapped : Choice.AreMadeBy sampleMembers [.suppressStoreId false, .kind .checkpoint] := by
    intro choice
    rw [← hmade choice, List.mem_pair, List.mem_pair, or_comm]
  have hreads := (ofJson_eq_ok_build hnodup hcredentials htyped).2
  exact ⟨hreads _ hmade, hreads _ hswapped⟩

end RecordStore.Settings
