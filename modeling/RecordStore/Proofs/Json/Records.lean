import RecordStore.Json.Record
import RecordStore.Proofs.Json.Members
import RecordStore.Proofs.Steps

/-! # Reading records back

The members of an object come in the order of their names, the fields of a record in their own.
Where the fields are put independently of each other, the one order reads the same record as the
other. -/

namespace RecordStore.Json

variable {ρ α : Type}

/-- Two fields may be put in either order. -/
def Field.Commutes (f g : Field ρ) : Prop :=
  ∀ v w record x, (f.put v record >>= g.put w) = .ok x ↔ (g.put w record >>= f.put v) = .ok x

/-- Puts the member that is called like the field, if there is one. -/
def Field.take (members : Members) (record : ρ) (field : Field ρ) : Except Misfit ρ :=
  match members.get? field.name with
  | some v => field.put v record
  | none => .ok record

/-- The member called `name` reads as `a`; it may be absent where `a` is the default. -/
def Reader.Finds (r : Reader α) (members : Members) (name : String) (a default : α) : Prop :=
  (∃ v, members.get? name = some v ∧ r.ofJson v = .ok a) ∨ members.get? name = none ∧ a = default

/-- The member called `name` is there and reads as `a`. -/
def Reader.Takes (r : Reader α) (members : Members) (name : String) (a : α) : Prop :=
  ∃ v, members.get? name = some v ∧ r.ofJson v = .ok a

/-- The fields have names of their own and are put independently of each other. -/
structure Layout.Independent (layout : Layout ρ) : Prop where
  nodup : (layout.fields.map Field.name).Nodup
  commutes : layout.fields.Pairwise Field.Commutes

namespace Reader

variable {members : Members} {name : String}

theorem Takes.finds {r : Reader α} {a default : α} (h : r.Takes members name a) :
    r.Finds members name a default := .inl h

theorem Finds.takes {r : Reader α} {a default : α} (h : r.Finds members name a default)
    (hfound : name ∈ members.names) : r.Takes members name a := by
  rcases h with h | ⟨habsent, -⟩
  · exact h
  · exact absurd hfound (Members.get?_eq_none_iff.mp habsent)

theorem Finds.eq_default {r : Reader α} {a default : α} (h : r.Finds members name a default)
    (habsent : members.get? name = none) : a = default := by
  rcases h with ⟨v, hfound, -⟩ | ⟨-, ha⟩
  · rw [habsent] at hfound
    contradiction
  · exact ha

theorem Takes.mem_names {r : Reader α} {a : α} (h : r.Takes members name a) :
    name ∈ members.names := by
  obtain ⟨v, hfound, -⟩ := h
  rw [← Members.isSome_get?_iff, hfound]
  rfl

theorem Takes.get?_ne_none {r : Reader α} {a : α} (h : r.Takes members name a) :
    members.get? name ≠ none := by
  obtain ⟨v, hfound, -⟩ := h
  rw [hfound]
  exact Option.some_ne_none v

theorem Finds.of_read {r : Reader α} {a default : α} {v : Json}
    (hfound : members.get? name = some v) (hread : r.ofJson v = .ok a) :
    r.Finds members name a default := .inl ⟨v, hfound, hread⟩

theorem finds_text {text : String}
    (h : members.get? name = if text ≠ "" then some (.string text) else none) :
    Reader.text.Finds members name text "" := by
  by_cases htext : text = ""
  · rw [if_neg (not_not_intro htext)] at h
    exact .inr ⟨h, htext⟩
  · rw [if_pos htext] at h
    exact .of_read h rfl

theorem finds_flag {flag : Bool}
    (h : members.get? name = if flag = true then some (.bool true) else none) :
    Reader.flag.Finds members name flag false := by
  cases flag with
  | false => exact .inr ⟨h, rfl⟩
  | true => exact .of_read h rfl

theorem finds_option {option : Option String} (h : members.get? name = option.map Json.string) :
    (Reader.optional .text).Finds members name option none := by
  cases option with
  | none => exact .inr ⟨h, rfl⟩
  | some text => exact .of_read h rfl

end Reader

namespace Field

variable {f g : Field ρ} {fields : List (Field ρ)} {name : String} {v : Json} {members : Members}
  {record x : ρ}

theorem Commutes.of {β : Type} {r : Reader α} {r' : Reader β} {other : String}
    {required required' : Bool} {put : α → ρ → ρ} {put' : β → ρ → ρ}
    (h : ∀ a b record, put' b (put a record) = put a (put' b record)) :
    Commutes (.of name required r put) (.of other required' r' put') := by
  intro v w record x
  simp only [Field.of]
  cases r.ofJson v with
  | error e => cases r'.ofJson w <;> simp [Except.map, bind, Except.bind]
  | ok a => cases r'.ofJson w <;> simp [Except.map, bind, Except.bind, h]

theorem take_of_not_mem (h : f.name ∉ members.names) : f.take members record = .ok record := by
  rw [← Members.isSome_get?_iff, Bool.not_eq_true, Option.isSome_eq_false_iff,
    Option.isNone_iff_eq_none] at h
  rw [take, h]

theorem take_cons_self (h : f.name = name) :
    f.take ((name, v) :: members) record = f.put v record := by
  rw [take, Members.get?_cons, if_pos h.symm]

theorem take_cons_of_ne (h : f.name ≠ name) :
    f.take ((name, v) :: members) record = f.take members record := by
  rw [take, Members.get?_cons, if_neg h.symm, take]

theorem Commutes.take (h : Commutes f g) :
    (f.take members record >>= g.put v) = .ok x ↔ (g.put v record >>= f.take members) = .ok x := by
  cases hfound : members.get? f.name with
  | none =>
    have htake : ∀ record, f.take members record = .ok record := by
      intro record
      rw [Field.take, hfound]
    simp only [htake]
    change g.put v record = .ok x ↔ _
    cases g.put v record <;> rfl
  | some w =>
    have htake : ∀ record, f.take members record = f.put w record := by
      intro record
      rw [Field.take, hfound]
    simp only [htake]
    exact h w v record x

theorem take_eq_ok_iff {r : Reader α} {required : Bool} {put : α → ρ → ρ} (default : α)
    (hput : put default record = record) :
    (Field.of name required r put).take members record = .ok x ↔
      ∃ a, r.Finds members name a default ∧ put a record = x := by
  cases hfound : members.get? name with
  | none =>
    have htake : (Field.of name required r put).take members record = .ok record := by
      simp only [Field.take, Field.of, hfound]
    rw [htake, Except.ok.injEq]
    constructor
    · rintro rfl
      exact ⟨default, .inr ⟨hfound, rfl⟩, hput⟩
    · rintro ⟨a, ha, rfl⟩
      rw [ha.eq_default hfound, hput]
  | some v =>
    have htake : (Field.of name required r put).take members record =
        (r.ofJson v).map fun a => put a record := by
      simp only [Field.take, Field.of, hfound]
    rw [htake, Except.map_eq_ok_iff]
    constructor
    · rintro ⟨a, hread, hput⟩
      exact ⟨a, .of_read hfound hread, hput⟩
    · rintro ⟨a, ⟨w, hw, hread⟩ | ⟨habsent, -⟩, hput⟩
      · rw [hfound, Option.some.injEq] at hw
        exact ⟨a, hw ▸ hread, hput⟩
      · rw [hfound] at habsent
        contradiction

theorem foldlM_take_cons_iff {r : Reader α} {required : Bool} {put : α → ρ → ρ} (default : α)
    (hput : put default record = record) :
    (Field.of name required r put :: fields).foldlM (take members) record = .ok x ↔
      ∃ a, r.Finds members name a default ∧
        fields.foldlM (take members) (put a record) = .ok x := by
  rw [List.foldlM_cons, Except.bind_eq_ok_iff]
  simp only [take_eq_ok_iff default hput]
  constructor
  · rintro ⟨_, ⟨a, ha, rfl⟩, hrest⟩
    exact ⟨a, ha, hrest⟩
  · rintro ⟨a, ha, hrest⟩
    exact ⟨_, ⟨a, ha, rfl⟩, hrest⟩

theorem foldlM_take_nil : fields.foldlM (take []) record = .ok record := by
  induction fields with
  | nil => rfl
  | cons f fields ih => exact ih

theorem foldlM_take_cons_of_not_mem (h : name ∉ fields.map Field.name) :
    fields.foldlM (take ((name, v) :: members)) record = fields.foldlM (take members) record := by
  induction fields generalizing record with
  | nil => rfl
  | cons f fields ih =>
    rw [List.map_cons, List.mem_cons, not_or] at h
    rw [List.foldlM_cons, List.foldlM_cons, take_cons_of_ne (Ne.symm h.1)]
    congr 1
    funext record
    exact ih h.2

/-- A member of a new name may as well be put first. -/
theorem foldlM_take_cons (hnodup : (fields.map Field.name).Nodup)
    (hcommutes : fields.Pairwise Commutes) (hmem : f ∈ fields) (hname : f.name = name)
    (hfresh : name ∉ members.names) :
    fields.foldlM (take ((name, v) :: members)) record = .ok x ↔
      (f.put v record >>= fields.foldlM (take members)) = .ok x := by
  induction fields generalizing record with
  | nil => contradiction
  | cons g fields ih =>
    obtain ⟨hother, hnodup⟩ := List.nodup_cons.mp hnodup
    obtain ⟨hfirst, hcommutes⟩ := List.pairwise_cons.mp hcommutes
    rcases List.mem_cons.mp hmem with rfl | hmem
    · subst hname
      have hskip : ∀ record, (f :: fields).foldlM (take members) record =
          fields.foldlM (take members) record := by
        intro record
        rw [List.foldlM_cons, take_of_not_mem hfresh]
        rfl
      rw [List.foldlM_cons, take_cons_self rfl, funext hskip]
      simp only [foldlM_take_cons_of_not_mem hother]
    · have hne : g.name ≠ name := by
        rintro rfl
        exact hother (hname ▸ List.mem_map_of_mem hmem)
      calc (g :: fields).foldlM (take ((name, v) :: members)) record = .ok x
        _ ↔ ∃ r, g.take members record = .ok r ∧
              fields.foldlM (take ((name, v) :: members)) r = .ok x := by
          rw [List.foldlM_cons, take_cons_of_ne hne, Except.bind_eq_ok_iff]
        _ ↔ ∃ r, g.take members record = .ok r ∧
              (f.put v r >>= fields.foldlM (take members)) = .ok x := by
          simp only [ih hnodup hcommutes hmem]
        _ ↔ ((g.take members record >>= f.put v) >>= fields.foldlM (take members)) = .ok x := by
          rw [bind_assoc, Except.bind_eq_ok_iff]
        _ ↔ ((f.put v record >>= g.take members) >>= fields.foldlM (take members)) = .ok x := by
          rw [Except.bind_eq_ok_iff, Except.bind_eq_ok_iff]
          simp only [(hfirst f hmem).take]
        _ ↔ (f.put v record >>= (g :: fields).foldlM (take members)) = .ok x := by
          rw [bind_assoc]
          simp only [List.foldlM_cons]

end Field

namespace Layout

variable {layout : Layout ρ} {members : Members} {record x : ρ}

/-- Putting the members in their order leaves what taking the fields in theirs does. -/
theorem foldlM_putMember_eq_ok_iff (h : layout.Independent) (hnodup : members.names.Nodup) :
    members.foldlM layout.putMember record = .ok x ↔
      layout.fields.foldlM (Field.take members) record = .ok x := by
  induction members generalizing record with
  | nil =>
    rw [Field.foldlM_take_nil]
    rfl
  | cons member members ih =>
    obtain ⟨name, v⟩ := member
    obtain ⟨hfresh, hnodup⟩ := List.nodup_cons.mp hnodup
    rw [List.foldlM_cons, Except.bind_eq_ok_iff]
    simp only [ih hnodup]
    rw [← Except.bind_eq_ok_iff, putMember]
    split
    · next f hfind =>
      have hname := List.find?_some hfind
      rw [Field.foldlM_take_cons h.nodup h.commutes (List.mem_of_find?_eq_some hfind)
        (of_decide_eq_true hname) hfresh]
    · next hfind =>
      have hno : name ∉ layout.fields.map Field.name := by
        intro hmem
        obtain ⟨f, hmem, hname⟩ := List.mem_map.mp hmem
        exact List.find?_eq_none.mp hfind f hmem (decide_eq_true hname)
      rw [Field.foldlM_take_cons_of_not_mem hno]
      rfl

/-- An object reads as a record exactly if its members fill the fields one after the other and no
field that is required is missing. -/
theorem ofMembers_eq_ok_iff (h : layout.Independent) (hnodup : members.names.Nodup) :
    layout.ofMembers members = .ok x ↔
      layout.fields.foldlM (Field.take members) layout.defaults = .ok x ∧
        ∀ f ∈ layout.fields, f.required = true → f.name ∈ members.names := by
  rw [← foldlM_putMember_eq_ok_iff h hnodup, ofMembers, Except.bind_eq_ok_iff]
  have hmissing : (∀ f ∈ layout.fields, f.required = true → f.name ∈ members.names) ↔
      layout.fields.find? (fun f => f.required && (members.get? f.name).isNone) = none := by
    simp only [List.find?_eq_none, Bool.and_eq_true, not_and, Option.isNone_iff_eq_none,
      Members.get?_eq_none_iff, Classical.not_not]
  rw [hmissing]
  constructor
  · rintro ⟨record, hput, hrecord⟩
    split at hrecord
    · contradiction
    · next hnone =>
      rw [hput, hrecord]
      exact ⟨rfl, hnone⟩
  · rintro ⟨hput, hnone⟩
    refine ⟨x, hput, ?_⟩
    rw [hnone]

end Layout

end RecordStore.Json
