import RecordStore.Json.Basic

/-! # Members put in their places

Members are put in ascending order of their names, so that no name occurs twice. What is found under
a name is what was put there last. -/

namespace RecordStore.Json.Members

variable {name : String} {v : Json} {m base added entries : Members} {member : String × Json}

def Ordered (m : Members) : Prop := m.names.Pairwise (· < ·)

theorem Ordered.nodup (h : m.Ordered) : m.names.Nodup := h.imp Std.ne_of_lt

theorem names_cons (member : String × Json) (m : Members) :
    names (member :: m) = member.1 :: names m := rfl

theorem isSome_get?_iff : (m.get? name).isSome = true ↔ name ∈ m.names := by
  induction m with
  | nil => simp [names]
  | cons member m ih =>
    obtain ⟨k, w⟩ := member
    rw [get?_cons, names_cons, List.mem_cons]
    by_cases hk : k = name
    · simp [hk]
    · simp [hk, Ne.symm hk, ih]

theorem get?_eq_none_iff : m.get? name = none ↔ name ∉ m.names := by
  rw [← isSome_get?_iff, Option.not_isSome_iff_eq_none]

/-- Where no name occurs twice, a member is found under its name. -/
theorem get?_eq_some_iff_mem (h : m.names.Nodup) : m.get? name = some v ↔ (name, v) ∈ m := by
  induction m with
  | nil => simp
  | cons member m ih =>
    obtain ⟨k, w⟩ := member
    obtain ⟨hk, hrest⟩ := List.nodup_cons.mp h
    rw [get?_cons, List.mem_cons, ← ih hrest, Prod.mk.injEq]
    by_cases hname : k = name
    · subst hname
      have hnone : get? k m = none := get?_eq_none_iff.mpr hk
      simp [hnone, eq_comm]
    · simp [hname, Ne.symm hname]

/-! ## Members left out -/

def without (name : String) (m : Members) : Members := m.filter (·.1 ≠ name)

theorem get?_without_self : (m.without name).get? name = none := by
  rw [get?_eq_none_iff, names, List.mem_map]
  rintro ⟨member, hmem, rfl⟩
  exact of_decide_eq_true (List.mem_filter.mp hmem).2 rfl

theorem without_eq_self (h : m.get? name = none) : m.without name = m := by
  rw [get?_eq_none_iff] at h
  apply List.filter_eq_self.mpr
  intro member hmem
  apply decide_eq_true
  rintro rfl
  exact h (List.mem_map_of_mem hmem)

theorem nodup_names_without (h : m.names.Nodup) : (m.without name).names.Nodup :=
  h.sublist (List.filter_sublist.map _)

/-! ## One member -/

theorem mem_of_mem_insert (h : member ∈ m.insert name v) : member = (name, v) ∨ member ∈ m := by
  induction m with
  | nil => exact .inl (List.mem_singleton.mp h)
  | cons other m ih =>
    obtain ⟨k, w⟩ := other
    rw [insert] at h
    split at h
    · exact (List.mem_cons.mp h).imp_right (List.mem_cons_of_mem _)
    · split at h
      · exact List.mem_cons.mp h
      · rcases List.mem_cons.mp h with rfl | h
        · exact .inr List.mem_cons_self
        · exact (ih h).imp_right (List.mem_cons_of_mem _)

theorem ordered_insert (h : m.Ordered) : (m.insert name v).Ordered := by
  induction m with
  | nil => exact List.pairwise_singleton _ _
  | cons other m ih =>
    obtain ⟨k, w⟩ := other
    obtain ⟨hfirst, hrest⟩ := List.pairwise_cons.mp h
    rw [insert]
    split
    · next hk =>
      subst hk
      exact h
    · next hk =>
      split
      · next hlt =>
        apply List.pairwise_cons.mpr ⟨?_, h⟩
        rintro other (_ | ⟨_, hmem⟩)
        · exact hlt
        · exact String.lt_trans hlt (hfirst _ hmem)
      · next hlt =>
        apply List.pairwise_cons.mpr ⟨?_, ih hrest⟩
        intro other hmem
        rcases (mem_names_insert m name other v).mp hmem with rfl | hmem
        · exact Std.lt_of_le_of_ne (Std.not_lt.mp hlt) hk
        · exact hfirst _ hmem

/-! ## Many members -/

@[simp] theorem insertAll_nil (base : Members) : insertAll [] base = base := rfl

@[simp] theorem insertAll_cons (member : String × Json) (added base : Members) :
    insertAll (member :: added) base = insertAll added (base.insert member.1 member.2) := rfl

@[simp] theorem insertAll_append (added more base : Members) :
    insertAll (added ++ more) base = insertAll more (insertAll added base) := List.foldl_append

theorem get?_insertAll_of_not_mem (h : name ∉ added.names) :
    (insertAll added base).get? name = base.get? name := by
  induction added generalizing base with
  | nil => rfl
  | cons member added ih =>
    rw [names_cons, List.mem_cons, not_or] at h
    rw [insertAll_cons, ih h.2, get?_insert, if_neg (Ne.symm h.1)]

theorem mem_names_insertAll :
    name ∈ (insertAll added base).names ↔ name ∈ added.names ∨ name ∈ base.names := by
  induction added generalizing base with
  | nil => simp [names]
  | cons member added ih =>
    rw [insertAll_cons, ih, mem_names_insert, names_cons, List.mem_cons, or_left_comm, or_assoc]

/-- Members whose names are all different stand before those that were there. -/
theorem get?_insertAll (h : added.names.Nodup) :
    (insertAll added base).get? name = (added.get? name).or (base.get? name) := by
  induction added generalizing base with
  | nil => rfl
  | cons member added ih =>
    obtain ⟨k, w⟩ := member
    obtain ⟨hk, hrest⟩ := List.nodup_cons.mp h
    rw [insertAll_cons, ih hrest, get?_insert, get?_cons]
    by_cases hname : k = name
    · subst hname
      rw [get?_eq_none_iff.mpr hk, if_pos rfl, if_pos rfl]
      rfl
    · rw [if_neg hname, if_neg hname]

theorem mem_of_mem_insertAll (h : member ∈ insertAll added base) :
    member ∈ added ∨ member ∈ base := by
  induction added generalizing base with
  | nil => exact .inr h
  | cons first added ih =>
    rcases ih h with h | h
    · exact .inl (List.mem_cons_of_mem _ h)
    · rcases mem_of_mem_insert h with rfl | h
      · exact .inl List.mem_cons_self
      · exact .inr h

theorem mem_of_mem_ofList (h : member ∈ ofList entries) : member ∈ entries :=
  (mem_of_mem_insertAll h).resolve_right List.not_mem_nil

theorem ordered_insertAll (h : base.Ordered) : (insertAll added base).Ordered := by
  induction added generalizing base with
  | nil => exact h
  | cons member added ih => exact ih (ordered_insert h)

theorem ordered_ofList (entries : Members) : (ofList entries).Ordered := ordered_insertAll .nil

end RecordStore.Json.Members
