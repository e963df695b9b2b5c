import RecordStore.Key
import RecordStore.Proofs.Paths
import Mathlib.Data.List.Dedup

/-! # One key in all its views

Equality, pairs, texts and hashes tell the same keys apart: those of different kinds or identifiers.
So keys are merged alike, in whatever view they are collected. -/

namespace RecordStore

/-- The hasher that writes down what it takes in. -/
def Hasher.record : Hasher (List (Nat ⊕ String)) where
  number n taken := .inl n :: taken
  text s taken := .inr s :: taken
  finish _ := 0

theorem Kind.slash_not_mem_typeName (kind : Kind) : '/' ∉ kind.typeName.toList := by
  cases kind <;> decide

namespace Key

variable {a b : Key} {keys kept : List Key}

/-! ## Pairs -/

theorem id?_ne_empty (key : Key) : key.id? ≠ some "" := by
  intro h
  exact (id?_eq_some_iff.mp h).1 rfl

theorem beq_iff_pair_eq : (a == b) = true ↔ a.pair = b.pair := by
  have ha := a.id?_ne_empty
  have hb := b.id?_ne_empty
  rw [beq_iff, pair, pair, Prod.mk.injEq]
  apply and_congr_right
  intro _
  cases hfirst : a.id? <;> cases hsecond : b.id? <;> simp_all [Ne.symm]

theorem pair_ofPair (p : Kind × String) : (ofPair p).pair = p := by
  obtain ⟨kind, id⟩ := p
  by_cases hid : id = ""
  · simp [ofPair, make, pair, Key.kind, id?, hid]
  · simp [ofPair, make, pair, Key.kind, id?, hid]

theorem ofPair_pair (key : Key) : (ofPair key.pair == key) = true :=
  beq_iff_pair_eq.mpr (pair_ofPair key.pair)

instance : EquivBEq Key where
  rfl := beq_iff_pair_eq.mpr rfl
  symm h := beq_iff_pair_eq.mpr (beq_iff_pair_eq.mp h).symm
  trans h h' := beq_iff_pair_eq.mpr ((beq_iff_pair_eq.mp h).trans (beq_iff_pair_eq.mp h'))

/-! ## Texts -/

/-- The first slash ends the name of the kind, as there is none in it. -/
theorem head?_splitOn_text (key : Key) :
    (Text.splitOn (· = '/') key.text.toList).head? = some key.kind.typeName.toList := by
  have hname : Text.splitOn (· = '/') key.kind.typeName.toList = [key.kind.typeName.toList] := by
    apply Text.splitOn_eq_singleton
    intro c hc hslash
    exact key.kind.slash_not_mem_typeName (of_decide_eq_true hslash ▸ hc)
  rw [text]
  cases key.id? with
  | none => rw [hname, List.head?_cons]
  | some id =>
    have hchars : (key.kind.typeName ++ "/" ++ id).toList =
        key.kind.typeName.toList ++ '/' :: id.toList := by
      simp [String.toList_append]
    rw [hchars, Text.splitOn_append_cons (by decide), hname]
    rfl

theorem kind_eq_of_text_eq (h : a.text = b.text) : a.kind = b.kind := by
  have hhead := a.head?_splitOn_text
  rw [h, head?_splitOn_text, Option.some.injEq] at hhead
  exact (Kind.typeName_injective (String.toList_injective hhead)).symm

theorem id?_eq_of_text_eq (h : a.text = b.text) : a.id? = b.id? := by
  have hne : ∀ name id : String, name ≠ name ++ "/" ++ id := by
    intro name id heq
    have hlength := congrArg String.length heq
    have hslash : "/".length = 1 := rfl
    rw [String.length_append, String.length_append, hslash] at hlength
    omega
  have hkind := kind_eq_of_text_eq h
  rw [text, text, hkind] at h
  cases hfirst : a.id? with
  | none =>
    cases hsecond : b.id? with
    | none => rfl
    | some id =>
      rw [hfirst, hsecond] at h
      exact absurd h (hne _ _)
  | some id =>
    cases hsecond : b.id? with
    | none =>
      rw [hfirst, hsecond] at h
      exact absurd h.symm (hne _ _)
    | some other =>
      rw [hfirst, hsecond] at h
      exact congrArg some ((String.append_right_inj _).mp h)

theorem text_eq_iff_pair_eq : a.text = b.text ↔ a.pair = b.pair := by
  rw [← beq_iff_pair_eq, beq_iff]
  constructor
  · exact fun h => ⟨kind_eq_of_text_eq h, id?_eq_of_text_eq h⟩
  · rintro ⟨hkind, hid⟩
    rw [text, text, hkind, hid]

/-! ## Hashes -/

theorem feed_eq_of_beq (h : (a == b) = true) {σ : Type} (hasher : Hasher σ) (state : σ) :
    a.feed hasher state = b.feed hasher state := by
  obtain ⟨hkind, hid⟩ := beq_iff.mp h
  rw [feed, feed, hkind, hid]

theorem beq_of_feed_record (h : a.feed .record [] = b.feed .record []) : (a == b) = true := by
  rw [beq_iff, ← List.idxOf_inj a.kind.mem_all]
  rw [feed, feed] at h
  cases ha : a.id? <;> cases hb : b.id? <;>
    simp_all [Kind.feed, Hasher.record]

/-! ## Collections -/

/-- Of the keys, those that are kept: one for each pair, and so one for each text. -/
structure Merges (keys kept : List Key) : Prop where
  pairs : (kept.map pair).Perm (keys.map pair).dedup
  texts : (kept.map text).Perm (keys.map text).dedup

@[reducible] def hashable {σ : Type} (hasher : Hasher σ) (start : σ) : Hashable Key where
  hash key := hasher.finish (key.feed hasher start)

def collect {σ : Type} (hasher : Hasher σ) (start : σ) (keys : List Key) : List Key :=
  letI := hashable hasher start
  (Std.HashSet.ofList keys).toList

theorem map_text_eq (keys : List Key) :
    keys.map text = (keys.map pair).map fun p => (ofPair p).text := by
  rw [List.map_map]
  apply List.map_congr_left
  intro key _
  exact text_eq_iff_pair_eq.mpr (pair_ofPair key.pair).symm

theorem text_ofPair_injective : Function.Injective fun p => (ofPair p).text := by
  intro p q h
  have hpair := text_eq_iff_pair_eq.mp h
  rwa [pair_ofPair, pair_ofPair] at hpair

theorem contains_ofPair_iff {p : Kind × String} :
    keys.contains (ofPair p) = true ↔ p ∈ keys.map pair := by
  rw [List.contains_iff_exists_mem_beq, List.mem_map]
  simp only [beq_iff_pair_eq, pair_ofPair]
  exact exists_congr fun key => and_congr_right' eq_comm

/-- What is kept of each pair is kept of each text, as no two pairs have one text. -/
theorem merges_of_pairs (hnodup : (kept.map pair).Nodup)
    (hmem : ∀ p, p ∈ kept.map pair ↔ p ∈ keys.map pair) : Merges keys kept := by
  have hpairs : (kept.map pair).Perm (keys.map pair).dedup := by
    rw [List.perm_ext_iff_of_nodup hnodup (List.nodup_dedup _)]
    simp only [List.mem_dedup, hmem, implies_true]
  refine ⟨hpairs, ?_⟩
  rw [map_text_eq, map_text_eq, List.dedup_map_of_injective text_ofPair_injective]
  exact hpairs.map _

theorem pairs_distinct (keys : List Key) :
    ((distinct keys).map pair).Nodup ∧ ∀ p, p ∈ (distinct keys).map pair ↔ p ∈ keys.map pair := by
  match keys with
  | [] => exact ⟨.nil, fun p => Iff.rfl⟩
  | key :: keys =>
    let others := keys.filter fun other => !other == key
    have hdistinct : distinct (key :: keys) = key :: distinct others := List.eraseDups_cons
    have hothers : ∀ p, p ∈ others.map pair ↔ p ∈ keys.map pair ∧ p ≠ key.pair := by
      intro p
      simp only [others, List.mem_map, List.mem_filter, Bool.not_eq_true', ← Bool.not_eq_true,
        beq_iff_pair_eq]
      constructor
      · rintro ⟨other, ⟨hmem, hne⟩, rfl⟩
        exact ⟨⟨other, hmem, rfl⟩, hne⟩
      · rintro ⟨⟨other, hmem, rfl⟩, hne⟩
        exact ⟨other, ⟨hmem, hne⟩, rfl⟩
    obtain ⟨hnodup, hmem⟩ := pairs_distinct others
    rw [hdistinct, List.map_cons, List.nodup_cons, hmem, hothers]
    refine ⟨⟨fun h => h.2 rfl, hnodup⟩, fun p => ?_⟩
    rw [List.mem_cons, hmem, hothers, List.map_cons, List.mem_cons]
    by_cases hp : p = key.pair <;> simp [hp]
termination_by keys.length
decreasing_by exact Nat.lt_succ_of_le (List.length_filter_le _ _)

theorem merges_distinct (keys : List Key) : Merges keys (distinct keys) := by
  obtain ⟨hnodup, hmem⟩ := pairs_distinct keys
  exact merges_of_pairs hnodup hmem

theorem merges_collect {σ : Type} (hasher : Hasher σ) (start : σ) (keys : List Key) :
    Merges keys (collect hasher start keys) := by
  let := hashable hasher start
  have : LawfulHashable Key := ⟨fun a b h => congrArg hasher.finish (feed_eq_of_beq h hasher start)⟩
  apply merges_of_pairs
  · rw [List.Nodup, List.pairwise_map]
    apply Std.HashSet.distinct_toList.imp
    intro a b h hpair
    rw [beq_iff_pair_eq.mpr hpair] at h
    contradiction
  · intro p
    rw [← contains_ofPair_iff, ← contains_ofPair_iff, collect, Std.HashSet.contains_toList,
      Std.HashSet.contains_ofList]

/-- Two keys are equal exactly if their pairs are, exactly if their texts are, and exactly if they
add the same to every hash. A pair leads to a key and back to itself, and a key to its pair and back
to a key that is equal. So of keys that are collected, in whatever order and by whatever hashes, one
is kept for each kind and identifier. -/
theorem views_agree :
    (∀ a b : Key, ((a == b) = true ↔ a.pair = b.pair) ∧ (a.pair = b.pair ↔ a.text = b.text) ∧
      ((a == b) = true ↔ ∀ {σ : Type} (hasher : Hasher σ) (state : σ),
        a.feed hasher state = b.feed hasher state)) ∧
    (∀ key : Key, (ofPair key.pair == key) = true) ∧
    (∀ kind id, (ofPair (kind, id)).pair = (kind, id)) ∧
    ∀ keys, Merges keys (distinct keys) ∧
      ∀ {σ : Type} (hasher : Hasher σ) (start : σ), Merges keys (collect hasher start keys) := by
  refine ⟨fun a b => ⟨beq_iff_pair_eq, text_eq_iff_pair_eq.symm, ?_⟩, ofPair_pair,
    fun kind id => pair_ofPair (kind, id), fun keys => ⟨merges_distinct keys, ?_⟩⟩
  · constructor
    · exact fun h _ hasher state => feed_eq_of_beq h hasher state
    · exact fun h => beq_of_feed_record (h .record [])
  · intro _ hasher start
    exact merges_collect hasher start keys

end Key

end RecordStore
