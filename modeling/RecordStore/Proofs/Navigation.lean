import RecordStore.Proofs.Paths

/-! # Where paths lead

A path is read as its steps, however many slashes part them, and leads where the steps lead one
after the other: on an object to the member of this name, on an array to the item of this index. -/

namespace RecordStore

namespace Text

variable {c : Char} {digits : List Char} {n : Nat}

/-- The digits are those of the number, perhaps behind zeros. -/
def IsDecimal (digits : List Char) (n : Nat) : Prop :=
  ∃ zeros, digits = List.replicate zeros '0' ++ Nat.toDigits 10 n

theorem isDigit_iff : c.isDigit = true ↔ 48 ≤ c.toNat ∧ c.toNat ≤ 57 := by
  simp only [Char.isDigit, Bool.and_eq_true, decide_eq_true_eq, ge_iff_le, UInt32.le_iff_toNat_le]
  rfl

theorem digitValue_lt (h : c.isDigit = true) : digitValue c < 10 := by
  obtain ⟨-, hle⟩ := isDigit_iff.mp h
  change c.toNat - 48 < 10
  omega

theorem digitChar_digitValue (h : c.isDigit = true) : Nat.digitChar (digitValue c) = c := by
  apply Char.toNat_inj.mp
  rw [Nat.toNat_digitChar_of_lt_ten (digitValue_lt h)]
  obtain ⟨hge, -⟩ := isDigit_iff.mp h
  change 48 + (c.toNat - 48) = c.toNat
  omega

theorem decimalValue_eq (digits : List Char) :
    decimalValue digits = Nat.ofDigitChars 10 digits 0 := by
  simp only [Nat.ofDigitChars_eq_foldl, decimalValue, digitValue, Nat.mul_comm]

/-- Further digits are read onto a number that is not zero as they are written behind it. -/
theorem toDigits_append (hn : 0 < n) (h : ∀ c ∈ digits, c.isDigit = true) :
    Nat.toDigits 10 n ++ digits = Nat.toDigits 10 (Nat.ofDigitChars 10 digits n) := by
  induction digits generalizing n with
  | nil => rw [List.append_nil, Nat.ofDigitChars_nil]
  | cons c digits ih =>
    obtain ⟨hc, hdigits⟩ := List.forall_mem_cons.mp h
    have hone : Nat.toDigits 10 n ++ [c] = Nat.toDigits 10 (10 * n + digitValue c) := by
      rw [← Nat.toDigits_append_toDigits (by decide) hn (digitValue_lt hc),
        Nat.toDigits_of_lt_base (digitValue_lt hc), digitChar_digitValue hc]
    have hpos : 0 < 10 * n + digitValue c := by omega
    rw [Nat.ofDigitChars_cons, ← digitValue, ← ih hpos hdigits, ← hone, List.append_assoc]
    rfl

theorem isDecimal_decimalValue (hne : digits ≠ []) (h : ∀ c ∈ digits, c.isDigit = true) :
    IsDecimal digits (decimalValue digits) := by
  rw [decimalValue_eq]
  induction digits with
  | nil => contradiction
  | cons c digits ih =>
    obtain ⟨hc, hdigits⟩ := List.forall_mem_cons.mp h
    by_cases hzero : c = '0'
    · subst hzero
      by_cases hlast : digits = []
      · subst hlast
        exact ⟨0, rfl⟩
      · obtain ⟨zeros, hzeros⟩ := ih hlast hdigits
        refine ⟨zeros + 1, ?_⟩
        rw [Nat.ofDigitChars_cons, List.replicate_succ, List.cons_append]
        exact congrArg (List.cons '0') hzeros
    · have hpos : 0 < digitValue c := by
        rw [Nat.pos_iff_ne_zero]
        intro hvalue
        have hchar := digitChar_digitValue hc
        rw [hvalue] at hchar
        exact hzero hchar.symm
      refine ⟨0, ?_⟩
      rw [Nat.ofDigitChars_cons, Nat.mul_zero, Nat.zero_add, ← digitValue,
        ← toDigits_append hpos hdigits, Nat.toDigits_of_lt_base (digitValue_lt hc),
        digitChar_digitValue hc]
      rfl

theorem isDecimal_iff :
    IsDecimal digits n ↔
      (digits ≠ [] ∧ ∀ c ∈ digits, c.isDigit = true) ∧ decimalValue digits = n := by
  constructor
  · rintro ⟨zeros, rfl⟩
    refine ⟨⟨List.append_ne_nil_of_right_ne_nil _ Nat.toDigits_ne_nil, fun c hc => ?_⟩, ?_⟩
    · rcases List.mem_append.mp hc with hc | hc
      · rw [List.eq_of_mem_replicate hc]
        rfl
      · exact Nat.isDigit_of_mem_toDigits (by decide) (by decide) hc
    · rw [decimalValue_eq, Nat.ofDigitChars_append, Nat.ofDigitChars_replicate_zero, Nat.mul_zero,
        Nat.ofDigitChars_ten_toDigits]
  · rintro ⟨⟨hne, hdigits⟩, rfl⟩
    exact isDecimal_decimalValue hne hdigits

end Text

namespace Document

open Text (IsDecimal)

variable {name : String} {index : Nat}

/-- The text denotes the index, which fits into 64 bits: it is a decimal of it, perhaps behind a
plus sign. -/
def Denotes (name : String) (index : Nat) : Prop :=
  (IsDecimal name.toList index ∨ ∃ digits, name.toList = '+' :: digits ∧ IsDecimal digits index) ∧
    index < indexBound

/-- Digits are read if they are a decimal of a number that fits. -/
theorem ite_decimalValue_eq_some_iff (digits : List Char) :
    (if digits.isEmpty || !digits.all Char.isDigit then none
      else if Text.decimalValue digits < indexBound then some (Text.decimalValue digits)
      else none) = some index ↔ IsDecimal digits index ∧ index < indexBound := by
  rw [Text.isDecimal_iff]
  by_cases hdigits : digits ≠ [] ∧ ∀ c ∈ digits, c.isDigit = true
  · have hgood : (digits.isEmpty || !digits.all Char.isDigit) = false := by simpa using hdigits
    rw [hgood, if_neg Bool.false_ne_true, Option.ite_none_right_eq_some, Option.some.injEq]
    constructor
    · rintro ⟨hlt, rfl⟩
      exact ⟨⟨hdigits, rfl⟩, hlt⟩
    · rintro ⟨⟨-, rfl⟩, hlt⟩
      exact ⟨hlt, rfl⟩
  · have hbad : (digits.isEmpty || !digits.all Char.isDigit) = true := by
      rw [← Bool.not_eq_false]
      intro hgood
      exact hdigits (by simpa using hgood)
    rw [if_pos hbad]
    simp [hdigits]

theorem not_isDecimal_plus (digits : List Char) : ¬IsDecimal ('+' :: digits) index := by
  intro h
  have hsign := (Text.isDecimal_iff.mp h).1.2 '+' List.mem_cons_self
  contradiction

theorem index?_eq_some_iff : index? name = some index ↔ Denotes name index := by
  rw [index?, Denotes]
  split
  · next digits hname =>
    refine (ite_decimalValue_eq_some_iff digits).trans (and_congr_left' ?_)
    rw [hname]
    constructor
    · exact fun h => .inr ⟨digits, rfl, h⟩
    · rintro (h | ⟨_, heq, h⟩)
      · exact absurd h (not_isDecimal_plus digits)
      · rwa [List.tail_eq_of_cons_eq heq]
  · next hname =>
    refine (ite_decimalValue_eq_some_iff name.toList).trans (and_congr_left' ?_)
    constructor
    · exact .inl
    · rintro (h | ⟨digits, heq, -⟩)
      · exact h
      · exact absurd heq (hname digits)

/-! ## Steps -/

variable {names rest : List String} {path : String} {d e : Document}

/-- The step leads from the document to a part of it: on an object to the member of this name, on an
array to the item of this index. -/
inductive Leads (name : String) : Document → Document → Prop
  | member {m : Json.Members} {v : Json} (h : m.get? name = some v) : Leads name (.object m) v
  | item {items : List Json} {index : Nat} {v : Json} (hindex : Denotes name index)
      (h : items[index]? = some v) : Leads name (.array items) v

/-- The step has no target in the document. -/
inductive Ends (name : String) : Document → Prop
  | missing {m : Json.Members} (h : m.get? name = none) : Ends name (.object m)
  | malformed {items : List Json} (h : ∀ index, ¬Denotes name index) : Ends name (.array items)
  | beyond {items : List Json} {index : Nat} (hindex : Denotes name index)
      (h : items.length ≤ index) : Ends name (.array items)
  | scalar {d : Document} (hobject : ∀ m, d ≠ .object m) (harray : ∀ items, d ≠ .array items) :
    Ends name d

theorem step_eq_some_iff : step name d = some e ↔ Leads name d e := by
  constructor
  · intro h
    cases d with
    | object m => exact .member h
    | array items =>
      obtain ⟨index, hindex, hitem⟩ := Option.bind_eq_some_iff.mp h
      exact .item (index?_eq_some_iff.mp hindex) hitem
    | null | bool _ | number _ | string _ => contradiction
  · rintro (h | ⟨hindex, h⟩)
    · exact h
    · rw [step, index?_eq_some_iff.mpr hindex]
      exact h

theorem step_eq_none_iff : step name d = none ↔ Ends name d := by
  constructor
  · intro h
    cases d with
    | object m => exact .missing h
    | array items =>
      cases hindex : index? name with
      | none =>
        refine .malformed fun index hdenotes => ?_
        rw [index?_eq_some_iff.mpr hdenotes] at hindex
        contradiction
      | some index =>
        rw [step, hindex] at h
        exact .beyond (index?_eq_some_iff.mp hindex) (List.getElem?_eq_none_iff.mp h)
    | null | bool _ | number _ | string _ =>
      exact .scalar (by simp) (by simp)
  · intro h
    cases h with
    | missing h => exact h
    | malformed h =>
      rw [step, Option.bind_eq_none_iff]
      intro index hindex
      exact absurd (index?_eq_some_iff.mp hindex) (h index)
    | beyond hindex h =>
      rw [step, index?_eq_some_iff.mpr hindex]
      exact List.getElem?_eq_none h
    | scalar hobject harray =>
      cases d with
      | object m => exact absurd rfl (hobject m)
      | array items => exact absurd rfl (harray items)
      | null | bool _ | number _ | string _ => rfl

/-! ## Walks -/

inductive Reaches : List String → Document → Document → Prop
  | here (d : Document) : Reaches [] d d
  | step {name : String} {rest : List String} {d e f : Document} (h : Leads name d e)
      (hrest : Reaches rest e f) : Reaches (name :: rest) d f

/-- One of the steps has no target where those before it lead. -/
def Stops (names : List String) (d : Document) : Prop :=
  ∃ before name after e, names = before ++ name :: after ∧ Reaches before d e ∧ Ends name e

theorem walk_eq_some_iff : walk names d = some e ↔ Reaches names d e := by
  induction names generalizing d with
  | nil =>
    rw [walk_nil, Option.some.injEq]
    constructor
    · rintro rfl
      exact .here d
    · rintro ⟨⟩
      rfl
  | cons name rest ih =>
    rw [walk_cons, Option.bind_eq_some_iff]
    constructor
    · rintro ⟨part, hstep, hrest⟩
      exact .step (step_eq_some_iff.mp hstep) (ih.mp hrest)
    · rintro (_ | ⟨hstep, hrest⟩)
      exact ⟨_, step_eq_some_iff.mpr hstep, ih.mpr hrest⟩

theorem stops_cons_iff (h : Leads name d e) : Stops (name :: rest) d ↔ Stops rest e := by
  have hstep := step_eq_some_iff.mpr h
  constructor
  · rintro ⟨before, other, after, part, hnames, hreaches, hends⟩
    rcases List.cons_eq_append_iff.mp hnames with ⟨rfl, hother⟩ | ⟨before, rfl, hrest⟩
    · -- The first step has a target.
      cases hreaches
      rw [(List.cons.inj hother).1, ← step_eq_none_iff, hstep] at hends
      contradiction
    · cases hreaches with
      | step hlead hreaches =>
        rw [← step_eq_some_iff, hstep] at hlead
        cases hlead
        exact ⟨before, other, after, part, hrest, hreaches, hends⟩
  · rintro ⟨before, other, after, part, rfl, hreaches, hends⟩
    exact ⟨name :: before, other, after, part, rfl, .step h hreaches, hends⟩

theorem walk_eq_none_iff : walk names d = none ↔ Stops names d := by
  induction names generalizing d with
  | nil => simp [Stops]
  | cons name rest ih =>
    rw [walk_cons]
    cases hstep : step name d with
    | none =>
      rw [Option.bind_none, eq_self, true_iff]
      exact ⟨[], name, rest, d, rfl, .here d, step_eq_none_iff.mp hstep⟩
    | some e => rw [Option.bind_some, ih, stops_cons_iff (step_eq_some_iff.mp hstep)]

/-! ## Paths -/

/-- A step as it can stand between slashes. -/
def IsStep (name : String) : Prop := name ≠ "" ∧ '/' ∉ name.toList

/-- The path spells the steps: they stand in it in their order, with at least one slash between any
two and with slashes before and behind them or not. -/
inductive Spells : String → List String → Prop
  | empty : Spells "" []
  | slash {path : String} {names : List String} (h : Spells path names) : Spells ("/" ++ path) names
  | last {name : String} (hname : IsStep name) : Spells name [name]
  | step {name path : String} {names : List String} (hname : IsStep name) (h : Spells path names) :
    Spells (name ++ "/" ++ path) (name :: names)

theorem steps_of_isStep (h : IsStep name) : steps name = [name] := steps_of_name h.1 h.2

theorem Spells.steps_eq (h : Spells path names) : steps path = names := by
  induction h with
  | empty => rfl
  | @slash path names _ ih =>
    have hslash := steps_append_slash "" path
    rw [String.empty_append] at hslash
    rw [hslash, ih]
    rfl
  | last hname => exact steps_of_isStep hname
  | step hname _ ih =>
    rw [steps_append_slash, steps_of_isStep hname, ih]
    rfl

theorem isStep_singleton_append {c : Char} (hc : c ≠ '/') (h : '/' ∉ name.toList) :
    IsStep (String.singleton c ++ name) := by
  simp [IsStep, Ne.symm hc, h]

theorem Spells.exists_singleton_append {c : Char} (hc : c ≠ '/') (h : Spells path names) :
    ∃ names, Spells (String.singleton c ++ path) names := by
  have hchar : IsStep (String.singleton c) := by
    rw [← String.append_empty (s := String.singleton c)]
    exact isStep_singleton_append hc (by simp)
  cases h with
  | empty =>
    rw [String.append_empty]
    exact ⟨_, .last hchar⟩
  | slash h =>
    rw [← String.append_assoc]
    exact ⟨_, .step hchar h⟩
  | last hname => exact ⟨_, .last (isStep_singleton_append hc hname.2)⟩
  | step hname h =>
    rw [← String.append_assoc, ← String.append_assoc]
    exact ⟨_, .step (isStep_singleton_append hc hname.2) h⟩

/-- Every path spells some steps. -/
theorem exists_spells (path : String) : ∃ names, Spells path names := by
  rw [← String.ofList_toList (s := path)]
  induction path.toList with
  | nil => exact ⟨_, .empty⟩
  | cons c chars ih =>
    obtain ⟨names, h⟩ := ih
    rw [String.ofList_cons]
    by_cases hc : c = '/'
    · rw [hc]
      exact ⟨names, .slash h⟩
    · exact h.exists_singleton_append hc

theorem lookup_eq_some_iff (h : Spells path names) :
    lookup path d = some e ↔ Reaches names d e := by
  rw [lookup, h.steps_eq, walk_eq_some_iff]

theorem lookup_eq_none_iff (h : Spells path names) : lookup path d = none ↔ Stops names d := by
  rw [lookup, h.steps_eq, walk_eq_none_iff]

theorem lookup_append_slash (p q : String) (d : Document) :
    lookup (p ++ "/" ++ q) d = (lookup p d).bind (lookup q) := by
  rw [lookup, steps_append_slash, walk_append]
  rfl

/-! ## Positions -/

/-- What leads from a document to one of its parts: the name of a member or the index of an item. -/
inductive Turn where
  | member (name : String)
  | item (index : Nat)

def Turn.text : Turn → String
  | member name => name
  | item index => String.ofList (Text.decimal index)

/-- The turn can be written as a step of a path. -/
inductive Turn.IsPlain : Turn → Prop
  | member {name : String} (h : IsStep name) : IsPlain (.member name)
  | item {index : Nat} (h : index < indexBound) : IsPlain (.item index)

/-- The second document is the part of the first at the position. -/
inductive LiesAt : List Turn → Document → Document → Prop
  | here (d : Document) : LiesAt [] d d
  | member {name : String} {rest : List Turn} {m : Json.Members} {v e : Document}
      (h : m.get? name = some v) (hrest : LiesAt rest v e) :
    LiesAt (.member name :: rest) (.object m) e
  | item {index : Nat} {rest : List Turn} {items : List Json} {v e : Document}
      (h : items[index]? = some v) (hrest : LiesAt rest v e) :
    LiesAt (.item index :: rest) (.array items) e

def pathTo (position : List Turn) : String := "/".intercalate (position.map Turn.text)

variable {turn : Turn} {position : List Turn}

theorem denotes_decimal {index : Nat} (h : index < indexBound) :
    Denotes (String.ofList (Text.decimal index)) index := by
  refine ⟨.inl ⟨0, ?_⟩, h⟩
  rw [String.toList_ofList]
  rfl

theorem Turn.IsPlain.isStep (h : turn.IsPlain) : IsStep turn.text := by
  cases h with
  | member h => exact h
  | @item index h =>
    rw [IsStep, text, String.toList_ofList, ne_eq, String.ofList_eq_empty_iff]
    refine ⟨Nat.toDigits_ne_nil, fun hslash => ?_⟩
    have hdigit := Nat.isDigit_of_mem_toDigits (by decide) (by decide) hslash
    contradiction

theorem spells_intercalate (h : ∀ name ∈ names, IsStep name) :
    Spells ("/".intercalate names) names := by
  induction names with
  | nil => exact .empty
  | cons name rest ih =>
    obtain ⟨hname, hrest⟩ := List.forall_mem_cons.mp h
    cases rest with
    | nil =>
      rw [String.intercalate_singleton]
      exact .last hname
    | cons other rest =>
      rw [String.intercalate_cons_cons]
      exact .step hname (ih hrest)

theorem LiesAt.reaches (h : LiesAt position d e) (hplain : ∀ turn ∈ position, turn.IsPlain) :
    Reaches (position.map Turn.text) d e := by
  induction h with
  | here d => exact .here d
  | member h _ ih => exact .step (.member h) (ih (List.forall_mem_cons.mp hplain).2)
  | item h _ ih =>
    obtain ⟨hturn, hrest⟩ := List.forall_mem_cons.mp hplain
    cases hturn with
    | item hlt => exact .step (.item (denotes_decimal hlt) h) (ih hrest)

theorem lookup_pathTo (h : LiesAt position d e) (hplain : ∀ turn ∈ position, turn.IsPlain) :
    lookup (pathTo position) d = some e := by
  have hspells : Spells (pathTo position) (position.map Turn.text) := by
    apply spells_intercalate
    intro name hname
    obtain ⟨turn, hturn, rfl⟩ := List.mem_map.mp hname
    exact (hplain turn hturn).isStep
  exact (lookup_eq_some_iff hspells).mpr (h.reaches hplain)

/-- A path leads where its steps lead one after the other, and nowhere exactly if one of them has no
target there. Every path spells some steps, and a part of a document is reached by the path that
spells its position. A path behind a slash is taken from where the path before it leads. -/
theorem lookup_follows_steps (d : Document) :
    (∀ path, ∃ names, Spells path names) ∧
    (∀ {path names}, Spells path names →
      (∀ e, lookup path d = some e ↔ Reaches names d e) ∧ (lookup path d = none ↔ Stops names d)) ∧
    (∀ {position e}, LiesAt position d e → (∀ turn ∈ position, turn.IsPlain) →
      lookup (pathTo position) d = some e) ∧
    ∀ p q, lookup (p ++ "/" ++ q) d = (lookup p d).bind (lookup q) := by
  refine ⟨exists_spells, ?_, lookup_pathTo, fun p q => lookup_append_slash p q d⟩
  intro path names h
  exact ⟨fun e => lookup_eq_some_iff h, lookup_eq_none_iff h⟩

def sampleListing : Document :=
  .object [("data", .array [.object [("id", .number (.integer 7))]])]

/-- Slashes in a row part two steps like one, and an index may have a sign and zeros. -/
theorem identifier_of_first_item :
    Spells "/data//+00/id" ["data", "+00", "id"] ∧
    lookup "/data//+00/id" sampleListing = some (.number (.integer 7)) ∧
    lookup "/data//+00/id/0" sampleListing = none ∧
    lookup (pathTo [.member "data", .item 0, .member "id"]) sampleListing =
      some (.number (.integer 7)) := by
  have hdata : IsStep "data" := by simp [IsStep]
  have hindex : IsStep "+00" := by simp [IsStep]
  have hid : IsStep "id" := by simp [IsStep]
  have hspells : Spells "/data//+00/id" ["data", "+00", "id"] :=
    .slash (.step hdata (.slash (.step hindex (.last hid))))
  have hdenotes : Denotes "+00" 0 := ⟨.inr ⟨['0', '0'], rfl, 1, rfl⟩, by decide⟩
  have hreaches : Reaches ["data", "+00", "id"] sampleListing (.number (.integer 7)) :=
    .step (.member rfl) (.step (.item hdenotes rfl) (.step (.member rfl) (.here _)))
  have hlies :
      LiesAt [.member "data", .item 0, .member "id"] sampleListing (.number (.integer 7)) :=
    .member rfl (.item rfl (.member rfl (.here _)))
  have hplain : ∀ turn ∈ [Turn.member "data", .item 0, .member "id"], turn.IsPlain := by
    simp only [List.forall_mem_cons, List.not_mem_nil, false_imp_iff, implies_true, and_true]
    exact ⟨.member hdata, .item (by decide), .member hid⟩
  obtain ⟨-, hpaths, hpositions, hparts⟩ := lookup_follows_steps sampleListing
  have hfound := ((hpaths hspells).1 _).mpr hreaches
  refine ⟨hspells, hfound, ?_, hpositions hlies hplain⟩
  refine (hparts "/data//+00/id" "0").trans ?_
  rw [hfound]
  rfl

end Document

end RecordStore
