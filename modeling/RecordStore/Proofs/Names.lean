import RecordStore.Error

/-! # Names of kinds

A name is looked up without the blanks at its ends, and with its words joined by `_`; addresses have
the words joined by `-`, and the blanks as well. Texts without spaces are told apart by one way of
joining words exactly if they are by the other, so a kind is found under the spellings of its name:
the names without spaces that would be written like it in an address. No name is a spelling of two,
and the order in which kinds are looked at makes no difference. -/

namespace RecordStore

namespace Text

/-- What is stripped off stands at the ends. -/
theorem exists_eq_strip (p : Char → Bool) (s : List Char) :
    ∃ before after, s = before ++ strip p s ++ after ∧ (∀ c ∈ before, p c = true) ∧
      ∀ c ∈ after, p c = true := by
  let rest := s.dropWhile p
  have htaken : ∀ s : List Char, ∀ c ∈ s.takeWhile p, p c = true := fun s =>
    List.all_eq_true.mp List.all_takeWhile
  refine ⟨s.takeWhile p, (rest.reverse.takeWhile p).reverse, ?_, htaken s, ?_⟩
  · have hrest : strip p s ++ (rest.reverse.takeWhile p).reverse = rest := by
      rw [strip, ← List.reverse_append, List.takeWhile_append_dropWhile, List.reverse_reverse]
    rw [List.append_assoc, hrest, List.takeWhile_append_dropWhile]
  · intro c hc
    exact htaken _ c (List.mem_reverse.mp hc)

end Text

namespace Kind

variable {name word s t : String} {kind : Kind} {nameOf : Kind → String} {listed : List Kind}

/-! ## Separators -/

theorem toList_replaceChars (p : Char → Bool) (c : Char) (s : String) :
    (replaceChars p c s).toList = s.toList.map fun x => if p x then c else x := String.toList_ofList

theorem hyphenate_append (s t : String) : hyphenate (s ++ t) = hyphenate s ++ hyphenate t := by
  apply String.toList_injective
  simp [hyphenate, toList_replaceChars]

def underscore (s : String) : String := replaceChars (fun c => c = '-') '_' s

theorem lookupForm_eq (name : String) : lookupForm name = underscore (Text.trim name) := rfl

/-- The separator that names are looked up with is one of those that are written as `-`. -/
theorem hyphenate_underscore (s : String) : hyphenate (underscore s) = hyphenate s := by
  apply String.toList_injective
  simp only [hyphenate, underscore, toList_replaceChars, List.map_map]
  apply List.map_congr_left
  intro c _
  by_cases hc : c = '-' <;> simp [hc]

/-- Separators come back as such, and so would spaces. -/
theorem underscore_hyphenate (hs : ' ' ∉ s.toList) : underscore (hyphenate s) = underscore s := by
  apply String.toList_injective
  simp only [hyphenate, underscore, toList_replaceChars, List.map_map]
  apply List.map_congr_left
  intro c hc
  have hspace : c ≠ ' ' := by
    rintro rfl
    exact hs hc
  by_cases hjoin : c = '_' <;> simp [hjoin, hspace]

/-- Joined by `-` or by `_`, the same texts come out equal. -/
theorem hyphenate_eq_iff (hs : ' ' ∉ s.toList) (ht : ' ' ∉ t.toList) :
    hyphenate s = hyphenate t ↔ underscore s = underscore t := by
  constructor
  · intro h
    rw [← underscore_hyphenate hs, h, underscore_hyphenate ht]
  · intro h
    rw [← hyphenate_underscore s, h, hyphenate_underscore]

theorem underscore_eq_self (hs : '-' ∉ s.toList) : underscore s = s := by
  apply String.toList_injective
  have hkept : ∀ c ∈ s.toList, (if c = '-' then '_' else c) = id c := by
    intro c hc
    rw [if_neg]
    · rfl
    · rintro rfl
      exact hs hc
  simp only [underscore, toList_replaceChars, decide_eq_true_eq]
  rw [List.map_congr_left hkept, List.map_id]

theorem space_mem_underscore_iff : ' ' ∈ (underscore s).toList ↔ ' ' ∈ s.toList := by
  rw [underscore, toList_replaceChars, List.mem_map]
  constructor
  · rintro ⟨c, hc, hspace⟩
    by_cases hhyphen : c = '-'
    · simp [hhyphen] at hspace
    · rw [if_neg (by simpa using hhyphen)] at hspace
      rwa [hspace] at hc
  · intro h
    exact ⟨' ', h, by simp⟩

theorem hyphenate_lookupForm (name : String) :
    hyphenate (lookupForm name) = hyphenate (Text.trim name) := hyphenate_underscore _

/-! ## Lookups -/

theorem find?_listed_eq_some_iff (hlisted : ∀ k, k ∈ listed)
    (hinjective : ∀ {a b}, nameOf a = nameOf b → a = b) :
    (listed.find? fun k => nameOf k = name) = some kind ↔ nameOf kind = name := by
  have hfound : ∀ {k}, (listed.find? fun k => nameOf k = name) = some k → nameOf k = name := by
    intro k h
    have hk := List.find?_some h
    exact of_decide_eq_true hk
  refine ⟨hfound, fun h => ?_⟩
  cases hfind : listed.find? fun k => nameOf k = name with
  | some k => rw [hinjective ((hfound hfind).trans h.symm)]
  | none => exact absurd (decide_eq_true h) (List.find?_eq_none.mp hfind kind (hlisted kind))

theorem ofResourceName?_eq_some_iff :
    ofResourceName? name = some kind ↔ kind.resourceName = lookupForm name :=
  find?_listed_eq_some_iff mem_all resourceName_injective

theorem ofResourceName?_resourceName (kind : Kind) :
    ofResourceName? kind.resourceName = some kind := by
  rw [ofResourceName?_eq_some_iff]
  cases kind <;> decide

/-! ## Words between blanks -/

/-- The name is the words of the kind between blanks. -/
structure Spells (kind : Kind) (before words after : String) : Prop where
  hyphenate_words : hyphenate words = hyphenate kind.resourceName
  not_isBlank : ∀ c ∈ words.toList, Text.isBlank c = false
  before : ∀ c ∈ before.toList, Text.isBlank c = true
  after : ∀ c ∈ after.toList, Text.isBlank c = true

theorem not_isBlank_of_mem_resourceName {c : Char} (hc : c ∈ kind.resourceName.toList) :
    Text.isBlank c = false := by
  have hall : kind.resourceName.toList.all (fun c => !Text.isBlank c) = true := by
    cases kind <;> decide
  simpa using List.all_eq_true.mp hall c hc

theorem not_isBlank_of_mem_trim (h : kind.resourceName = lookupForm name) {c : Char}
    (hc : c ∈ (Text.trim name).toList) : Text.isBlank c = false := by
  have hmem : (if c = '-' then '_' else c) ∈ kind.resourceName.toList := by
    rw [h, lookupForm, toList_replaceChars]
    exact List.mem_map.mpr ⟨c, hc, by simp⟩
  by_cases hhyphen : c = '-'
  · rw [hhyphen]
    decide
  · rw [if_neg hhyphen] at hmem
    exact not_isBlank_of_mem_resourceName hmem

/-- A name under which a kind is found spells the words of the kind. -/
theorem exists_spells (h : ofResourceName? name = some kind) :
    ∃ before words after, name = before ++ words ++ after ∧ kind.Spells before words after := by
  have hlookup := ofResourceName?_eq_some_iff.mp h
  obtain ⟨before, after, hname, hbefore, hafter⟩ :=
    Text.exists_eq_strip Text.isBlank name.toList
  refine ⟨String.ofList before, Text.trim name, String.ofList after, ?_, ?_,
    fun c => not_isBlank_of_mem_trim hlookup, ?_, ?_⟩
  · apply String.toList_injective
    simpa [Text.trim] using hname
  · rw [hlookup, hyphenate_lookupForm]
  · simpa using hbefore
  · simpa using hafter

/-! ## Spellings -/

/-- A way of calling kinds: no two are called the same, and words are joined by `_` only. -/
structure IsNaming (nameOf : Kind → String) : Prop where
  injective : ∀ {a b}, nameOf a = nameOf b → a = b
  no_hyphen : ∀ kind, '-' ∉ (nameOf kind).toList
  no_space : ∀ kind, ' ' ∉ (nameOf kind).toList

theorem isNaming_resourceName : IsNaming resourceName where
  injective := resourceName_injective
  no_hyphen kind := by cases kind <;> decide
  no_space kind := by cases kind <;> decide

theorem isNaming_typeName : IsNaming typeName where
  injective := typeName_injective
  no_hyphen kind := by cases kind <;> decide
  no_space kind := by cases kind <;> decide

/-- `name`, without the blanks at its ends, is written like `word` in addresses; a space would be
written like a separator there, and is none. -/
structure IsSpelling (word name : String) : Prop where
  no_space : ' ' ∉ (Text.trim name).toList
  hyphenate_eq : hyphenate (Text.trim name) = hyphenate word

instance (word name : String) : Decidable (IsSpelling word name) :=
  decidable_of_iff
    (' ' ∉ (Text.trim name).toList ∧ hyphenate (Text.trim name) = hyphenate word)
    ⟨fun h => ⟨h.1, h.2⟩, fun h => ⟨h.no_space, h.hyphenate_eq⟩⟩

theorem isSpelling_iff (hhyphen : '-' ∉ word.toList) (hspace : ' ' ∉ word.toList) :
    IsSpelling word name ↔ word = lookupForm name := by
  have hword := underscore_eq_self hhyphen
  constructor
  · rintro ⟨hname, hwords⟩
    rw [lookupForm_eq, (hyphenate_eq_iff hname hspace).mp hwords, hword]
  · intro h
    have hname : ' ' ∉ (Text.trim name).toList := by
      rw [← space_mem_underscore_iff, ← lookupForm_eq, ← h]
      exact hspace
    refine ⟨hname, (hyphenate_eq_iff hname hspace).mpr ?_⟩
    rw [hword, h, lookupForm_eq]

/-- The first of the kinds in a list that is called `name`, in either spelling of the separator. -/
def firstNamed (nameOf : Kind → String) (listed : List Kind) (name : String) : Option Kind :=
  listed.find? fun k => nameOf k = lookupForm name

theorem IsNaming.firstNamed_eq_some_iff (h : IsNaming nameOf) (hlisted : ∀ k, k ∈ listed) :
    firstNamed nameOf listed name = some kind ↔ IsSpelling (nameOf kind) name := by
  rw [firstNamed, find?_listed_eq_some_iff hlisted h.injective,
    isSpelling_iff (h.no_hyphen kind) (h.no_space kind)]

/-- What is found for `name` among kinds that are called by `nameOf`: the kind that it spells. No
name spells two of them, so it does not matter in which order they are looked at. -/
structure FollowsSpelling (nameOf : Kind → String) (name : String) (found : Option Kind) : Prop where
  found_iff : ∀ kind, found = some kind ↔ IsSpelling (nameOf kind) name
  unique : ∀ a b, IsSpelling (nameOf a) name → IsSpelling (nameOf b) name → a = b
  any_order : ∀ listed, (∀ kind, kind ∈ listed) → firstNamed nameOf listed name = found

theorem IsNaming.followsSpelling (h : IsNaming nameOf) (name : String) :
    FollowsSpelling nameOf name (firstNamed nameOf all name) := by
  have hall : ∀ kind, firstNamed nameOf all name = some kind ↔ IsSpelling (nameOf kind) name :=
    fun _ => h.firstNamed_eq_some_iff mem_all
  refine ⟨hall, fun a b ha hb => ?_, fun listed hlisted => Option.ext fun kind => ?_⟩
  · have hfound := (hall a).mpr ha
    exact Option.some.inj (hfound.symm.trans ((hall b).mpr hb))
  · rw [h.firstNamed_eq_some_iff hlisted, hall kind]

theorem FollowsSpelling.eq_none_iff {found : Option Kind} (h : FollowsSpelling nameOf name found) :
    found = none ↔ ∀ kind, ¬IsSpelling (nameOf kind) name := by
  rw [Option.eq_none_iff_forall_ne_some]
  exact forall_congr' fun kind => not_congr (h.found_iff kind)

theorem toOption_ofLooseName (name : String) : (ofLooseName name).toOption = ofLooseName? name := by
  rw [ofLooseName]
  cases ofLooseName? name <;> rfl

theorem ofLooseName_eq_error_iff {e : StoreError} : ofLooseName name = .error e ↔
    ofLooseName? name = none ∧ e = .configuration (.unknownResourceType name) := by
  rw [ofLooseName]
  cases ofLooseName? name with
  | none => simp [eq_comm]
  | some kind => simp

/-- Kinds are found under the spellings of their names, plural names in one lookup and the names of
single records in the other, which refuses every other name. -/
theorem lookups_follow_spelling (name : String) :
    FollowsSpelling resourceName name (ofResourceName? name) ∧
      FollowsSpelling typeName name (ofLooseName name).toOption ∧
      ∀ e, ofLooseName name = .error e ↔
        (∀ kind, ¬IsSpelling (typeName kind) name) ∧
          e = .configuration (.unknownResourceType name) := by
  have hsingle : FollowsSpelling typeName name (ofLooseName? name) :=
    isNaming_typeName.followsSpelling name
  refine ⟨isNaming_resourceName.followsSpelling name, ?_, fun e => ?_⟩
  · rw [toOption_ofLooseName]
    exact hsingle
  · rw [ofLooseName_eq_error_iff, hsingle.eq_none_iff]

/-- Both separators may stand in one name, and the kinds may be looked at from the last to the
first; the plural is no name of a single record. -/
theorem mixed_separators_spell_plural :
    ofResourceName? " suite-validation_results\n" = some .suiteValidationResult ∧
      firstNamed resourceName all.reverse " suite-validation_results\n" =
        some .suiteValidationResult ∧
      ofLooseName " suite-validation_results\n" =
        .error (.configuration (.unknownResourceType " suite-validation_results\n")) := by
  obtain ⟨hplural, -, herror⟩ := lookups_follow_spelling " suite-validation_results\n"
  have hspells : IsSpelling (resourceName .suiteValidationResult) " suite-validation_results\n" := by
    decide
  have hfound := (hplural.found_iff .suiteValidationResult).mpr hspells
  have hreversed : ∀ kind, kind ∈ all.reverse := fun kind => List.mem_reverse.mpr kind.mem_all
  refine ⟨hfound, (hplural.any_order all.reverse hreversed).trans hfound,
    (herror _).mpr ⟨fun kind => ?_, rfl⟩⟩
  cases kind <;> decide

/-- A space is written like the separators in addresses, but is not read as one. -/
example : ofResourceName? "data contexts" = none ∧
    hyphenate "data contexts" = hyphenate (resourceName .dataContext) := by decide

end Kind

end RecordStore
