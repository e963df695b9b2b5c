import RecordStore.Proofs.Url.Segments

/-! # Appending ordinary segments

A text is ordinary if nothing is dropped from it and it is not one or two dots. Such a text becomes
one segment, and another text another one. A path that ends with a slash keeps all that stands
before the slash when segments are added, unless it is `//`, of which nothing is kept. -/

namespace RecordStore.Url.Path

/-- A text that is added to a path as a segment of its own. -/
structure Ordinary (s : String) : Prop where
  ne_dot : s ≠ "."
  ne_dots : s ≠ ".."
  kept : ∀ c ∈ s.toList, isDropped c = false

theorem ordinary_iff {s : String} :
    Ordinary s ↔ s ≠ "." ∧ s ≠ ".." ∧ s.toList.any isDropped = false := by
  rw [List.any_eq_false]
  constructor
  · rintro ⟨hdot, hdots, hkept⟩
    exact ⟨hdot, hdots, fun c hc => Bool.eq_false_iff.mp (hkept c hc)⟩
  · rintro ⟨hdot, hdots, hkept⟩
    exact ⟨hdot, hdots, fun c hc => Bool.eq_false_iff.mpr (hkept c hc)⟩

instance : DecidablePred Ordinary := fun _ => decidable_of_iff' _ ordinary_iff

def encoded (special : Bool) (s : String) : String :=
  String.ofList (encode (escapedInSegment special) s.toList)

theorem encoded_injective (special : Bool) : Function.Injective (encoded special) := by
  intro s t h
  have hencode := String.ofList_injective h
  have hs := decodeText?_encode (escapedInSegment_percent special) s.toList
  have ht := decodeText?_encode (escapedInSegment_percent special) t.toList
  rw [hencode, ht, String.ofList_toList, String.ofList_toList] at hs
  exact (Option.some.inj hs).symm

namespace Ordinary

variable {special file : Bool} {path : Path} {s : String}

theorem shown_eq (hs : Ordinary s) : shown s.toList = s.toList := shown_eq_self_iff.mpr hs.kept

theorem not_showsDots (hs : Ordinary s) : ¬ShowsDots s := by
  rw [ShowsDots, hs.shown_eq]
  rintro (h | h)
  · exact hs.ne_dot (String.toList_injective h)
  · exact hs.ne_dots (String.toList_injective h)

theorem segmentText_eq (hs : Ordinary s) : segmentText special s = encoded special s := by
  rw [segmentText, hs.shown_eq, encoded]

theorem push_eq (hs : Ordinary s) (hcollapsed : collapse file path = path) (hpath : path ≠ [])
    (hroot : path ≠ [""]) : push special file path s = path ++ [encoded special s] := by
  rw [push_eq_append hs.not_showsDots hcollapsed hpath hroot, hs.segmentText_eq]

end Ordinary

/-- What decodes to its text was ordinary, if the text shows more than dots. -/
theorem ordinary_of_decodeText? {special : Bool} {s : String} (hs : ¬ShowsDots s)
    (hdecodes : decodeText? (segmentText special s).toList = some s) : Ordinary s := by
  refine ⟨?_, ?_, (decodeText?_segmentText_eq_iff special s).mp hdecodes⟩
  · rintro rfl
    exact hs (.inl rfl)
  · rintro rfl
    exact hs (.inr rfl)

/-! ## Texts that are not ordinary -/

section Push

variable {special file : Bool} {path : Path} (hcollapsed : collapse file path = path)
  (hpath : path ≠ []) (hroot : path ≠ [""])

include hcollapsed hpath hroot

/-- A text leaves a path as it is, or puts a slash at its end, or adds one segment. -/
theorem push_cases (special : Bool) (s : String) :
    (s = "." ∨ s = "..") ∧ push special file path s = path ∨
      (push special file path s).getLast? = some "" ∨
      ¬ShowsDots s ∧ push special file path s = path ++ [segmentText special s] := by
  by_cases h : s = "." ∨ s = ".."
  · exact .inl ⟨h, by rw [push, if_pos h]⟩
  obtain ⟨hdot, hdots⟩ := not_or.mp h
  by_cases hshows : ShowsDots s
  · exact .inr (.inl (getLast?_push_of_showsDots hshows hdot hdots hpath hroot))
  · exact .inr (.inr ⟨hshows, push_eq_append hshows hcollapsed hpath hroot⟩)

/-- The last segment never stands for dots if it did not before, and it stands for the text that was
added only if this is ordinary. -/
theorem ordinary_of_getLast?_push {s last segment name : String}
    (hlast : path.getLast? = some last) (hself : decodeText? last.toList = some last)
    (hordinary : Ordinary last) (hsegment : (push special file path s).getLast? = some segment)
    (hname : decodeText? segment.toList = some name) (hne : name ≠ "") :
    name ≠ "." ∧ name ≠ ".." ∧ (name = s → Ordinary s) := by
  rcases push_cases hcollapsed hpath hroot special s with ⟨hdots, hpush⟩ | hslash | ⟨hshows, hpush⟩
  · rw [hpush, hlast] at hsegment
    cases hsegment
    rw [hself] at hname
    cases hname
    exact ⟨hordinary.ne_dot, hordinary.ne_dots, fun heq => heq ▸ hordinary⟩
  · rw [hslash] at hsegment
    cases hsegment
    rw [decodeText?_empty] at hname
    exact absurd (Option.some.inj hname).symm hne
  · rw [hpush, List.getLast?_concat] at hsegment
    cases hsegment
    refine ⟨?_, ?_, fun heq => ordinary_of_decodeText? hshows (heq ▸ hname)⟩
    all_goals
      rintro rfl
      rw [decodeText?_segmentText] at hname
      have hshown := congrArg String.toList (Option.some.inj hname)
      rw [String.toList_ofList] at hshown
    · exact hshows (.inl hshown)
    · exact hshows (.inr hshown)

end Push

/-! ## The slash at the end -/

theorem dropLast_append_empty {path : Path} (h : endsWithSlash path = true) :
    path.dropLast ++ [""] = path := by
  have hlast : path.getLast? = some "" := of_decide_eq_true h
  obtain ⟨front, rfl⟩ := List.getLast?_eq_some_iff.mp hlast
  rw [List.dropLast_concat]

/-- What of a path that ends with a slash stays before the segments that are added to it. -/
def stem (path : Path) : Path := if path = ["", ""] then [] else path.dropLast

/-- Segments for the organizations come behind the stem, whatever the path. -/
theorem push_organizations {special file : Bool} {path : Path} (hslash : endsWithSlash path = true)
    (hcollapsed : collapse file path = path) :
    push special file (openEnd path) "organizations" = stem path ++ ["organizations"] := by
  have hroot : push special file [""] "organizations" = ["organizations"] := by
    cases special <;> cases file <;> rfl
  have horganizations : Ordinary "organizations" := by decide
  have hpath := dropLast_append_empty hslash
  by_cases hfront : path.dropLast = []
  · rw [hfront] at hpath
    subst hpath
    exact hroot
  by_cases hslashes : path.dropLast = [""]
  · rw [hslashes] at hpath
    subst hpath
    exact hroot
  · have hlength : 1 < path.length := by
      have hdrop := @List.length_dropLast _ path
      have hpos := List.length_pos_iff.mpr hfront
      omega
    have hopen : openEnd path = path.dropLast := by rw [openEnd, if_pos ⟨hslash, hlength⟩]
    have hne : path ≠ ["", ""] := by
      rintro rfl
      exact hslashes rfl
    rw [← hpath] at hcollapsed
    rw [hopen, stem, if_neg hne,
      horganizations.push_eq (collapse_of_append hfront hcollapsed) hfront hslashes]
    cases special <;> rfl

theorem text_of_endsWithSlash {path : Path} (h : endsWithSlash path = true) :
    text path.dropLast ++ "/" = text path := by
  have htext := text_append path.dropLast [""]
  rwa [dropLast_append_empty h, text_singleton, String.append_empty, eq_comm] at htext

/-- Before the segments that are added stands the whole path, unless it is `//`. -/
theorem text_stem {path : Path} (h : endsWithSlash path = true) (hslashes : path ≠ ["", ""]) :
    text (stem path) ++ "/" = text path := by
  rw [stem, if_neg hslashes, text_of_endsWithSlash h]

end RecordStore.Url.Path
