import RecordStore.Proofs.Url.Appending
import RecordStore.Proofs.Url.Reading

/-! # Putting a slash at the end of a path

To close a path its segments are added anew. A path that was read comes out with nothing but the
slash in addition exactly if each of its segments means a name and, where the scheme is `file`, the
first one is no drive letter that lacks its colon. -/

namespace RecordStore.Url.Path

variable {file : Bool} {path : Path}

/-! ## Segments that are added anew -/

/-- What becomes of the segments of a path that are added one after the other. -/
def rebuilt (file : Bool) (path : Path) : Path := path.foldl (add file false) []

theorem addAll_concat (path : Path) (texts : List (List Char)) (s : List Char) :
    addAll file path (texts ++ [s]) =
      addText escapedInPath file true (texts.foldl (addText escapedInPath file false) path) s := by
  induction texts generalizing path with
  | nil => rfl
  | cons t texts ih =>
    have hne : texts ++ [s] ≠ [] := List.append_ne_nil_of_right_ne_nil texts (by simp)
    obtain ⟨next, rest, hrest⟩ := List.exists_cons_of_ne_nil hne
    rw [List.cons_append, List.foldl_cons, ← ih, hrest]
    rfl

theorem add_empty : add file true path "" = path ++ [""] := by
  rw [add]
  simp [meaning, withColon, isDriveLetter]

theorem addText_empty : addText escapedInPath file true path [] = path ++ [""] := by
  have hcut : cutDrive? [] = none := rfl
  rw [addText, hcut, ite_self]
  exact add_empty

theorem addText_of_written {final : Bool} {segment : String} (h : Written segment) :
    addText escapedInPath file final path segment.toList = add file final path segment := by
  rw [addText, cutDrive?_eq_none h.kept, ite_self]
  simp only [shown_eq_self_iff.mpr h.kept, h.encode_eq, String.ofList_toList]

theorem foldl_addText {segments : Path} (h : ∀ segment ∈ segments, Written segment) :
    (segments.map String.toList).foldl (addText escapedInPath file false) path =
      segments.foldl (add file false) path := by
  rw [List.foldl_map]
  apply List.foldl_ext
  intro front segment hsegment
  exact addText_of_written (h segment hsegment)

/-- How a path is closed. -/
theorem close_eq (file : Bool) (hpath : ∀ segment ∈ path, Written segment)
    (hslash : endsWithSlash path = false) :
    close file path = collapse file (rebuilt file path ++ [""]) := by
  rw [close, hslash, addAll_concat, foldl_addText hpath, addText_empty]
  rfl

theorem endsWithSlash_collapse (h : path ≠ []) :
    endsWithSlash (collapse file path) = endsWithSlash path := by
  rw [endsWithSlash, endsWithSlash, getLast?_collapse h]

/-- A closed path ends with a slash, whatever became of its segments. -/
theorem endsWithSlash_close (file : Bool) (path : Path) :
    endsWithSlash (close file path) = true := by
  cases hslash : endsWithSlash path with
  | true => rw [close, if_pos hslash, hslash]
  | false =>
    rw [close, hslash, addAll_concat, addText_empty]
    simp only [Bool.false_eq_true, if_false]
    rw [endsWithSlash_collapse (List.append_ne_nil_of_right_ne_nil _ (by simp)), endsWithSlash,
      List.getLast?_concat]
    rfl

theorem Sound.close (h : Sound file path) : Sound file (close file path) := by
  rw [Path.close]
  split
  · exact h
  · apply sound_collapse
    apply settled_addAll
    · intro segment hsegment
      contradiction
    · intro text htext hslash
      rcases List.mem_append.mp htext with htext | htext
      · obtain ⟨segment, hsegment, rfl⟩ := List.mem_map.mp htext
        exact h.not_slash segment hsegment hslash
      · rw [List.mem_singleton.mp htext] at hslash
        contradiction

/-! ## Segments that come out as they were -/

/-- Added anew, the segments of the path come out as they were: all of them mean names, and a drive
letter in front has its colon. -/
structure Rereads (file : Bool) (path : Path) : Prop where
  names : ∀ segment ∈ path, meaning segment.toList = .name
  colon : file = true → ∀ segment ∈ path.head?, withColon segment = segment

theorem length_ascend_le (path : Path) : (ascend path).length ≤ path.length := by
  rw [ascend]
  split
  · split
    · exact le_rfl
    · rw [List.length_dropLast]
      exact Nat.sub_le _ _
  · exact Nat.zero_le _

/-- One segment more at most, and none for dots. -/
theorem length_foldl_add_le (file : Bool) (path segments : Path) :
    (segments.foldl (add file false) path).length ≤
      path.length + segments.countP fun segment => meaning segment.toList = .name := by
  induction segments generalizing path with
  | nil => simp
  | cons segment segments ih =>
    have hrest := ih (add file false path segment)
    have hascend := length_ascend_le path
    rw [List.foldl_cons, List.countP_cons]
    cases hmeaning : meaning segment.toList <;> simp [add, hmeaning] at hrest ⊢ <;> omega

theorem foldl_add_of_names {segments : Path} (hpath : path ≠ [])
    (h : ∀ segment ∈ segments, meaning segment.toList = .name) :
    segments.foldl (add file false) path = path ++ segments := by
  induction segments generalizing path with
  | nil => simp
  | cons segment segments ih =>
    have hempty : path.isEmpty = false := List.isEmpty_eq_false_iff.mpr hpath
    have hadd : add file false path segment = path ++ [segment] := by
      simp [add, h segment List.mem_cons_self, hempty]
    rw [List.foldl_cons, hadd, ih (by simp) fun s hs => h s (List.mem_cons_of_mem segment hs),
      List.append_assoc, List.singleton_append]

/-- Names stay; only a drive letter in front may change. -/
theorem rebuilt_of_names {first : String} {rest : Path}
    (h : ∀ segment ∈ first :: rest, meaning segment.toList = .name) :
    rebuilt file (first :: rest) = (if file then withColon first else first) :: rest := by
  have hfirst : add file false [] first = [if file then withColon first else first] := by
    simp [add, h first List.mem_cons_self]
  rw [rebuilt, List.foldl_cons, hfirst, foldl_add_of_names (by simp) fun s hs =>
    h s (List.mem_cons_of_mem first hs), List.singleton_append]

theorem Rereads.rebuilt_eq (h : Rereads file path) : rebuilt file path = path := by
  cases path with
  | nil => rfl
  | cons first rest =>
    rw [rebuilt_of_names h.names]
    cases file with
    | false => rfl
    | true => rw [if_pos rfl, h.colon rfl first rfl]

theorem collapse_concat_empty (hcollapsed : collapse file path = path)
    (hslash : endsWithSlash path = false) : collapse file (path ++ [""]) = path ++ [""] := by
  by_cases hpath : path = []
  · subst hpath
    cases file <;> rfl
  · apply collapse_append hcollapsed hpath
    rintro rfl
    contradiction

/-- Nothing but the slash is new in a closed path exactly if its segments come out as they were. -/
theorem close_eq_concat_iff (hsound : Sound file path) (hslash : endsWithSlash path = false) :
    close file path = path ++ [""] ↔ Rereads file path := by
  have hclose := close_eq file (fun s hs => (hsound.settled s hs).written) hslash
  constructor
  · intro h
    rw [hclose] at h
    -- No segment can be missing, so that none of them is dots.
    have hnames : ∀ segment ∈ path, meaning segment.toList = .name := by
      have hcollapse : (collapse file (rebuilt file path ++ [""])).length ≤ _ :=
        length_collapse_le (List.append_ne_nil_of_right_ne_nil _ (by simp))
      have hrebuilt := length_foldl_add_le file [] path
      rw [h] at hcollapse
      simp only [List.length_append, List.length_nil, Nat.zero_add, rebuilt] at hcollapse hrebuilt
      have hcount : path.countP (fun s => meaning s.toList = .name) = path.length :=
        Nat.le_antisymm List.countP_le_length (by omega)
      simpa using List.countP_eq_length.mp hcount
    refine ⟨hnames, ?_⟩
    rintro rfl first hfirst
    obtain ⟨rest, rfl⟩ := List.head?_eq_some_iff.mp hfirst
    rw [rebuilt_of_names hnames, if_pos rfl, List.cons_append] at h
    by_cases hdrive : isDriveLetter first.toList = true
    · obtain ⟨letter, -, hcolon⟩ := withColon_of_isDriveLetter hdrive
      have hne : withColon first ≠ "" := by
        rw [hcolon]
        intro hempty
        simpa using congrArg String.toList hempty
      rw [collapse_cons_eq_self_iff.mpr fun _ hempty => absurd hempty hne] at h
      exact (List.cons.inj h).1
    · rw [withColon, if_neg hdrive]
  · intro h
    rw [hclose, h.rebuilt_eq]
    exact collapse_concat_empty hsound.collapsed hslash

example : close true ["C|", "x"] = ["C:", "x", ""] := by decide

example : close true ["C:", "..", "x"] = ["C:", "x", ""] := by decide

/-! ## What is expected to stay -/

def withSlash (s : String) : String := if s.toList.getLast? = some '/' then s else s ++ "/"

/-- The path with a slash at its end and its segments as they are. -/
def slashed (path : Path) : Path := if endsWithSlash path then path else path ++ [""]

theorem endsWithSlash_slashed (path : Path) : endsWithSlash (slashed path) = true := by
  by_cases hslash : endsWithSlash path = true
  · rw [slashed, if_pos hslash, hslash]
  · rw [slashed, if_neg hslash, endsWithSlash, List.getLast?_concat]
    rfl

theorem text_slashed (h : ∀ segment ∈ path, '/' ∉ segment.toList) :
    text (slashed path) = withSlash (text path) := by
  have hends : endsWithSlash path = true ↔ (text path).toList.getLast? = some '/' := by
    rcases List.eq_nil_or_concat' path with rfl | ⟨front, last, rfl⟩
    · simp [endsWithSlash, text]
    · have hlast : '/' ∉ last.toList := h last (by simp)
      have htext : (text (front ++ [last])).toList = (text front).toList ++ '/' :: last.toList := by
        rw [text_append, text_singleton]
        simp
      rw [htext, endsWithSlash, List.getLast?_concat, List.getLast?_append_cons, decide_eq_true_eq,
        Option.some.injEq]
      constructor
      · rintro rfl
        rfl
      · intro hslash
        by_contra hne
        have hnil : last.toList ≠ [] := fun heq => hne (String.toList_injective heq)
        rw [← List.singleton_append, List.getLast?_append_of_ne_nil _ hnil] at hslash
        exact hlast (List.mem_of_getLast? hslash)
  rw [slashed, withSlash]
  by_cases hslash : endsWithSlash path = true
  · rw [if_pos hslash, if_pos (hends.mp hslash)]
  · rw [if_neg hslash, if_neg fun htext => hslash (hends.mpr htext), text_append, text_singleton,
      String.append_empty]

section Sound

variable (hsound : Sound file path)

include hsound

theorem Sound.not_slash_slashed : ∀ segment ∈ slashed path, '/' ∉ segment.toList := by
  intro segment hsegment
  rw [slashed] at hsegment
  split at hsegment
  · exact hsound.not_slash segment hsegment
  · rcases List.mem_append.mp hsegment with hsegment | hsegment
    · exact hsound.not_slash segment hsegment
    · rw [List.mem_singleton.mp hsegment]
      simp

theorem Sound.not_slash_stem : ∀ segment ∈ stem path, '/' ∉ segment.toList := by
  intro segment hsegment
  rw [stem] at hsegment
  split at hsegment
  · contradiction
  · exact hsound.not_slash segment (List.mem_of_mem_dropLast hsegment)

theorem Sound.withSlash_eq_slashes_iff : withSlash path.text = "//" ↔ slashed path = ["", ""] := by
  rw [← text_slashed hsound.not_slash]
  constructor
  · intro htext
    apply text_injective hsound.not_slash_slashed (by simp)
    exact htext
  · intro hpath
    rw [hpath]
    rfl

theorem Sound.rereads (hfile : file = false) : Rereads file path := by
  refine ⟨fun segment hsegment => (hsound.settled segment hsegment).name hfile, ?_⟩
  intro htrue
  rw [hfile] at htrue
  contradiction

/-- What stays of a closed path before the segments that are added to it. -/
theorem Sound.stem_close_iff :
    stem (Path.close file path) = (slashed path).dropLast ↔
      slashed path ≠ ["", ""] ∧ (endsWithSlash path = false → Rereads file path) := by
  cases hslash : endsWithSlash path with
  | true =>
    have hclose : Path.close file path = path := by rw [Path.close, if_pos hslash]
    have hslashed : slashed path = path := by rw [slashed, if_pos hslash]
    rw [hclose, hslashed]
    by_cases hslashes : path = ["", ""]
    · subst hslashes
      simp [stem]
    · simp [stem, hslashes]
  | false =>
    have hslashed : slashed path = path ++ [""] := by rw [slashed, hslash]; rfl
    have hslashes : path ++ [""] ≠ ["", ""] := by
      intro heq
      have hpath : path = [""] := List.append_cancel_right heq
      rw [hpath] at hslash
      contradiction
    rw [hslashed, List.dropLast_concat, ← close_eq_concat_iff hsound hslash]
    constructor
    · intro hstem
      refine ⟨hslashes, fun _ => ?_⟩
      rw [stem] at hstem
      split at hstem
      · -- An empty path would have been closed to `/`.
        rename_i hclosed
        subst hstem
        cases file <;> contradiction
      · have hclosed := dropLast_append_empty (endsWithSlash_close file path)
        rw [hstem] at hclosed
        exact hclosed.symm
    · rintro ⟨-, hclose⟩
      rw [hclose rfl, stem, if_neg hslashes, List.dropLast_concat]

end Sound

end RecordStore.Url.Path
