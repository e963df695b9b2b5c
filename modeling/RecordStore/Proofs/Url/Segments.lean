import RecordStore.Proofs.Url.PercentEncoding

/-! # Adding one segment to a path

What `Path.push` makes of a text, once nothing is dropped from it: on a path that is not `/` it
adds the encoded text, unless the text is one or two dots. Then the path ends with a slash. -/

namespace RecordStore.Url.Path

def segmentText (special : Bool) (s : String) : String :=
  String.ofList (encode (escapedInSegment special) (shown s.toList))

/-- Texts of which one or two dots are left. -/
def ShowsDots (s : String) : Prop := shown s.toList = ['.'] ∨ shown s.toList = ['.', '.']

theorem shown_eq_self_iff {s : List Char} : shown s = s ↔ ∀ c ∈ s, isDropped c = false := by
  simp only [shown, List.filter_eq_self, Bool.not_eq_true']

theorem decodeText?_segmentText (special : Bool) (s : String) :
    decodeText? (segmentText special s).toList = some (String.ofList (shown s.toList)) := by
  rw [segmentText, String.toList_ofList, decodeText?_encode (escapedInSegment_percent special)]

theorem decodeText?_empty : decodeText? ("" : String).toList = some "" := by
  exact decodeText?_encode (escapedInSegment_percent false) []

/-- A segment with its text is unique: nothing was dropped from a text that decoding gives back. -/
theorem decodeText?_segmentText_eq_iff (special : Bool) (s : String) :
    decodeText? (segmentText special s).toList = some s ↔ ∀ c ∈ s.toList, isDropped c = false := by
  rw [decodeText?_segmentText, ← shown_eq_self_iff, Option.some.injEq]
  constructor
  · intro h
    have hlist := congrArg String.toList h
    rwa [String.toList_ofList] at hlist
  · intro h
    rw [h, String.ofList_toList]

theorem text_append (path more : Path) : text (path ++ more) = text path ++ text more := by
  rw [text, List.flatMap_append, String.ofList_append]
  rfl

theorem text_cons (segment : String) (path : Path) :
    text (segment :: path) = "/" ++ segment ++ text path := by
  apply String.toList_injective
  simp [text]

theorem text_singleton (segment : String) : text [segment] = "/" ++ segment := by
  rw [text_cons]
  exact String.append_empty

/-- A slash ends the segment before it. -/
theorem append_text_inj {s t : List Char} {path path' : Path} (hs : '/' ∉ s) (ht : '/' ∉ t)
    (h : s ++ (text path).toList = t ++ (text path').toList) :
    s = t ∧ (text path).toList = (text path').toList := by
  have hspan : ∀ (s : List Char) (path : Path), '/' ∉ s →
      (s ++ (text path).toList).takeWhile (· ≠ '/') = s := by
    intro s path hs
    have hkeep : ∀ c ∈ s, decide (c ≠ '/') = true := fun c hc =>
      decide_eq_true fun heq => hs (heq ▸ hc)
    rw [List.takeWhile_append_of_pos hkeep]
    cases path <;> simp [text]
  have hst : s = t := by rw [← hspan s path hs, h, hspan t path' ht]
  subst hst
  exact ⟨rfl, List.append_cancel_left h⟩

/-- Paths without slashes in their segments have the same text only if they are the same. -/
theorem text_injective {path path' : Path} (hpath : ∀ s ∈ path, '/' ∉ s.toList)
    (hpath' : ∀ s ∈ path', '/' ∉ s.toList) (h : text path = text path') : path = path' := by
  induction path generalizing path' with
  | nil =>
    cases path' with
    | nil => rfl
    | cons t rest => simp [text] at h
  | cons s path ih =>
    cases path' with
    | nil => simp [text] at h
    | cons t rest =>
      have hlist : s.toList ++ (text path).toList = t.toList ++ (text rest).toList := by
        have hchars := congrArg String.toList h
        simpa [text] using hchars
      obtain ⟨hst, hrest⟩ := append_text_inj (hpath s List.mem_cons_self)
        (hpath' t List.mem_cons_self) hlist
      rw [String.toList_injective hst, ih (fun x hx => hpath x (List.mem_cons_of_mem s hx))
        (fun x hx => hpath' x (List.mem_cons_of_mem t hx)) (String.toList_injective hrest)]

/-! ## Leading slashes -/

theorem collapse_collapse (file : Bool) (path : Path) :
    collapse file (collapse file path) = collapse file path := by
  cases file with
  | false => rfl
  | true =>
    simp only [collapse, if_true]
    cases h : path.dropWhile (· = "") with
    | nil => rfl
    | cons x rest =>
      have hx : (x :: rest).dropWhile (· = "") = x :: rest := by
        rw [← h, List.dropWhile_idempotent]
      simp only [hx]

theorem collapse_ne_nil {file : Bool} {path : Path} (h : path ≠ []) : collapse file path ≠ [] := by
  cases file with
  | false => exact h
  | true =>
    simp only [collapse, if_true]
    cases path.dropWhile (· = "") with
    | nil => simp
    | cons x rest => simp

theorem length_collapse_le {file : Bool} {path : Path} (h : path ≠ []) :
    (collapse file path).length ≤ path.length := by
  rw [collapse]
  split
  · split
    · exact List.length_pos_iff.mpr h
    · exact List.length_dropWhile_le _ path
  · exact Nat.le_refl _

theorem getLast?_collapse {file : Bool} {path : Path} (h : path ≠ []) :
    (collapse file path).getLast? = path.getLast? := by
  cases file with
  | false => rfl
  | true =>
    simp only [collapse, if_true]
    cases hd : path.dropWhile (· = "") with
    | nil =>
      have hlast := List.dropWhile_eq_nil_iff.mp hd _ (List.getLast_mem h)
      rw [List.getLast?_eq_some_getLast h, of_decide_eq_true hlast]
      rfl
    | cons x rest =>
      obtain ⟨front, hfront⟩ := List.dropWhile_suffix (l := path) (fun s => decide (s = ""))
      rw [hd] at hfront
      rw [← hfront, List.getLast?_append_of_ne_nil _ (List.cons_ne_nil x rest)]

/-- A path stays as it is unless an empty segment comes first, with others behind it. -/
theorem collapse_cons_eq_self_iff {file : Bool} {x : String} {rest : Path} :
    collapse file (x :: rest) = x :: rest ↔ (file = true → x = "" → rest = []) := by
  cases file with
  | false => simp [collapse]
  | true =>
    by_cases hx : x = ""
    · subst hx
      constructor
      · intro hcollapsed _ _
        simp only [collapse, if_true, List.dropWhile_cons, decide_true] at hcollapsed
        split at hcollapsed
        · exact (List.cons.inj hcollapsed).2.symm
        · have hlength := congrArg List.length hcollapsed
          have hle := List.length_dropWhile_le (fun s => decide (s = "")) rest
          simp only [List.length_cons] at hlength
          omega
      · intro hrest
        rw [hrest rfl rfl]
        rfl
    · simp [collapse, hx]

/-- A path other than `/` that has no leading slashes to lose stays so whatever is added to it. -/
theorem collapse_append {file : Bool} {path : Path} (hcollapsed : collapse file path = path)
    (hpath : path ≠ []) (hroot : path ≠ [""]) (more : Path) :
    collapse file (path ++ more) = path ++ more := by
  obtain ⟨x, rest, rfl⟩ := List.exists_cons_of_ne_nil hpath
  rw [collapse_cons_eq_self_iff] at hcollapsed
  rw [List.cons_append, collapse_cons_eq_self_iff]
  rintro hfile rfl
  exact absurd (hcollapsed hfile rfl) (fun h => hroot (h ▸ rfl))

theorem collapse_of_append {file : Bool} {path more : Path} (hpath : path ≠ [])
    (h : collapse file (path ++ more) = path ++ more) : collapse file path = path := by
  obtain ⟨x, rest, rfl⟩ := List.exists_cons_of_ne_nil hpath
  rw [List.cons_append, collapse_cons_eq_self_iff] at h
  rw [collapse_cons_eq_self_iff]
  intro hfile hx
  exact (List.append_eq_nil_iff.mp (h hfile hx)).1

theorem collapse_ne_cons_empty (path : Path) (t : String) (rest : Path) :
    collapse true path ≠ "" :: t :: rest := by
  intro h
  simp only [collapse, if_true] at h
  cases hd : path.dropWhile (· = "") with
  | nil => simp [hd] at h
  | cons x more =>
    have hhead := List.head?_dropWhile_not (fun s => decide (s = "")) path
    simp [hd] at h hhead
    exact hhead h.1

/-! ## One more segment -/

section Push

variable {special file : Bool} {path : Path} {s : String}

theorem addText_of_ne_nil (hpath : path ≠ []) (escaped : Char → Bool) (final : Bool)
    (t : List Char) :
    addText escaped file final path t =
      add file final path (String.ofList (encode escaped (shown t))) := by
  have hempty : path.isEmpty = false := List.isEmpty_eq_false_iff.mpr hpath
  simp [addText, hempty]

theorem add_ne_nil (segment : String) : add file true path segment ≠ [] := by
  rw [add]
  split <;> simp

theorem addText_ne_nil (escaped : Char → Bool) (t : List Char) :
    addText escaped file true path t ≠ [] := by
  rw [addText]
  split
  · simp
  · exact add_ne_nil _

theorem push_eq_collapse (hdot : s ≠ ".") (hdots : s ≠ "..") :
    push special file path s =
      collapse file (addText (escapedInSegment special) file true
        (if path = [""] then [] else path) s.toList) := by
  rw [push, if_neg (not_or.mpr ⟨hdot, hdots⟩)]

theorem push_ne_nil (hpath : path ≠ []) : push special file path s ≠ [] := by
  by_cases h : s = "." ∨ s = ".."
  · rwa [push, if_pos h]
  · obtain ⟨hdot, hdots⟩ := not_or.mp h
    rw [push_eq_collapse hdot hdots]
    exact collapse_ne_nil (addText_ne_nil _ _)

theorem collapse_push (hcollapsed : collapse file path = path) :
    collapse file (push special file path s) = push special file path s := by
  by_cases h : s = "." ∨ s = ".."
  · rwa [push, if_pos h]
  · obtain ⟨hdot, hdots⟩ := not_or.mp h
    rw [push_eq_collapse hdot hdots, collapse_collapse]

theorem add_segmentText (hpath : path ≠ []) :
    add file true path (segmentText special s) =
      if shown s.toList = ['.'] then path ++ [""]
      else if shown s.toList = ['.', '.'] then ascend path ++ [""]
      else path ++ [segmentText special s] := by
  have hempty : path.isEmpty = false := List.isEmpty_eq_false_iff.mpr hpath
  have hmeaning := meaning_encode special (shown s.toList)
  rw [add, segmentText, String.toList_ofList, hmeaning]
  by_cases hhere : shown s.toList = ['.']
  · simp [hhere]
  by_cases hup : shown s.toList = ['.', '.']
  · simp [hup]
  simp [hhere, hup, hempty]

/-- A text that shows no dots is added as one segment. -/
theorem push_eq_append (hs : ¬ShowsDots s) (hcollapsed : collapse file path = path)
    (hpath : path ≠ []) (hroot : path ≠ [""]) :
    push special file path s = path ++ [segmentText special s] := by
  obtain ⟨hhere, hup⟩ := not_or.mp hs
  have hdot : s ≠ "." := by
    rintro rfl
    exact hhere rfl
  have hdots : s ≠ ".." := by
    rintro rfl
    exact hup rfl
  rw [push_eq_collapse hdot hdots, if_neg hroot, addText_of_ne_nil hpath]
  change collapse file (add file true path (segmentText special s)) = _
  rw [add_segmentText hpath, if_neg hhere, if_neg hup]
  exact collapse_append hcollapsed hpath hroot _

/-- A text that shows dots and is not passed over adds no segment of its own: the path comes to end
with a slash. -/
theorem getLast?_push_of_showsDots (hs : ShowsDots s) (hdot : s ≠ ".") (hdots : s ≠ "..")
    (hpath : path ≠ []) (hroot : path ≠ [""]) :
    (push special file path s).getLast? = some "" := by
  rw [push_eq_collapse hdot hdots, if_neg hroot, getLast?_collapse (addText_ne_nil _ _),
    addText_of_ne_nil hpath]
  change (add file true path (segmentText special s)).getLast? = _
  rw [add_segmentText hpath]
  rcases hs with hs | hs <;> simp [hs]

/-- On the path `/` a text makes two segments at most. -/
theorem length_push_root_le : (push special file [""] s).length ≤ 2 := by
  by_cases h : s = "." ∨ s = ".."
  · simp [push, h]
  obtain ⟨hdot, hdots⟩ := not_or.mp h
  rw [push_eq_collapse hdot hdots, if_pos rfl]
  refine Nat.le_trans (length_collapse_le (addText_ne_nil _ _)) ?_
  rw [addText]
  split
  · simp
  · rw [add]
    split <;> simp [ascend]

/-- On the path `/` no second segment comes to stand behind the empty one. -/
theorem push_root_ne (hdot : s ≠ ".") (hdots : s ≠ "..") (t : String) :
    push special file [""] s ≠ ["", t] := by
  rw [push_eq_collapse hdot hdots, if_pos rfl]
  cases file with
  | true => exact collapse_ne_cons_empty _ _ _
  | false =>
    intro h
    have hlength := congrArg List.length h
    simp only [collapse, addText, Bool.false_and, Bool.false_eq_true, if_false, add] at hlength
    split at hlength <;> simp [ascend] at hlength

end Push

end RecordStore.Url.Path
