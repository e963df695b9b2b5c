import RecordStore.Proofs.Steps
import RecordStore.Proofs.Url.Segments

/-! # Reading a path and closing it

A path that is read consists of settled segments: each is written out and stands for itself. To put
a slash at its end all of them are read anew. This changes none of them, unless the scheme is `file`
and the path holds dots or starts with a drive letter that has no colon. -/

namespace RecordStore.Url

/-- Letters and the signs of escapes are never escaped themselves. -/
def isPlain (c : Char) : Bool := c.isAlpha || isEscapeSign c

theorem toNat_lt_of_isPlain {c : Char} (h : isPlain c = true) : c.toNat < 128 := by
  have hval : c.toNat = c.val.toNat := rfl
  simp only [isPlain, isEscapeSign, Char.isAlpha, Char.isUpper, Char.isLower, Char.isDigit,
    Bool.or_eq_true, Bool.and_eq_true, decide_eq_true_eq, ge_iff_le, UInt32.le_iff_toNat_le,
    Char.le_def] at h
  rcases h with (⟨-, hle⟩ | ⟨-, hle⟩) | (rfl | ⟨-, hle⟩) | ⟨-, hle⟩
  · exact Nat.lt_of_le_of_lt hle (by decide)
  · exact Nat.lt_of_le_of_lt hle (by decide)
  · decide
  · exact Nat.lt_of_le_of_lt hle (by decide)
  · exact Nat.lt_of_le_of_lt hle (by decide)

private theorem escapedInPath_ofNat : ∀ n < 128, isPlain (Char.ofNat n) = true →
    escapedInPath (Char.ofNat n) = false ∧ Char.ofNat n ≠ '/' := by decide

theorem escapedInPath_of_isPlain {c : Char} (h : isPlain c = true) :
    escapedInPath c = false ∧ c ≠ '/' := by
  have hc := escapedInPath_ofNat c.toNat (toNat_lt_of_isPlain h)
  rw [Char.ofNat_toNat] at hc
  exact hc h

namespace Path

/-! ## Written segments -/

/-- A segment as it stands in a path: nothing is left to be escaped, and no slash is in it. -/
def Written (segment : String) : Prop :=
  ∀ c ∈ segment.toList, escapedInPath c = false ∧ c ≠ '/'

theorem written_empty : Written "" := by
  intro c hc
  contradiction

theorem written_encode {s : List Char} (hs : '/' ∉ s) :
    Written (String.ofList (encode escapedInPath s)) := by
  intro c hc
  rw [String.toList_ofList] at hc
  rcases mem_of_mem_encode hc with ⟨hmem, hescaped⟩ | hsign
  · refine ⟨hescaped, ?_⟩
    rintro rfl
    exact hs hmem
  · exact escapedInPath_of_isPlain (by rw [isPlain, hsign, Bool.or_true])

theorem escapedInPath_of_isDropped {c : Char} (h : isDropped c = true) : escapedInPath c = true := by
  simp only [isDropped, Bool.or_eq_true, decide_eq_true_eq] at h
  rcases h with (rfl | rfl) | rfl <;> decide

namespace Written

variable {segment : String} (h : Written segment)

include h

theorem kept : ∀ c ∈ segment.toList, isDropped c = false := by
  intro c hc
  rw [Bool.eq_false_iff]
  intro hdropped
  have hescaped := escapedInPath_of_isDropped hdropped
  rw [(h c hc).1] at hescaped
  contradiction

theorem encode_eq : encode escapedInPath segment.toList = segment.toList :=
  encode_eq_self fun c hc => (h c hc).1

end Written

/-! ## Drive letters -/

theorem mem_shown {s : List Char} {c : Char} (h : c ∈ shown s) : c ∈ s := List.mem_of_mem_filter h

theorem dropWhile_kept {s : List Char} (h : ∀ c ∈ s, isDropped c = false) :
    s.dropWhile isDropped = s := by
  cases s with
  | nil => rfl
  | cons c s => rw [List.dropWhile_cons_of_neg (by simp [h c List.mem_cons_self])]

/-- Only a dropped character parts a drive letter from what is behind it. -/
theorem cutDrive?_eq_none {s : List Char} (h : ∀ c ∈ s, isDropped c = false) :
    cutDrive? s = none := by
  rw [cutDrive?, dropWhile_kept h]
  cases s with
  | nil => rfl
  | cons letter s =>
    have hs : ∀ c ∈ s, isDropped c = false := fun c hc => h c (List.mem_cons_of_mem letter hc)
    simp only [dropWhile_kept hs]
    cases s with
    | nil => rfl
    | cons colon s =>
      have hhead : s.head?.any isDropped = false := by
        cases s with
        | nil => rfl
        | cons c s => exact hs c (List.mem_cons_of_mem colon List.mem_cons_self)
      split
      · rename_i heq
        cases heq
        simp [hhead]
      · rfl

theorem cutDrive?_eq_some {s drive behind : List Char} (h : cutDrive? s = some (drive, behind)) :
    (∃ letter, letter.isAlpha = true ∧ drive = [letter, ':']) ∧ ∀ c ∈ behind, c ∈ s := by
  rw [cutDrive?] at h
  split at h
  · contradiction
  · rename_i letter rest hrest
    split at h
    · rename_i more hmore
      split at h
      · rename_i hletter
        simp only [Option.some.injEq, Prod.mk.injEq] at h
        obtain ⟨rfl, rfl⟩ := h
        simp only [Bool.and_eq_true] at hletter
        refine ⟨⟨letter, hletter.1.1, rfl⟩, ?_⟩
        intro c hc
        have hmem : c ∈ rest.dropWhile isDropped := hmore ▸ List.mem_cons_of_mem ':' (mem_shown hc)
        have hrest' : c ∈ s.dropWhile isDropped :=
          hrest ▸ List.mem_cons_of_mem letter ((List.dropWhile_sublist _).mem hmem)
        exact (List.dropWhile_sublist _).mem hrest'
      · contradiction
    · contradiction

theorem written_drive {letter : Char} (h : letter.isAlpha = true) :
    Written (String.ofList [letter, ':']) := by
  intro c hc
  rw [String.toList_ofList] at hc
  rcases List.mem_cons.mp hc with rfl | hc
  · exact escapedInPath_of_isPlain (by rw [isPlain, h, Bool.true_or])
  · rw [List.mem_singleton.mp hc]
    decide

theorem withColon_of_isDriveLetter {segment : String} (h : isDriveLetter segment.toList = true) :
    ∃ letter, letter.isAlpha = true ∧ withColon segment = String.ofList [letter, ':'] := by
  rw [withColon, if_pos h]
  rw [isDriveLetter.eq_def] at h
  split at h
  · rename_i a b hab
    simp only [Bool.and_eq_true] at h
    exact ⟨a, h.1, by rw [hab]; rfl⟩
  · contradiction

theorem written_withColon {segment : String} (h : Written segment) : Written (withColon segment) := by
  by_cases hdrive : isDriveLetter segment.toList = true
  · obtain ⟨letter, hletter, hcolon⟩ := withColon_of_isDriveLetter hdrive
    rw [hcolon]
    exact written_drive hletter
  · rwa [withColon, if_neg hdrive]

/-! ## Settled segments -/

/-- A written segment that means a name, which is sure for schemes other than `file`. -/
structure Settled (file : Bool) (segment : String) : Prop where
  written : Written segment
  name : file = false → meaning segment.toList = .name

theorem Written.settled {segment : String} (h : Written segment) : Settled true segment :=
  ⟨h, fun hfalse => Bool.noConfusion hfalse⟩

theorem settled_empty (file : Bool) : Settled file "" := ⟨written_empty, fun _ => rfl⟩

theorem mem_ascend {path : Path} {segment : String} (h : segment ∈ ascend path) : segment ∈ path := by
  rw [ascend] at h
  split at h
  · split at h
    · exact h
    · exact List.mem_of_mem_dropLast h
  · contradiction

theorem settled_add {file final : Bool} {path : Path} {segment : String}
    (hpath : ∀ s ∈ path, Settled file s) (hsegment : Written segment) :
    ∀ s ∈ add file final path segment, Settled file s := by
  have hslash : ∀ front : Path, (∀ s ∈ front, Settled file s) →
      ∀ s ∈ front ++ [""], Settled file s := by
    intro front hfront s hs
    rcases List.mem_append.mp hs with hs | hs
    · exact hfront s hs
    · rw [List.mem_singleton.mp hs]
      exact settled_empty file
  have hascend : ∀ s ∈ ascend path, Settled file s := fun s hs => hpath s (mem_ascend hs)
  rw [add]
  cases hmeaning : meaning segment.toList with
  | name =>
    intro s hs
    rcases List.mem_append.mp hs with hs | hs
    · exact hpath s hs
    · rw [List.mem_singleton.mp hs]
      cases file with
      | false => exact ⟨hsegment, fun _ => hmeaning⟩
      | true =>
        apply Written.settled
        split
        · exact written_withColon hsegment
        · exact hsegment
  | here =>
    cases final with
    | false => exact hpath
    | true => exact hslash path hpath
  | up =>
    cases final with
    | false => exact hascend
    | true => exact hslash _ hascend

theorem settled_addText {file final : Bool} {path : Path} {s : List Char}
    (hpath : ∀ segment ∈ path, Settled file segment) (hs : '/' ∉ s) :
    ∀ segment ∈ addText escapedInPath file final path s, Settled file segment := by
  have hshown : '/' ∉ shown s := fun h => hs (mem_shown h)
  rw [addText]
  split
  · rename_i drive behind hcut
    split at hcut
    · rename_i hfile
      obtain ⟨⟨letter, hletter, rfl⟩, hbehind⟩ := cutDrive?_eq_some hcut
      have htrue : file = true := by
        rw [Bool.and_eq_true] at hfile
        exact hfile.1
      subst htrue
      intro segment hsegment
      simp only [List.mem_cons, List.not_mem_nil, or_false] at hsegment
      rcases hsegment with rfl | rfl
      · exact (written_drive hletter).settled
      · exact (written_encode fun h => hs (hbehind _ h)).settled
    · contradiction
  · exact settled_add hpath (written_encode hshown)

theorem settled_addAll {file : Bool} {path : Path} {texts : List (List Char)}
    (hpath : ∀ segment ∈ path, Settled file segment) (htexts : ∀ s ∈ texts, '/' ∉ s) :
    ∀ segment ∈ addAll file path texts, Settled file segment := by
  -- By the recursion of `addAll`; the last text is added apart.
  fun_induction addAll file path texts with
  | case1 path => exact hpath
  | case2 path s => exact settled_addText hpath (htexts s List.mem_cons_self)
  | case3 path s rest hrest ih =>
    apply ih
    · exact settled_addText hpath (htexts s List.mem_cons_self)
    · exact fun t ht => htexts t (List.mem_cons_of_mem s ht)

theorem addAll_ne_nil {file : Bool} {path : Path} {texts : List (List Char)} (h : texts ≠ []) :
    addAll file path texts ≠ [] := by
  fun_induction addAll file path texts with
  | case1 path => contradiction
  | case2 path s => exact addText_ne_nil _ _
  | case3 path s rest hrest ih => exact ih hrest

theorem mem_collapse {file : Bool} {path : Path} {segment : String}
    (h : segment ∈ collapse file path) : segment ∈ path ∨ segment = "" := by
  rw [collapse] at h
  split at h
  · split at h
    · exact .inr (List.mem_singleton.mp h)
    · exact .inl ((List.dropWhile_sublist _).mem h)
  · exact .inl h

theorem settled_collapse {file : Bool} {path : Path} (hpath : ∀ s ∈ path, Settled file s) :
    ∀ s ∈ collapse file path, Settled file s := by
  intro s hs
  rcases mem_collapse hs with hs | rfl
  · exact hpath s hs
  · exact settled_empty file

/-- A path as it is found in a URL that was read. -/
structure Sound (file : Bool) (path : Path) : Prop where
  settled : ∀ s ∈ path, Settled file s
  collapsed : collapse file path = path

theorem sound_collapse {file : Bool} {path : Path} (hpath : ∀ s ∈ path, Settled file s) :
    Sound file (collapse file path) :=
  ⟨settled_collapse hpath, collapse_collapse file path⟩

theorem Sound.not_slash {file : Bool} {path : Path} (hsound : Sound file path) :
    ∀ segment ∈ path, '/' ∉ segment.toList := by
  intro segment hsegment hslash
  exact ((hsound.settled segment hsegment).written _ hslash).2 rfl

end Path

/-! ## URLs that were read -/

theorem not_slash_of_mem_pathTexts {c : SchemeClass} {s text : List Char}
    (h : text ∈ pathTexts c s) : '/' ∉ text := by
  intro hslash
  exact Text.not_of_mem_splitOn h hslash (by simp [Path.isSeparator])

theorem settled_parsePath (c : SchemeClass) (s : List Char) :
    ∀ segment ∈ parsePath c s, Path.Settled c.isFile segment := by
  apply Path.settled_addAll
  · intro segment h
    contradiction
  · exact fun text h => not_slash_of_mem_pathTexts h

theorem parsePath_ne_nil (c : SchemeClass) (s : List Char) : parsePath c s ≠ [] :=
  Path.addAll_ne_nil (Text.splitOn_ne_nil _ _)

/-- The URL is put together from what was read: the segments of its path are settled, and there is
one at least if no authority stands before them. -/
def IsAssembled (u : Url) : Prop :=
  ∃ scheme authority path s, u = assemble scheme authority path s ∧
    (∀ segment ∈ path, Path.Settled (schemeClass scheme).isFile segment) ∧
    (authority = none → path ≠ [])

theorem isAssembled_parsePath (scheme : String) (authority : Option Authority) (s t : List Char) :
    IsAssembled (assemble scheme authority (parsePath (schemeClass scheme) s) t) :=
  ⟨scheme, authority, _, t, rfl, settled_parsePath _ s, fun _ => parsePath_ne_nil _ s⟩

theorem isAssembled_parseAfterAuthority (scheme : String) (authority : Authority) (s : List Char) :
    IsAssembled (parseAfterAuthority scheme authority s) := by
  have hwith : ∀ path t, (∀ segment ∈ path, Path.Settled (schemeClass scheme).isFile segment) →
      IsAssembled (assemble scheme (some authority) path t) :=
    fun path t hpath => ⟨scheme, some authority, path, t, rfl, hpath, fun hnone => nomatch hnone⟩
  rw [parseAfterAuthority.eq_def]
  split
  · apply hwith
    intro segment h
    split at h
    · rw [List.mem_singleton.mp h]
      exact Path.settled_empty _
    · contradiction
  · dsimp only
    split
    · exact isAssembled_parsePath scheme _ _ _
    · split
      · apply hwith
        intro segment h
        contradiction
      · exact isAssembled_parsePath scheme _ _ _

theorem isAssembled_parseFile {s : List Char} {u : Url} (h : parseFile s = .ok u) :
    IsAssembled u := by
  rw [parseFile] at h
  split at h
  · obtain ⟨⟨host, rest⟩, -, h⟩ := Except.exists_of_bind_eq_ok h
    cases host with
    | none | some _ =>
      cases h
      exact isAssembled_parsePath "file" _ _ _
  · cases h
    exact isAssembled_parsePath "file" _ _ _

theorem isAssembled_of_parse {raw : String} {u : Url}
    (h : Address.parse raw = .ok (.hierarchical u)) : IsAssembled u := by
  rw [Address.parse] at h
  obtain ⟨⟨scheme, s⟩, -, h⟩ := Except.exists_of_bind_eq_ok h
  cases hclass : schemeClass scheme with
  | file =>
    simp only [hclass] at h
    obtain ⟨v, hfile, h⟩ := Except.exists_of_bind_eq_ok h
    cases h
    exact isAssembled_parseFile hfile
  | special =>
    simp only [hclass] at h
    obtain ⟨⟨authority, rest⟩, -, h⟩ := Except.exists_of_bind_eq_ok h
    cases h
    exact isAssembled_parseAfterAuthority scheme authority rest
  | plain =>
    simp only [hclass] at h
    split at h
    · obtain ⟨⟨authority, rest⟩, -, h⟩ := Except.exists_of_bind_eq_ok h
      cases h
      exact isAssembled_parseAfterAuthority scheme authority rest
    · rename_i rest _ _
      cases h
      rw [← hclass]
      exact isAssembled_parsePath scheme none rest rest
    · cases h

def IsSound (u : Url) : Prop := Path.Sound u.kind.isFile u.path

/-- Reading gives sound paths. -/
theorem isSound_of_parse {raw : String} {u : Url} (h : Address.parse raw = .ok (.hierarchical u)) :
    IsSound u := by
  obtain ⟨scheme, authority, path, s, rfl, hpath, -⟩ := isAssembled_of_parse h
  exact Path.sound_collapse hpath

end RecordStore.Url
