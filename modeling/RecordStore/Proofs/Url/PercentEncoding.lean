import Mathlib
import RecordStore.Url.Parse

/-! # Decoding what percent-encoding wrote

Decoding undoes encoding whenever the percent sign is itself escaped. An encoded segment of a path
holds nothing that would end it, and it means one or two dots only if that is its text. -/

namespace RecordStore.Url

/-! ## Bytes -/

private theorem hexValue?_upperHex : ∀ d < 16, Text.hexValue? (upperHex d) = some d := by decide

theorem percentDecode_escapeByte (b : UInt8) (s : List Char) :
    percentDecode (escapeByte b ++ s) = b :: percentDecode s := by
  have hb : b.toNat < 256 := b.toNat_lt
  have hhigh := hexValue?_upperHex (b.toNat / 16) (by omega)
  have hlow := hexValue?_upperHex (b.toNat % 16) (by omega)
  have hvalue : b.toNat / 16 * 16 + b.toNat % 16 = b.toNat := by omega
  have hbyte : hexByte? (upperHex (b.toNat / 16)) (upperHex (b.toNat % 16)) = some b := by
    simp only [hexByte?, hhigh, hlow, Option.bind_eq_bind, Option.bind_some, hvalue,
      UInt8.ofNat_toNat]
  simp only [escapeByte, List.cons_append, List.nil_append, percentDecode, hbyte]

theorem percentDecode_escapeBytes (bs : List UInt8) (s : List Char) :
    percentDecode (bs.flatMap escapeByte ++ s) = bs ++ percentDecode s := by
  induction bs with
  | nil => rfl
  | cons b bs ih =>
    rw [List.flatMap_cons, List.append_assoc, percentDecode_escapeByte, ih, List.cons_append]

theorem percentDecode_cons_of_ne {c : Char} (hc : c ≠ '%') (s : List Char) :
    percentDecode (c :: s) = String.utf8EncodeChar c ++ percentDecode s := by
  rw [percentDecode.eq_def]
  split
  · contradiction
  · simp_all
  · simp_all

/-! ## Characters and texts -/

theorem utf8_cons (c : Char) (s : List Char) : utf8 (c :: s) = String.utf8EncodeChar c ++ utf8 s :=
  List.flatMap_cons

theorem percentDecode_encodeChar {escaped : Char → Bool} (h : escaped '%' = true) (c : Char)
    (s : List Char) :
    percentDecode (encodeChar escaped c ++ s) = String.utf8EncodeChar c ++ percentDecode s := by
  by_cases hc : escaped c = true
  · rw [encodeChar, if_pos hc, percentDecode_escapeBytes]
  · have hne : c ≠ '%' := fun he => hc (he ▸ h)
    rw [encodeChar, if_neg hc]
    exact percentDecode_cons_of_ne hne s

theorem percentDecode_encode {escaped : Char → Bool} (h : escaped '%' = true) (s : List Char) :
    percentDecode (encode escaped s) = utf8 s := by
  induction s with
  | nil => rfl
  | cons c s ih => rw [encode_cons, percentDecode_encodeChar h, ih, utf8_cons]

theorem toByteArray_utf8 (s : List Char) : (⟨(utf8 s).toArray⟩ : ByteArray) = s.utf8Encode := by
  apply ByteArray.ext
  rw [List.utf8Encode, List.data_toByteArray, utf8]

theorem decodeText?_of_percentDecode {t s : List Char} (h : percentDecode t = utf8 s) :
    decodeText? t = some (String.ofList s) := by
  have hvalid : ByteArray.IsValidUTF8 s.utf8Encode := ⟨s, rfl⟩
  rw [decodeText?, h, toByteArray_utf8, String.fromUTF8?, dif_pos hvalid]
  congr 1

/-- Decoding undoes encoding, whatever else is escaped besides the percent sign. -/
theorem decodeText?_encode {escaped : Char → Bool} (h : escaped '%' = true) (s : List Char) :
    decodeText? (encode escaped s) = some (String.ofList s) :=
  decodeText?_of_percentDecode (percentDecode_encode h s)

theorem utf8_injective {s t : List Char} (h : utf8 s = utf8 t) : s = t := by
  have hencode : percentDecode (encode (fun _ => true) s) = utf8 s := percentDecode_encode rfl s
  have hs := decodeText?_of_percentDecode hencode
  have ht := decodeText?_of_percentDecode (hencode.trans h)
  exact String.ofList_injective (Option.some.inj (hs.symm.trans ht))

/-! ## What an encoded text consists of -/

/-- The characters that escapes are written with. -/
def isEscapeSign (c : Char) : Bool := c = '%' || c.isDigit || (decide ('A' ≤ c) && decide (c ≤ 'F'))

private theorem isEscapeSign_upperHex : ∀ d < 16, isEscapeSign (upperHex d) = true := by decide

theorem isEscapeSign_of_mem_escapeByte {b : UInt8} {c : Char} (h : c ∈ escapeByte b) :
    isEscapeSign c = true := by
  have hb : b.toNat < 256 := b.toNat_lt
  simp only [escapeByte, List.mem_cons, List.not_mem_nil, or_false] at h
  rcases h with rfl | rfl | rfl
  · rfl
  · exact isEscapeSign_upperHex _ (by omega)
  · exact isEscapeSign_upperHex _ (by omega)

/-- What an encoded text consists of: characters of the text that are not escaped, and escapes. -/
theorem mem_of_mem_encode {escaped : Char → Bool} {s : List Char} {c : Char}
    (h : c ∈ encode escaped s) : (c ∈ s ∧ escaped c = false) ∨ isEscapeSign c = true := by
  obtain ⟨d, hmem, hc⟩ := List.mem_flatMap.mp h
  by_cases hd : escaped d = true
  · rw [encodeChar, if_pos hd] at hc
    obtain ⟨b, -, hb⟩ := List.mem_flatMap.mp hc
    exact .inr (isEscapeSign_of_mem_escapeByte hb)
  · rw [encodeChar, if_neg hd, List.mem_singleton] at hc
    subst hc
    exact .inl ⟨hmem, by simpa using hd⟩

theorem not_escaped_of_mem_encode {escaped : Char → Bool} {s : List Char} {c : Char}
    (h : c ∈ encode escaped s) : escaped c = false ∨ isEscapeSign c = true :=
  (mem_of_mem_encode h).imp_left And.right

theorem encode_eq_self {escaped : Char → Bool} {s : List Char} (h : ∀ c ∈ s, escaped c = false) :
    encode escaped s = s := by
  induction s with
  | nil => rfl
  | cons c s ih =>
    have hc : escaped c = false := h c List.mem_cons_self
    rw [encode_cons, ih fun d hd => h d (List.mem_cons_of_mem c hd), encodeChar, hc]
    rfl

theorem escapedInSegment_percent (special : Bool) : escapedInSegment special '%' = true := by
  cases special <;> rfl

/-- An encoded segment is one segment: nothing in it ends it, nor the path. -/
theorem not_ends_of_mem_encode {special : Bool} {s : List Char} {c : Char}
    (h : c ∈ encode (escapedInSegment special) s) :
    Path.isSeparator special c = false ∧ endsPath c = false := by
  have hc := not_escaped_of_mem_encode h
  constructor
  · rw [Bool.eq_false_iff]
    intro hsep
    simp only [Path.isSeparator, Bool.or_eq_true, Bool.and_eq_true, decide_eq_true_eq] at hsep
    rcases hsep with rfl | ⟨rfl, rfl⟩
    · cases special <;> rcases hc with hc | hc <;> exact absurd hc (by decide)
    · rcases hc with hc | hc <;> exact absurd hc (by decide)
  · rw [Bool.eq_false_iff]
    intro hend
    simp only [endsPath, Bool.or_eq_true, decide_eq_true_eq] at hend
    rcases hend with rfl | rfl <;> cases special <;> rcases hc with hc | hc <;>
      exact absurd hc (by decide)

/-! ## Dots -/

private theorem toNat_toLower (c : Char) :
    c.toLower.toNat = if 65 ≤ c.toNat ∧ c.toNat ≤ 90 then c.toNat + 32 else c.toNat := by
  have hiff : (c.val ≥ 'A'.val ∧ c.val ≤ 'Z'.val) ↔ 65 ≤ c.toNat ∧ c.toNat ≤ 90 := by
    simp only [ge_iff_le, UInt32.le_iff_toNat_le]
    rfl
  by_cases h : 65 ≤ c.toNat ∧ c.toNat ≤ 90
  · rw [Char.toLower, dif_pos (hiff.mpr h), if_pos h]
    simp only [Char.toNat, UInt32.toNat_add] at h ⊢
    change (c.val.toNat + 32) % 2 ^ 32 = c.val.toNat + 32
    omega
  · rw [Char.toLower, dif_neg (fun hc => h (hiff.mp hc)), if_neg h]

private theorem eq_of_toLower_eq {c d : Char} (h : c.toLower = d) (hd : d.toNat < 97) : c = d := by
  have hn := congrArg Char.toNat h
  rw [toNat_toLower] at hn
  apply Char.toNat_inj.mp
  split at hn <;> omega

private theorem eq_of_toLower_eq_e {c : Char} (h : c.toLower = 'e') : c = 'e' ∨ c = 'E' := by
  have hn := congrArg Char.toNat h
  rw [toNat_toLower] at hn
  change _ = 101 at hn
  split at hn
  · exact .inr (Char.toNat_inj.mp (by change _ = 69; omega))
  · exact .inl (Char.toNat_inj.mp hn)

private theorem percentDecode_of_dot {t rest : List Char}
    (h : t.map Char.toLower = '.' :: rest ∨ t.map Char.toLower = '%' :: '2' :: 'e' :: rest) :
    ∃ u, u.map Char.toLower = rest ∧ percentDecode t = utf8 ['.'] ++ percentDecode u := by
  simp only [List.map_eq_cons_iff] at h
  rcases h with ⟨c, u, rfl, hc, hu⟩ | ⟨c₁, _, rfl, h₁, c₂, _, rfl, h₂, c₃, u, rfl, h₃, hu⟩
  · have hdot : c = '.' := eq_of_toLower_eq hc (by decide)
    subst hdot
    exact ⟨u, hu, percentDecode_cons_of_ne (by decide) u⟩
  · have hpercent : c₁ = '%' := eq_of_toLower_eq h₁ (by decide)
    have htwo : c₂ = '2' := eq_of_toLower_eq h₂ (by decide)
    subst hpercent htwo
    rcases eq_of_toLower_eq_e h₃ with rfl | rfl <;> exact ⟨u, hu, rfl⟩

theorem percentDecode_of_meaning_here {t : List Char} (h : Path.meaning t = .here) :
    percentDecode t = utf8 ['.'] := by
  simp only [Path.meaning] at h
  split at h
  · rename_i hforms
    obtain ⟨u, hu, ht⟩ := percentDecode_of_dot hforms
    rw [ht, List.map_eq_nil_iff.mp hu]
    rfl
  · split at h <;> contradiction

theorem percentDecode_of_meaning_up {t : List Char} (h : Path.meaning t = .up) :
    percentDecode t = utf8 ['.', '.'] := by
  simp only [Path.meaning] at h
  split at h
  · contradiction
  split at h
  · rename_i hforms
    obtain ⟨rest, hfirst, hrest⟩ : ∃ rest,
        (t.map Char.toLower = '.' :: rest ∨ t.map Char.toLower = '%' :: '2' :: 'e' :: rest) ∧
          (rest = ['.'] ∨ rest = ['%', '2', 'e']) := by
      rcases hforms with h | h | h | h
      · exact ⟨_, .inl h, .inl rfl⟩
      · exact ⟨_, .inl h, .inr rfl⟩
      · exact ⟨_, .inr h, .inl rfl⟩
      · exact ⟨_, .inr h, .inr rfl⟩
    obtain ⟨u, rfl, ht⟩ := percentDecode_of_dot hfirst
    obtain ⟨v, hv, hu⟩ := percentDecode_of_dot hrest
    rw [ht, hu, List.map_eq_nil_iff.mp hv]
    rfl
  · contradiction

/-- An encoded segment means dots only if these are its text: a dot is not escaped, and a percent
sign is. -/
theorem meaning_encode (special : Bool) (s : List Char) :
    Path.meaning (encode (escapedInSegment special) s) =
      if s = ['.'] then .here else if s = ['.', '.'] then .up else .name := by
  have hdecode := percentDecode_encode (escapedInSegment_percent special) s
  by_cases hhere : s = ['.']
  · subst hhere
    cases special <;> rfl
  by_cases hup : s = ['.', '.']
  · subst hup
    cases special <;> rfl
  rw [if_neg hhere, if_neg hup]
  -- Any other meaning would decode to dots, but decoding gives `s` back.
  cases h : Path.meaning (encode (escapedInSegment special) s) with
  | name => rfl
  | here => exact absurd (utf8_injective (hdecode.symm.trans (percentDecode_of_meaning_here h))) hhere
  | up => exact absurd (utf8_injective (hdecode.symm.trans (percentDecode_of_meaning_up h))) hup

end RecordStore.Url
