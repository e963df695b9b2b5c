/-! # Splitting text -/

namespace RecordStore.Text

/-- The parts between the characters that satisfy `p`; one part more than there are such characters. -/
def splitOn (p : Char → Bool) : List Char → List (List Char)
  | [] => [[]]
  | c :: s =>
    if p c then [] :: splitOn p s
    else match splitOn p s with
      | [] => [[c]]
      | w :: ws => (c :: w) :: ws

theorem splitOn_ne_nil (p : Char → Bool) (s : List Char) : splitOn p s ≠ [] := by
  cases s with
  | nil => simp [splitOn]
  | cons c s =>
    by_cases h : p c
    · simp [splitOn, h]
    · cases hs : splitOn p s <;> simp [splitOn, h, hs]

@[simp] theorem splitOn_cons_of_pos {p : Char → Bool} {c : Char} (h : p c) (s : List Char) :
    splitOn p (c :: s) = [] :: splitOn p s := by simp [splitOn, h]

/-- No part holds a character that satisfies `p`. -/
theorem not_of_mem_splitOn {p : Char → Bool} {s w : List Char} (hw : w ∈ splitOn p s) {c : Char}
    (hc : c ∈ w) : ¬p c := by
  induction s generalizing w with
  | nil => simp_all [splitOn]
  | cons d s ih =>
    by_cases hd : p d
    · rcases List.mem_cons.1 (splitOn_cons_of_pos hd s ▸ hw) with rfl | hw
      · simp at hc
      · exact ih hw hc
    · cases hs : splitOn p s with
      | nil => exact absurd hs (splitOn_ne_nil p s)
      | cons v vs =>
        simp only [splitOn, hd, hs] at hw
        rcases List.mem_cons.1 hw with rfl | hw
        · rcases List.mem_cons.1 hc with rfl | hc
          · exact hd
          · exact ih (hs ▸ List.mem_cons_self) hc
        · exact ih (hs ▸ List.mem_cons_of_mem v hw) hc

end RecordStore.Text
