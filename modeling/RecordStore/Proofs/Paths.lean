import RecordStore.Document

/-! # The steps of a path

A slash parts a path into two, one taken after the other. A step that is no index leads to a
member. -/

namespace RecordStore

namespace Text

variable {p : Char → Bool} {c : Char}

theorem splitOn_append_cons (h : p c) (s t : List Char) :
    splitOn p (s ++ c :: t) = splitOn p s ++ splitOn p t := by
  induction s with
  | nil => simp [splitOn, h]
  | cons d s ih =>
    by_cases hd : p d
    · simp [splitOn, hd, ih]
    · cases hs : splitOn p s with
      | nil => exact absurd hs (splitOn_ne_nil p s)
      | cons w ws => simp [splitOn, hd, ih, hs]

theorem splitOn_eq_singleton {s : List Char} (h : ∀ c ∈ s, ¬p c) : splitOn p s = [s] := by
  induction s with
  | nil => rfl
  | cons d s ih =>
    have hs := ih fun c hc => h c (List.mem_cons_of_mem d hc)
    simp [splitOn, h d List.mem_cons_self, hs]

end Text

namespace Document

theorem steps_append_slash (path rest : String) :
    steps (path ++ "/" ++ rest) = steps path ++ steps rest := by
  have hchars : (path ++ "/" ++ rest).toList = path.toList ++ '/' :: rest.toList := by
    simp [String.toList_append]
  rw [steps, hchars, Text.splitOn_append_cons (by decide), List.filter_append, List.map_append]
  rfl

theorem steps_of_name {name : String} (hne : name ≠ "") (h : '/' ∉ name.toList) :
    steps name = [name] := by
  have hsplit : Text.splitOn (fun c => c = '/') name.toList = [name.toList] := by
    apply Text.splitOn_eq_singleton
    intro c hc hslash
    exact h (of_decide_eq_true hslash ▸ hc)
  have hchars : name.toList ≠ [] := by simpa using hne
  rw [steps, hsplit]
  simp [hchars]

theorem step_of_no_index {name : String} (h : index? name = none) (d : Document) :
    step name d = d.member? name := by
  cases d <;> simp [step, Json.member?, h]

theorem walk_cons_of_no_index {name : String} (h : index? name = none) (rest : List String)
    (d : Document) : walk (name :: rest) d = (d.member? name).bind (walk rest) := by
  rw [walk_cons, step_of_no_index h]

theorem bind_walk_of_names {names : List String} (h : ∀ name ∈ names, index? name = none)
    (found : Option Document) :
    found.bind (walk names) =
      names.foldl (fun found name => found.bind (Json.member? name)) found := by
  induction names generalizing found with
  | nil => exact Option.bind_fun_some found
  | cons name rest ih =>
    obtain ⟨hname, hrest⟩ := List.forall_mem_cons.mp h
    rw [List.foldl_cons, ← ih hrest, Option.bind_assoc]
    exact Option.bind_congr fun d _ => walk_cons_of_no_index hname rest d

/-- Steps that are no indices lead through members only. -/
theorem walk_of_names {names : List String} (h : ∀ name ∈ names, index? name = none) (d : Document) :
    walk names d = names.foldl (fun found name => found.bind (Json.member? name)) (some d) :=
  bind_walk_of_names h (some d)

theorem index?_data : index? "data" = none := by decide

end Document

end RecordStore
