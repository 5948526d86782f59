/-
Texts and their lines. A text is its lines with line feeds between them, and
joining lines that hold no line feed gives a text of just these lines, so a
text can be cut after any line (`lines_firstLines`) and two texts can be put
together with lines between them (`lines_append`).
-/
import MessageSchema.Text.Lines

namespace MessageSchema.Text

theorem not_mem_of_mem_splitOn {c : Char} {cs l : List Char} (h : l ∈ cs.splitOn c) : c ∉ l := by
  induction cs generalizing l with
  | nil =>
    rw [List.splitOn_nil, List.mem_singleton] at h
    simp [h]
  | cons d cs ih =>
    rw [List.splitOn_cons_eq_if_modifyHead] at h
    obtain ⟨first, others, hsplit⟩ := List.exists_cons_of_ne_nil (List.splitOn_ne_nil c cs)
    rw [hsplit] at h ih
    split at h
    · rcases List.mem_cons.1 h with rfl | h
      · simp
      · exact ih h
    · next hne =>
      rw [List.modifyHead_cons] at h
      rcases List.mem_cons.1 h with rfl | h
      · rw [List.mem_cons, not_or]
        refine ⟨?_, ih (by simp)⟩
        rintro rfl
        exact hne (by simp)
      · exact ih (by simp [h])

/-- No line holds a line feed. -/
theorem newline_not_mem_of_mem_lines {text line : String} (h : line ∈ lines text) : '\n' ∉ line.toList := by
  simp only [lines, List.mem_map] at h
  obtain ⟨cs, hcs, rfl⟩ := h
  rw [String.toList_ofList]
  exact not_mem_of_mem_splitOn hcs

theorem lines_ne_nil (text : String) : lines text ≠ [] := by
  simp [lines]

/-- Lines with line feeds between them. -/
def joinLines (ls : List String) : String :=
  "\n".intercalate ls

theorem lines_joinLines {ls : List String} (hne : ls ≠ []) (h : ∀ l ∈ ls, '\n' ∉ l.toList) :
    lines (joinLines ls) = ls := by
  have hlist : (joinLines ls).toList.splitOn '\n' = ls.map String.toList := by
    rw [joinLines, String.toList_intercalate]
    refine List.splitOn_intercalate '\n' ?_ (by simpa using hne)
    intro l hl
    obtain ⟨s, hs, rfl⟩ := List.mem_map.1 hl
    exact h s hs
  rw [lines, hlist, List.map_map]
  simp

/-- A text is its lines. -/
theorem joinLines_lines (text : String) : joinLines (lines text) = text := by
  have hlist : (joinLines (lines text)).toList = text.toList := by
    rw [joinLines, lines, String.toList_intercalate, List.map_map]
    have hid : String.toList ∘ String.ofList = id := funext fun cs => String.toList_ofList
    rw [hid, List.map_id]
    exact List.intercalate_splitOn '\n'
  exact String.toList_inj.1 hlist

/-- The first lines of a text, as a text. -/
def firstLines (n : Nat) (text : String) : String :=
  joinLines ((lines text).take n)

theorem lines_firstLines {n : Nat} (hn : n ≠ 0) (text : String) :
    lines (firstLines n text) = (lines text).take n := by
  refine lines_joinLines ?_ fun l hl => newline_not_mem_of_mem_lines (List.mem_of_mem_take hl)
  simp [hn, lines_ne_nil]

theorem firstLines_zero (text : String) : firstLines 0 text = "" := by
  simp [firstLines, joinLines]

/-- The lines of two texts with a line feed between them. -/
theorem lines_append (text text' : String) :
    lines (text ++ "\n" ++ text') = lines text ++ lines text' := by
  have hlist : (text ++ "\n" ++ text').toList = text.toList ++ '\n' :: text'.toList := by
    simp [String.toList_append]
  rw [lines, hlist, List.splitOn_append_cons_self, List.map_append]
  rfl

/-- The lines of two texts with a line between them. -/
theorem lines_line_between {line : String} (h : lines line = [line]) (text text' : String) :
    lines (text ++ ("\n" ++ line ++ "\n") ++ text') = lines text ++ line :: lines text' := by
  have htext : text ++ ("\n" ++ line ++ "\n") ++ text' = text ++ "\n" ++ (line ++ "\n" ++ text') := by
    simp only [String.append_assoc]
  rw [htext, lines_append, lines_append, h, List.singleton_append]

/-! ## Numbered lines -/

variable {first : Nat} {ls : List String}

/-- Counting from further on adds to every number. -/
theorem numberFrom_add (first n : Nat) (ls : List String) :
    numberFrom (first + n) ls = (numberFrom first ls).map fun l => (l.1 + n, l.2) := by
  induction ls generalizing first with
  | nil => rfl
  | cons l ls ih =>
    rw [numberFrom, numberFrom, List.map_cons, ← ih (first + 1), Nat.add_right_comm]

/-- The numbers are consecutive. -/
theorem map_fst_numberFrom (first : Nat) (ls : List String) :
    (numberFrom first ls).map (·.1) = List.range' first ls.length := by
  induction ls generalizing first with
  | nil => rfl
  | cons l ls ih => rw [numberFrom, List.map_cons, ih, List.length_cons, List.range'_succ]

theorem map_snd_numberFrom (first : Nat) (ls : List String) : (numberFrom first ls).map (·.2) = ls := by
  induction ls generalizing first with
  | nil => rfl
  | cons l ls ih => rw [numberFrom, List.map_cons, ih]

theorem bounds_of_mem_numberFrom {l : NumberedLine} (h : l ∈ numberFrom first ls) :
    first ≤ l.1 ∧ l.1 < first + ls.length := by
  have hfst : l.1 ∈ (numberFrom first ls).map (·.1) := List.mem_map_of_mem h
  rw [map_fst_numberFrom, List.mem_range'_1] at hfst
  exact hfst

/-- Whichever of the numbered lines are kept, their numbers increase. -/
theorem pairwise_filter_numberFrom (p : NumberedLine → Bool) (first : Nat) (ls : List String) :
    (((numberFrom first ls).filter p).map (·.1)).Pairwise (· < ·) := by
  have hall : ((numberFrom first ls).map (·.1)).Pairwise (· < ·) := by
    rw [map_fst_numberFrom]
    exact List.pairwise_lt_range' 1
  exact hall.sublist (List.filter_sublist.map _)

/-- Numbered lines that fall into two parts come from lines that do. -/
theorem numberFrom_eq_append_cons {pre post : List NumberedLine} {l : NumberedLine}
    (h : numberFrom first ls = pre ++ l :: post) :
    ∃ before text after, ls = before ++ text :: after ∧ pre = numberFrom first before ∧
      l = (first + before.length, text) := by
  induction pre generalizing first ls with
  | nil =>
    cases ls with
    | nil => cases h
    | cons text after =>
      simp only [numberFrom, List.nil_append, List.cons.injEq] at h
      exact ⟨[], text, after, rfl, rfl, h.1.symm⟩
  | cons k pre ih =>
    cases ls with
    | nil => cases h
    | cons text' ls =>
      simp only [numberFrom, List.cons_append, List.cons.injEq] at h
      obtain ⟨before, text, after, rfl, rfl, hl⟩ := ih h.2
      refine ⟨text' :: before, text, after, rfl, ?_, ?_⟩
      · rw [numberFrom, h.1]
      · rw [hl, List.length_cons]
        exact congrArg (·, text) (by omega)

end MessageSchema.Text
