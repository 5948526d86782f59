/-
The snake-case form of a name of ASCII letters and digits. It consists of
small letters and digits, some of them behind an underscore (`Separated`), and
from that everything else about its shape follows. Nothing of the name is
lost but the case of its letters, and a name that is already small is left
alone, so a second time changes nothing.
-/
import MessageSchema.Proofs.Identifier.Underscores

namespace MessageSchema.Identifier

open Text

/-! ## The shape of the form -/

/-- Small letters and digits, with single underscores between them. -/
structure IsSnakeCase (cs : List Char) : Prop where
  small : ∀ c ∈ cs, c.isLower = true ∨ c.isDigit = true ∨ c = '_'
  head : cs.head? ≠ some '_'
  last : cs.getLast? ≠ some '_'
  single : ¬ ['_', '_'] <:+: cs

/-- Small letters and digits, each with an underscore before it or without. -/
inductive Separated : List Char → Prop where
  | nil : Separated []
  | plain {c : Char} {cs : List Char} (small : c.isLower = true ∨ c.isDigit = true)
      (rest : Separated cs) : Separated (c :: cs)
  | separated {c : Char} {cs : List Char} (small : c.isLower = true ∨ c.isDigit = true)
      (rest : Separated cs) : Separated ('_' :: c :: cs)

section

variable {first inRun : Bool} {c : Char} {cs : List Char}

theorem separated_snakeChars (hcs : Alphanumeric cs) : Separated (snakeChars first inRun cs) := by
  induction cs generalizing first inRun with
  | nil => exact .nil
  | cons c cs ih =>
    obtain ⟨hc, hcs⟩ := List.forall_mem_cons.1 hcs
    rw [snakeChars_cons hc]
    cases isSeparated first inRun c cs with
    | false => exact .plain (toLower_ascii hc) (ih hcs)
    | true => exact .separated (toLower_ascii hc) (ih hcs)

/-- At the start of a name there is no underscore. -/
theorem head?_snakeChars (hcs : Alphanumeric cs) : (snakeChars true inRun cs).head? ≠ some '_' := by
  cases cs with
  | nil => simp [snakeChars]
  | cons c cs =>
    have hc := hcs c List.mem_cons_self
    rw [snakeChars_cons hc]
    simpa [isSeparated] using toLower_ne_underscore hc

/-- Without its underscores a name is the given one in small letters. -/
theorem filter_snakeChars (hcs : Alphanumeric cs) :
    (snakeChars first inRun cs).filter (· ≠ '_') = cs.map Char.toLower := by
  induction cs generalizing first inRun with
  | nil => rfl
  | cons c cs ih =>
    obtain ⟨hc, hcs⟩ := List.forall_mem_cons.1 hcs
    have hrest := @ih false (standsInRun inRun c) hcs
    rw [snakeChars_cons hc]
    cases isSeparated first inRun c cs with
    | false => simpa [toLower_ne_underscore hc] using hrest
    | true => simpa [toLower_ne_underscore hc] using hrest

theorem Separated.small (h : Separated cs) : ∀ c ∈ cs, c.isLower = true ∨ c.isDigit = true ∨ c = '_' := by
  induction h with
  | nil => exact List.forall_mem_nil _
  | plain small _ ih => exact List.forall_mem_cons.2 ⟨small.imp_right .inl, ih⟩
  | separated small _ ih =>
    exact List.forall_mem_cons.2 ⟨.inr (.inr rfl), List.forall_mem_cons.2 ⟨small.imp_right .inl, ih⟩⟩

theorem getLast?_cons_ne {d : Char} (hc : c ≠ d) (hcs : cs.getLast? ≠ some d) :
    (c :: cs).getLast? ≠ some d := by
  cases cs with
  | nil => simpa using hc
  | cons e cs => rwa [List.getLast?_cons_cons]

theorem Separated.last (h : Separated cs) : cs.getLast? ≠ some '_' := by
  induction h with
  | nil => simp
  | plain small _ ih => exact getLast?_cons_ne (ne_underscore_of_small small) ih
  | separated small _ ih =>
    rw [List.getLast?_cons_cons]
    exact getLast?_cons_ne (ne_underscore_of_small small) ih

theorem Separated.single (h : Separated cs) : ¬ ['_', '_'] <:+: cs := by
  induction h with
  | nil => simp
  | plain small _ ih =>
    rw [List.infix_cons_iff, not_or]
    exact ⟨fun h => ne_underscore_of_small small (List.cons_prefix_cons.1 h).1.symm, ih⟩
  | separated small _ ih =>
    rw [List.infix_cons_iff, List.infix_cons_iff, not_or, not_or]
    have hne := ne_underscore_of_small small
    refine ⟨fun h => hne ?_, fun h => hne (List.cons_prefix_cons.1 h).1.symm, ih⟩
    exact (List.cons_prefix_cons.1 (List.cons_prefix_cons.1 h).2).1.symm

/-! ## Small names -/

theorem isUppercase_of_small (h : c.isLower = true ∨ c.isDigit = true ∨ c = '_') : isUppercase c = false := by
  have hcode : c.toNat < 0x80 := by
    rcases h with h | h | rfl
    · exact toNat_lt_of_isAlphanum (isAlphanum_of_isLower h)
    · exact toNat_lt_of_isAlphanum (isAlphanum_of_isDigit h)
    · decide
  exact of_ascii (P := fun c => c.isLower = true ∨ c.isDigit = true ∨ c = '_' → isUppercase c = false)
    hcode (by decide) h

/-- Outside of runs, text without capitals stays as it is. -/
theorem snakeChars_of_not_capital (h : ∀ c ∈ cs, isUppercase c = false) (first : Bool) (rest : List Char) :
    snakeChars first false (cs ++ rest) = cs ++ snakeChars (first && cs.isEmpty) false rest := by
  induction cs generalizing first with
  | nil => simp
  | cons c cs ih =>
    obtain ⟨hc, hcs⟩ := List.forall_mem_cons.1 h
    rw [List.cons_append, snakeChars, if_neg (by simp [hc]), ih hcs false]
    simp

theorem toSnake_of_not_capital {name : String} (h : ∀ c ∈ name.toList, isUppercase c = false) :
    toSnake name = name := by
  have hchars := snakeChars_of_not_capital h true []
  rw [List.append_nil, snakeChars, List.append_nil] at hchars
  rw [toSnake, hchars, String.ofList_toList]

end

/-- **The snake-case form is one, keeps the name but for its capitals, and is
its own snake-case form.** -/
theorem toSnake_isSnakeCase {name : String} (hname : Alphanumeric name.toList) :
    IsSnakeCase (toSnake name).toList ∧
      String.ofList ((toSnake name).toList.filter (· ≠ '_')) = name.toLower ∧
      toSnake (toSnake name) = toSnake name := by
  have hseparated : Separated (toSnake name).toList := by
    rw [toList_toSnake]
    exact separated_snakeChars hname
  refine ⟨⟨hseparated.small, ?_, hseparated.last, hseparated.single⟩, ?_, ?_⟩
  · rw [toList_toSnake]
    exact head?_snakeChars hname
  · rw [toList_toSnake, filter_snakeChars hname, ← String.toList_map, String.ofList_toList]
    rfl
  · exact toSnake_of_not_capital fun c hc => isUppercase_of_small (hseparated.small c hc)

/-- A run at the end, digits between small letters, and a digit that starts a word. -/
theorem toSnake_isSnakeCase_runs :
    Alphanumeric "Multi3dDOF2jointID".toList ∧ toSnake "Multi3dDOF2jointID" = "multi3d_dof_2joint_id" ∧
      IsSnakeCase "multi3d_dof_2joint_id".toList := by
  have hname : Alphanumeric "Multi3dDOF2jointID".toList := by decide
  exact ⟨hname, by decide, (toSnake_isSnakeCase hname).1⟩

end MessageSchema.Identifier
