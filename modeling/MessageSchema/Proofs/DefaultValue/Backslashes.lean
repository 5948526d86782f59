/-
Escaping is a matter of counting backslashes: a character is escaped when an
odd number of them stands directly before it. So a text is taken in
stretches, each some backslashes and the character behind them, and what is
said of the whole is said of one stretch and the rest (`stretch_induction`).

A text can stand between the quotes of a literal if each double quote in it
has an odd number of backslashes before it, and an even number stands at the
end, where they would escape the closing quote (`exists_spells_iff`).
-/
import MessageSchema.Proofs.DefaultValue.Literal
import Mathlib.Algebra.Ring.Parity
import Mathlib.Data.List.TakeWhile

namespace MessageSchema.DefaultValue

/-- The number of backslashes at the end of a text. -/
def backslashesAtEnd (cs : List Char) : Nat :=
  (cs.reverse.takeWhile (· == '\\')).length

/-- Directly before each `q` stands a number of backslashes that satisfies `p`. -/
def EachBehind (q : Char) (p : Nat → Prop) (cs : List Char) : Prop :=
  ∀ before after, cs = before ++ q :: after → p (backslashesAtEnd before)

theorem eachBehind_iff_take {q : Char} {p : Nat → Prop} {cs : List Char} :
    EachBehind q p cs ↔ ∀ i < cs.length, cs[i]? = some q → p (backslashesAtEnd (cs.take i)) := by
  constructor
  · intro h i _ hq
    obtain ⟨hi, rfl⟩ := List.getElem?_eq_some_iff.1 hq
    exact h _ (cs.drop (i + 1)) (by simp)
  · rintro h before after rfl
    simpa using h before.length (by simp) (by simp)

instance (q : Char) (p : Nat → Prop) [DecidablePred p] (cs : List Char) : Decidable (EachBehind q p cs) :=
  decidable_of_iff _ eachBehind_iff_take.symm

/-- What holds of backslashes alone, and of a stretch in front of a text of
which it holds, holds of every text. -/
@[elab_as_elim]
theorem stretch_induction {P : List Char → Prop} (ending : ∀ n, P (List.replicate n '\\'))
    (stretch : ∀ n c cs, c ≠ '\\' → P cs → P (List.replicate n '\\' ++ c :: cs)) (cs : List Char) :
    P cs := by
  -- the backslashes already passed are counted by `n`
  have hpassed : ∀ n, P (List.replicate n '\\' ++ cs) := by
    induction cs with
    | nil => simpa using ending
    | cons c cs ih =>
      intro n
      by_cases hc : c = '\\'
      · subst hc
        have h := ih (n + 1)
        rwa [List.replicate_succ', List.append_assoc, List.singleton_append] at h
      · exact stretch n c cs hc (ih 0)
  exact hpassed 0

/-! ## Counts, one stretch at a time -/

section

variable {c q : Char} {p : Nat → Prop}

theorem backslashesAtEnd_replicate (n : Nat) : backslashesAtEnd (List.replicate n '\\') = n := by
  simp [backslashesAtEnd]

theorem backslashesAtEnd_eq_zero {cs : List Char} (h : '\\' ∉ cs) : backslashesAtEnd cs = 0 := by
  rw [backslashesAtEnd, List.length_eq_zero_iff, List.takeWhile_eq_nil_iff]
  intro hlength hlast
  have hmem := List.get_mem cs.reverse ⟨0, hlength⟩
  rw [eq_of_beq hlast, List.mem_reverse] at hmem
  exact h hmem

theorem backslashesAtEnd_append_cons (hc : c ≠ '\\') (before cs : List Char) :
    backslashesAtEnd (before ++ c :: cs) = backslashesAtEnd cs := by
  have hstop : (c :: before.reverse).takeWhile (· == '\\') = [] :=
    List.takeWhile_cons_of_neg (by simpa using hc)
  rw [backslashesAtEnd, List.reverse_append, List.reverse_cons, List.append_assoc,
    List.singleton_append, List.takeWhile_append, hstop]
  split
  · next hall => rw [List.append_nil, backslashesAtEnd, ← hall]
  · rfl

theorem eachBehind_replicate (hq : q ≠ '\\') (n : Nat) : EachBehind q p (List.replicate n '\\') := by
  intro before after h
  have hmem : q ∈ List.replicate n '\\' := by simp [h]
  exact absurd (List.eq_of_mem_replicate hmem) hq

theorem eachBehind_stretch (hq : q ≠ '\\') (hc : c ≠ '\\') {n : Nat} {cs : List Char} :
    EachBehind q p (List.replicate n '\\' ++ c :: cs) ↔ (c = q → p n) ∧ EachBehind q p cs := by
  constructor
  · intro h
    refine ⟨?_, fun before after hcs => ?_⟩
    · rintro rfl
      have hn := h _ _ rfl
      rwa [backslashesAtEnd_replicate] at hn
    · have hbefore := h (List.replicate n '\\' ++ c :: before) after (by simp [hcs])
      rwa [backslashesAtEnd_append_cons hc] at hbefore
  · rintro ⟨hn, hcs⟩ before after h
    rcases List.append_eq_append_iff.1 h with ⟨passed, rfl, hpassed⟩ | ⟨passed, hpassed, hq'⟩
    · cases passed with
      | nil =>
        cases hpassed
        rw [List.append_nil, backslashesAtEnd_replicate]
        exact hn rfl
      | cons d passed =>
        cases hpassed
        rw [backslashesAtEnd_append_cons hc]
        exact hcs passed after rfl
    · cases passed with
      | nil =>
        cases hq'
        rw [List.append_nil] at hpassed
        rw [← hpassed, backslashesAtEnd_replicate]
        exact hn rfl
      | cons d passed =>
        cases hq'
        have hmem : q ∈ List.replicate n '\\' := by simp [hpassed]
        exact absurd (List.eq_of_mem_replicate hmem) hq

end

/-! ## What can stand between the quotes -/

theorem exists_spells_escaped {c : Char} {cs : List Char} :
    (∃ text, Spells ('\\' :: c :: cs) text) ↔ ∃ text, Spells cs text := by
  constructor
  · rintro ⟨text, h⟩
    cases h with
    | plain quote backslash rest => exact absurd rfl backslash
    | escaped c rest => exact ⟨_, rest⟩
  · rintro ⟨text, h⟩
    exact ⟨_, .escaped c h⟩

theorem exists_spells_cons {c : Char} (hc : c ≠ '\\') {cs : List Char} :
    (∃ text, Spells (c :: cs) text) ↔ c ≠ '"' ∧ ∃ text, Spells cs text := by
  constructor
  · rintro ⟨text, h⟩
    cases h with
    | plain quote backslash rest => exact ⟨quote, _, rest⟩
    | escaped c rest => exact absurd rfl hc
  · rintro ⟨quote, text, h⟩
    exact ⟨_, .plain quote hc h⟩

/-- The backslashes of a stretch escape each other in pairs; the one that may
be left over escapes the character behind it. -/
theorem exists_spells_stretch {c : Char} (hc : c ≠ '\\') {cs : List Char} (n : Nat) :
    (∃ text, Spells (List.replicate n '\\' ++ c :: cs) text) ↔
      (c = '"' → Odd n) ∧ ∃ text, Spells cs text := by
  induction n using Nat.twoStepInduction with
  | zero => simpa using exists_spells_cons hc
  | one => simpa using exists_spells_escaped
  | more n ih _ =>
    rw [List.replicate_succ, List.replicate_succ, List.cons_append, List.cons_append,
      exists_spells_escaped, ih]
    simp [Nat.odd_add]

theorem exists_spells_replicate (n : Nat) : (∃ text, Spells (List.replicate n '\\') text) ↔ Even n := by
  induction n using Nat.twoStepInduction with
  | zero => simpa using ⟨[], Spells.nil⟩
  | one =>
    simp only [List.replicate_one, Nat.not_even_one, iff_false]
    rintro ⟨text, h⟩
    cases h with
    | plain quote backslash rest => exact backslash rfl
  | more n ih _ =>
    rw [List.replicate_succ, List.replicate_succ, exists_spells_escaped, ih]
    simp [Nat.even_add]

/-- **A text can stand between double quotes** if an odd number of backslashes
stands before each double quote in it and an even number at its end. -/
theorem exists_spells_iff {body : List Char} :
    (∃ text, Spells body text) ↔ EachBehind '"' Odd body ∧ Even (backslashesAtEnd body) := by
  induction body using stretch_induction with
  | ending n =>
    rw [exists_spells_replicate, backslashesAtEnd_replicate]
    exact (and_iff_right (eachBehind_replicate (by decide) n)).symm
  | stretch n c cs hc ih =>
    rw [exists_spells_stretch hc, ih, eachBehind_stretch (by decide) hc,
      backslashesAtEnd_append_cons hc, and_assoc]

end MessageSchema.DefaultValue
