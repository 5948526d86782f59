/-
Blanks, words and digits as kinds of text, and how a text divides into a
first stretch of one kind and the rest. `span_eq_iff` says, of lists of any
elements, that this division is the only one whose rest does not start with
the same kind of element; the readers of the line grammar all rest on it.

Trimming is described by what it keeps: a text is its trimmed form between
two stretches of blanks (`exists_trim`), and blanks at either end do not
change the trimmed form.
-/
import MessageSchema.Text.Blank
import MessageSchema.Text.Numeric
import Mathlib.Data.List.DropRight
import Mathlib.Data.List.TakeWhile

namespace MessageSchema.Text

/-- Blanks, perhaps none. -/
def Blanks (cs : List Char) : Prop := ∀ c ∈ cs, isBlank c = true

instance (cs : List Char) : Decidable (Blanks cs) :=
  decidable_of_iff (cs.all isBlank = true) List.all_eq_true

/-- Characters of an identifier, at least one. -/
def Word (cs : List Char) : Prop := cs ≠ [] ∧ ∀ c ∈ cs, isWordChar c = true

/-- Decimal digits of any script, perhaps none. -/
def Digits (cs : List Char) : Prop := ∀ c ∈ cs, isDecimalDigit c = true

/-- The list is empty or starts with an element that fails `p`. -/
def Stops {α : Type} (p : α → Bool) (cs : List α) : Prop := ∀ c, cs.head? = some c → p c = false

section

variable {α : Type} {p : α → Bool}

theorem Stops.nil : Stops p [] := by simp [Stops]

theorem Stops.cons {c : α} {cs : List α} (h : p c = false) : Stops p (c :: cs) := by
  intro d hd
  simp only [List.head?_cons, Option.some.injEq] at hd
  rw [← hd]
  exact h

theorem Stops.dropWhile (p : α → Bool) (cs : List α) : Stops p (cs.dropWhile p) := by
  intro c hc
  have h := List.head?_dropWhile_not p cs
  rw [hc] at h
  simpa using h

theorem Stops.append {cs ds : List α} (hne : cs ≠ []) (h : Stops p cs) : Stops p (cs ++ ds) := by
  intro c hc
  rw [List.head?_append_of_ne_nil cs hne] at hc
  exact h c hc

theorem Stops.imp {q : α → Bool} {cs : List α} (h : Stops p cs) (hpq : ∀ c, p c = false → q c = false) :
    Stops q cs := fun c hc => hpq c (h c hc)

/-- **A list divides in one way.** The stretch of elements that satisfy `p`
and the rest are the only two parts of which the first satisfies `p`
throughout and the second stops it. -/
theorem span_eq_iff {cs ws rest : List α} :
    (cs.takeWhile p = ws ∧ cs.dropWhile p = rest) ↔
      cs = ws ++ rest ∧ (∀ c ∈ ws, p c = true) ∧ Stops p rest := by
  constructor
  · intro h
    obtain ⟨rfl, rfl⟩ := h
    exact ⟨List.takeWhile_append_dropWhile.symm, fun c hc => List.mem_takeWhile_imp hc, .dropWhile p cs⟩
  · intro h
    obtain ⟨rfl, hws, hrest⟩ := h
    rw [List.takeWhile_append_of_pos hws, List.dropWhile_append_of_pos hws]
    cases rest with
    | nil => simp
    | cons c rest =>
      have hc : ¬ p c = true := by simp [hrest c rfl]
      rw [List.takeWhile_cons_of_neg hc, List.dropWhile_cons_of_neg hc, List.append_nil]
      exact ⟨rfl, rfl⟩

end

/-! ## Kinds of characters -/

/-- The code points of the blanks. -/
def blankCodes : List Nat :=
  [9, 10, 11, 12, 13, 0x20, 0x85, 0xA0, 0x1680, 0x2000, 0x2001, 0x2002, 0x2003, 0x2004, 0x2005,
   0x2006, 0x2007, 0x2008, 0x2009, 0x200A, 0x2028, 0x2029, 0x202F, 0x205F, 0x3000]

/-- There are few blanks, so what holds of each of them holds of a blank. -/
theorem of_isBlank {P : Char → Prop} {c : Char} (h : isBlank c = true)
    (hcodes : ∀ n ∈ blankCodes, P (Char.ofNat n)) : P c := by
  have hmem : c.toNat ∈ blankCodes := by
    simp only [isBlank, Bool.or_eq_true, Bool.and_eq_true, decide_eq_true_eq, beq_iff_eq] at h
    simp only [blankCodes, List.mem_cons, List.not_mem_nil, or_false]
    omega
  have hc := hcodes c.toNat hmem
  rw [Char.ofNat_toNat] at hc
  exact hc

/-- No character of an identifier is blank. -/
theorem isWordChar_of_isBlank {c : Char} (h : isBlank c = true) : isWordChar c = false :=
  of_isBlank (P := fun c => isWordChar c = false) h (by decide)

theorem isDecimalDigit_of_isBlank {c : Char} (h : isBlank c = true) : isDecimalDigit c = false :=
  of_isBlank (P := fun c => isDecimalDigit c = false) h (by decide)

theorem isBlank_of_isWordChar {c : Char} (h : isWordChar c = true) : isBlank c = false := by
  rw [Bool.eq_false_iff]
  intro hb
  rw [isWordChar_of_isBlank hb] at h
  cases h

theorem Word.stops_isBlank {cs ds : List Char} (h : Word cs) : Stops isBlank (cs ++ ds) := by
  refine .append h.1 fun c hc => isBlank_of_isWordChar (h.2 c ?_)
  exact List.mem_of_mem_head? hc

theorem Blanks.stops_isWordChar {cs ds : List Char} (h : Blanks cs) (hne : cs ≠ []) :
    Stops isWordChar (cs ++ ds) :=
  .append hne fun c hc => isWordChar_of_isBlank (h c (List.mem_of_mem_head? hc))

/-! ## Trimming -/

theorem trimStart_blanks_append {gap : List Char} (h : Blanks gap) (cs : List Char) :
    trimStart (gap ++ cs) = trimStart cs :=
  List.dropWhile_append_of_pos h

theorem trimStart_of_stops {cs : List Char} (h : Stops isBlank cs) : trimStart cs = cs :=
  (span_eq_iff.2 ⟨rfl, by simp, h⟩ : cs.takeWhile isBlank = [] ∧ cs.dropWhile isBlank = cs).2

theorem stops_trimStart (cs : List Char) : Stops isBlank (trimStart cs) :=
  .dropWhile isBlank cs

theorem trimStart_trimStart (cs : List Char) : trimStart (trimStart cs) = trimStart cs :=
  trimStart_of_stops (stops_trimStart cs)

theorem not_mem_trimStart {c : Char} {cs : List Char} (h : c ∉ cs) : c ∉ trimStart cs := fun hmem =>
  h ((List.dropWhile_sublist isBlank).subset hmem)

theorem trim_trimStart (cs : List Char) : trim (trimStart cs) = trim cs := by
  rw [trim, trim, trimStart_trimStart]

theorem trim_blanks_append {gap : List Char} (h : Blanks gap) (cs : List Char) :
    trim (gap ++ cs) = trim cs := by
  rw [trim, trim, trimStart_blanks_append h]

theorem trimEnd_append_blanks {gap : List Char} (h : Blanks gap) (cs : List Char) :
    trimEnd (cs ++ gap) = trimEnd cs := by
  unfold trimEnd
  rw [List.reverse_append, List.dropWhile_append_of_pos]
  intro c hc
  exact h c (List.mem_reverse.1 hc)

theorem trim_append_blanks {gap : List Char} (h : Blanks gap) (cs : List Char) :
    trim (cs ++ gap) = trim cs := by
  unfold trim
  by_cases hcs : Blanks cs
  · rw [trimStart_blanks_append hcs, show trimStart gap = [] from List.dropWhile_eq_nil_iff.2 h,
      show trimStart cs = [] from List.dropWhile_eq_nil_iff.2 hcs]
  · have hne : ¬ (cs.dropWhile isBlank).isEmpty = true := by
      rw [List.isEmpty_iff, List.dropWhile_eq_nil_iff]
      exact hcs
    have hs : trimStart (cs ++ gap) = trimStart cs ++ gap := by
      rw [trimStart, List.dropWhile_append, if_neg hne]
      rfl
    rw [hs, trimEnd_append_blanks h]

theorem trimStart_append_cons {d : Char} (hd : isBlank d = false) (cs ds : List Char) :
    trimStart (cs ++ d :: ds) = trimStart cs ++ d :: ds := by
  unfold trimStart
  rw [List.dropWhile_append, List.dropWhile_cons_of_neg (by simp [hd])]
  split
  · next hnil => rw [List.isEmpty_iff.1 hnil, List.nil_append]
  · rfl

/-- A character that is no blank keeps the blanks on its two sides apart. -/
theorem trim_append_cons {d : Char} (hd : isBlank d = false) (cs ds : List Char) :
    trim (cs ++ d :: ds) = trimStart cs ++ d :: trimEnd ds := by
  have hend : (trimStart cs ++ d :: ds).reverse = ds.reverse ++ d :: (trimStart cs).reverse := by simp
  rw [trim, trimStart_append_cons hd, trimEnd, hend]
  show (trimStart (ds.reverse ++ d :: (trimStart cs).reverse)).reverse = _
  rw [trimStart_append_cons hd, List.reverse_append, List.reverse_cons, List.reverse_reverse,
    List.append_assoc, List.singleton_append]
  rfl

theorem trim_eq_self {cs : List Char} (hs : Stops isBlank cs)
    (he : ∀ c, cs.getLast? = some c → isBlank c = false) : trim cs = cs := by
  rw [trim, trimStart_of_stops hs]
  have hr : Stops isBlank cs.reverse := fun c hc => he c (by rw [← List.head?_reverse]; exact hc)
  show (trimStart cs.reverse).reverse = cs
  rw [trimStart_of_stops hr, List.reverse_reverse]

/-- **Trimming takes blanks away, and only from the ends.** -/
theorem exists_trim (cs : List Char) :
    ∃ gap gap', Blanks gap ∧ Blanks gap' ∧ cs = gap ++ trim cs ++ gap' := by
  refine ⟨cs.takeWhile isBlank, (trimStart cs).rtakeWhile isBlank,
    fun c hc => List.mem_takeWhile_imp hc, fun c hc => List.mem_rtakeWhile_imp hc, ?_⟩
  have hend : trim cs ++ (trimStart cs).rtakeWhile isBlank = trimStart cs :=
    List.rdropWhile_append_rtakeWhile
  rw [List.append_assoc, hend]
  exact List.takeWhile_append_dropWhile.symm

theorem trim_sublist (cs : List Char) : (trim cs).Sublist cs := by
  obtain ⟨gap, gap', -, -, h⟩ := exists_trim cs
  conv => rhs; rw [h]
  exact (List.sublist_append_right gap (trim cs)).trans (List.sublist_append_left _ gap')

theorem getLast?_trim {cs : List Char} {c : Char} (h : (trim cs).getLast? = some c) :
    isBlank c = false := by
  have hne : (trimStart cs).rdropWhile isBlank ≠ [] := by
    intro hnil
    rw [show trim cs = (trimStart cs).rdropWhile isBlank from rfl, hnil] at h
    cases h
  have hlast := List.rdropWhile_last_not isBlank (trimStart cs) hne
  have hc : (trim cs).getLast? = some ((trimStart cs).rdropWhile isBlank |>.getLast hne) :=
    List.getLast?_eq_some_getLast hne
  rw [hc] at h
  simp only [Option.some.injEq] at h
  rw [← h]
  simpa using hlast

theorem stops_trim (cs : List Char) : Stops isBlank (trim cs) := by
  intro c hc
  have hpre : trim cs <+: trimStart cs := List.rdropWhile_prefix isBlank _
  obtain ⟨rest, hrest⟩ := hpre
  have hne : trim cs ≠ [] := by
    intro h
    rw [h] at hc
    cases hc
  refine Stops.dropWhile isBlank cs c ?_
  show (trimStart cs).head? = some c
  rw [← hrest, List.head?_append_of_ne_nil _ hne]
  exact hc

theorem trim_trim (cs : List Char) : trim (trim cs) = trim cs :=
  trim_eq_self (stops_trim cs) fun _ => getLast?_trim

/-- The trimmed text counts as absent when it is empty. -/
theorem nonBlank?_eq_ite (cs : List Char) :
    nonBlank? cs = if trim cs = [] then none else some (String.ofList (trim cs)) := by
  unfold nonBlank?
  split
  · next h => rw [if_pos h]
  · next h => rw [if_neg h]

theorem nonBlank?_trimStart (cs : List Char) : nonBlank? (trimStart cs) = nonBlank? cs := by
  rw [nonBlank?_eq_ite, nonBlank?_eq_ite, trim_trimStart]

theorem nonBlank?_eq_some_iff {cs : List Char} {t : String} :
    nonBlank? cs = some t ↔ trim cs ≠ [] ∧ t.toList = trim cs := by
  rw [nonBlank?_eq_ite]
  by_cases h : trim cs = []
  · simp [h]
  · rw [if_neg h, Option.some.injEq]
    constructor
    · intro ht
      subst ht
      exact ⟨h, String.toList_ofList⟩
    · intro ht
      obtain ⟨-, ht⟩ := ht
      rw [← ht, String.ofList_toList]

end MessageSchema.Text
