/-
How the canonical literal of a value is spelled. The value loses one single
quote at each end (`unwrap`), then every double quote in it is escaped and
every single quote is not (`respell`). Stretch by stretch this only changes
the number of backslashes before a quote (`respell_stretch`): at least one
stays or comes before a double quote, and one goes before a single quote. All
the rest follows from that: what respelling keeps, and which texts it leaves
alone (`respell_eq_self_iff`).
-/
import MessageSchema.Proofs.DefaultValue.Backslashes
import Mathlib.Data.List.Basic

namespace MessageSchema.DefaultValue

/-! ## Quotes at the ends -/

/-- The text without one `q` at the start and one at the end. -/
def unwrap (q : Char) (cs : List Char) : List Char :=
  dropTrailing q (dropLeading q cs)

section

variable {q : Char} {cs : List Char}

theorem dropLeading_cases (q : Char) (cs : List Char) :
    dropLeading q cs = cs ∧ cs.head? ≠ some q ∨ q :: dropLeading q cs = cs := by
  cases cs with
  | nil => exact .inl ⟨rfl, nofun⟩
  | cons c cs =>
    by_cases hc : c = q
    · exact .inr (by rw [dropLeading, if_pos hc, hc])
    · exact .inl ⟨by rw [dropLeading, if_neg hc], by simpa using hc⟩

theorem dropTrailing_cases (q : Char) (cs : List Char) :
    dropTrailing q cs = cs ∧ cs.getLast? ≠ some q ∨ dropTrailing q cs ++ [q] = cs := by
  by_cases hq : cs.getLast? = some q
  · obtain ⟨ds, rfl⟩ := List.getLast?_eq_some_iff.1 hq
    exact .inr (by simp [dropTrailing])
  · exact .inl ⟨if_neg hq, hq⟩

theorem unwrap_enclosed (q : Char) (cs : List Char) : unwrap q (q :: (cs ++ [q])) = cs := by
  simp [unwrap, dropLeading, dropTrailing]

/-- What is dropped is one quote or none at each end; it is none if no quote
stands there. -/
theorem unwrap_cases (q : Char) (cs : List Char) :
    unwrap q cs = cs ∧ cs.head? ≠ some q ∧ cs.getLast? ≠ some q ∨
      ∃ i j, 0 < i + j ∧ cs = List.replicate i q ++ unwrap q cs ++ List.replicate j q := by
  unfold unwrap
  rcases dropLeading_cases q cs with ⟨hleading, hhead⟩ | hleading
  · rw [hleading]
    rcases dropTrailing_cases q cs with ⟨htrailing, hlast⟩ | htrailing
    · exact .inl ⟨htrailing, hhead, hlast⟩
    · exact .inr ⟨0, 1, by decide, by simpa using htrailing.symm⟩
  · rcases dropTrailing_cases q (dropLeading q cs) with ⟨htrailing, -⟩ | htrailing
    · exact .inr ⟨1, 0, by decide, by simpa [htrailing] using hleading.symm⟩
    · exact .inr ⟨1, 1, by decide, by simpa [htrailing] using hleading.symm⟩

theorem count_unwrap_of_ne {c : Char} (hc : c ≠ q) (cs : List Char) :
    (unwrap q cs).count c = cs.count c := by
  rcases unwrap_cases q cs with ⟨h, -⟩ | ⟨i, j, -, h⟩
  · rw [h]
  · have hcount := congrArg (List.count c) h
    simpa [List.count_replicate, hc.symm] using hcount.symm

/-- A quote that is dropped is missing afterwards. -/
theorem ends_of_count_unwrap (h : (unwrap q cs).count q = cs.count q) :
    unwrap q cs = cs ∧ cs.head? ≠ some q ∧ cs.getLast? ≠ some q := by
  rcases unwrap_cases q cs with hnone | ⟨i, j, hij, hcs⟩
  · exact hnone
  · have hcount := congrArg (List.count q) hcs
    simp only [List.count_append, List.count_replicate_self] at hcount
    omega

theorem unwrap_eq_self (hhead : cs.head? ≠ some q) (hlast : cs.getLast? ≠ some q) :
    unwrap q cs = cs := by
  rw [unwrap]
  rcases dropLeading_cases q cs with ⟨hleading, -⟩ | hleading
  · rw [hleading]
    exact if_neg hlast
  · rw [← hleading] at hhead
    exact absurd rfl hhead

end

/-! ## Quotes inside -/

/-- The text with its double quotes escaped and its single quotes not. -/
def respell (cs : List Char) : List Char :=
  unescapeSingle (escapeDouble cs)

/-- How many of `n` backslashes before a character are there after respelling. -/
def kept (n : Nat) (c : Char) : Nat :=
  if c = '"' then max n 1 else if c = '\'' then n - 1 else n

@[simp] theorem kept_double (n : Nat) : kept n '"' = max n 1 := rfl

@[simp] theorem kept_single (n : Nat) : kept n '\'' = n - 1 := rfl

theorem escapeDouble_cons {c : Char} (hc : c ≠ '"') {cs : List Char} (hcs : cs.head? ≠ some '"') :
    escapeDouble (c :: cs) = c :: escapeDouble cs := by
  rw [escapeDouble, if_neg hc]
  rintro ds rfl rfl
  exact hcs rfl

theorem unescapeSingle_cons {c : Char} {cs : List Char} (h : c ≠ '\\' ∨ cs.head? ≠ some '\'') :
    unescapeSingle (c :: cs) = c :: unescapeSingle cs := by
  rw [unescapeSingle]
  rintro ds rfl rfl
  simp at h

theorem escapeDouble_stretch {c : Char} (hc : c ≠ '\\') (n : Nat) (cs : List Char) :
    escapeDouble (List.replicate n '\\' ++ c :: cs) =
      List.replicate (if c = '"' then max n 1 else n) '\\' ++ c :: escapeDouble cs := by
  -- only the last backslash of a stretch, or its lack, is seen together with `c`
  induction n using Nat.twoStepInduction with
  | zero =>
    by_cases hq : c = '"'
    · simp [hq, escapeDouble]
    · simp [hq, hc, escapeDouble]
  | one =>
    by_cases hq : c = '"'
    · simp [hq, escapeDouble]
    · simp [hq, hc, escapeDouble]
  | more n _ ih =>
    rw [List.replicate_succ, List.cons_append, escapeDouble_cons (by decide) (by simp [List.replicate_succ]),
      ih]
    split
    · simp [List.replicate_succ]
    · rfl

theorem unescapeSingle_stretch {c : Char} (hc : c ≠ '\\') (n : Nat) (cs : List Char) :
    unescapeSingle (List.replicate n '\\' ++ c :: cs) =
      List.replicate (if c = '\'' then n - 1 else n) '\\' ++ c :: unescapeSingle cs := by
  induction n using Nat.twoStepInduction with
  | zero =>
    simp [hc, unescapeSingle]
  | one =>
    by_cases hq : c = '\''
    · simp [hq, unescapeSingle]
    · simp [hq, hc, unescapeSingle]
  | more n _ ih =>
    rw [List.replicate_succ, List.cons_append, unescapeSingle_cons (.inr (by simp [List.replicate_succ])),
      ih]
    split
    · simp [List.replicate_succ]
    · rfl

theorem respell_stretch {c : Char} (hc : c ≠ '\\') (n : Nat) (cs : List Char) :
    respell (List.replicate n '\\' ++ c :: cs) =
      List.replicate (kept n c) '\\' ++ c :: respell cs := by
  rw [respell, escapeDouble_stretch hc, unescapeSingle_stretch hc, kept]
  by_cases hd : c = '"'
  · simp [hd, respell]
  · simp [hd, respell]

theorem escapeDouble_replicate (n : Nat) :
    escapeDouble (List.replicate n '\\') = List.replicate n '\\' := by
  induction n with
  | zero => rfl
  | succ n ih =>
    rw [List.replicate_succ, escapeDouble_cons (by decide) (by simp [List.head?_replicate]), ih]

theorem unescapeSingle_replicate (n : Nat) :
    unescapeSingle (List.replicate n '\\') = List.replicate n '\\' := by
  induction n with
  | zero => rfl
  | succ n ih =>
    rw [List.replicate_succ, unescapeSingle_cons (.inr (by simp [List.head?_replicate])), ih]

theorem respell_replicate (n : Nat) :
    respell (List.replicate n '\\') = List.replicate n '\\' := by
  rw [respell, escapeDouble_replicate, unescapeSingle_replicate]

/-! ## What respelling keeps -/

section

variable {q : Char} {p : Nat → Prop}

theorem backslashesAtEnd_respell (cs : List Char) :
    backslashesAtEnd (respell cs) = backslashesAtEnd cs := by
  induction cs using stretch_induction with
  | ending n => rw [respell_replicate]
  | stretch n c cs hc ih =>
    rw [respell_stretch hc, backslashesAtEnd_append_cons hc, backslashesAtEnd_append_cons hc, ih]

theorem eachBehind_respell (hq : q ≠ '\\') {cs : List Char} :
    EachBehind q p (respell cs) ↔ EachBehind q (fun n => p (kept n q)) cs := by
  induction cs using stretch_induction with
  | ending n =>
    rw [respell_replicate]
    exact iff_of_true (eachBehind_replicate hq n) (eachBehind_replicate hq n)
  | stretch n c cs hc ih =>
    rw [respell_stretch hc, eachBehind_stretch hq hc, eachBehind_stretch hq hc, ih]
    refine and_congr_left' (forall_congr' fun h => ?_)
    rw [h]

theorem count_respell {c : Char} (hc : c ≠ '\\') (cs : List Char) :
    (respell cs).count c = cs.count c := by
  induction cs using stretch_induction with
  | ending n => rw [respell_replicate]
  | stretch n d cs hd ih =>
    have hnone : ∀ m, (List.replicate m '\\').count c = 0 := fun m => by
      rw [List.count_replicate, beq_false_of_ne hc.symm]
      rfl
    rw [respell_stretch hd, List.count_append, List.count_append, hnone, hnone, List.count_cons,
      List.count_cons, ih]

theorem getLast?_respell (cs : List Char) : (respell cs).getLast? = cs.getLast? := by
  induction cs using stretch_induction with
  | ending n => rw [respell_replicate]
  | stretch n c cs hc ih =>
    rw [respell_stretch hc, List.getLast?_append_cons, List.getLast?_append_cons, List.getLast?_cons,
      List.getLast?_cons, ih]

end

/-! ## The first stretch -/

section

variable {c q : Char} {n : Nat} {cs : List Char}

theorem head?_stretch (hq : q ≠ '\\') :
    (List.replicate n '\\' ++ c :: cs).head? = some q ↔ n = 0 ∧ c = q := by
  cases n with
  | zero => simp
  | succ n => simp [List.replicate_succ, hq.symm]

theorem escaped_prefix_stretch (hq : q ≠ '\\') (hc : c ≠ '\\') :
    ['\\', q] <+: List.replicate n '\\' ++ c :: cs ↔ n = 1 ∧ c = q := by
  match n with
  | 0 => simp [hc.symm]
  | 1 => simp [eq_comm]
  | n + 2 => simp [List.replicate_succ, hq]

end

/-- A single quote stands in front afterwards if one did before, escaped or not. -/
theorem head?_respell (cs : List Char) :
    (respell cs).head? = some '\'' ↔ cs.head? = some '\'' ∨ ['\\', '\''] <+: cs := by
  induction cs using stretch_induction with
  | ending n =>
    rw [respell_replicate]
    refine iff_of_false (by simp [List.head?_replicate]) ?_
    rintro (h | h)
    · simp [List.head?_replicate] at h
    · exact absurd (List.eq_of_mem_replicate (h.subset (by simp : '\'' ∈ _))) (by decide)
  | stretch n c cs hc _ =>
    rw [respell_stretch hc, head?_stretch (by decide), head?_stretch (by decide),
      escaped_prefix_stretch (by decide) hc, ← or_and_right]
    refine and_congr_left fun hs => ?_
    rw [hs, kept_single]
    omega

/-- Two texts are alike if they start with alike stretches and go on alike. -/
theorem stretch_inj {c : Char} (hc : c ≠ '\\') {m n : Nat} {cs ds : List Char} :
    List.replicate m '\\' ++ c :: cs = List.replicate n '\\' ++ c :: ds ↔ m = n ∧ cs = ds := by
  refine ⟨fun h => ?_, fun h => by rw [h.1, h.2]⟩
  induction m generalizing n with
  | zero =>
    cases n with
    | zero => simpa using h
    | succ n =>
      rw [List.replicate_succ] at h
      exact absurd (List.cons.inj h).1 hc
  | succ m ih =>
    cases n with
    | zero =>
      rw [List.replicate_succ] at h
      exact absurd (List.cons.inj h).1.symm hc
    | succ n =>
      rw [List.replicate_succ, List.replicate_succ] at h
      obtain ⟨rfl, rfl⟩ := ih (List.cons.inj h).2
      exact ⟨rfl, rfl⟩

theorem kept_eq_self_iff {n : Nat} {c : Char} :
    kept n c = n ↔ (c = '"' → 1 ≤ n) ∧ (c = '\'' → n = 0) := by
  by_cases hd : c = '"'
  · subst hd
    simp only [kept_double, Char.reduceEq, forall_const, false_implies, and_true]
    omega
  · by_cases hs : c = '\''
    · subst hs
      simp only [kept_single, Char.reduceEq, forall_const, false_implies, true_and]
      omega
    · simp [kept, hd, hs]

/-- **Respelling leaves a text alone** if its double quotes are escaped and its
single quotes are not. -/
theorem respell_eq_self_iff {cs : List Char} :
    respell cs = cs ↔ EachBehind '"' (1 ≤ ·) cs ∧ EachBehind '\'' (· = 0) cs := by
  induction cs using stretch_induction with
  | ending n =>
    rw [respell_replicate]
    exact iff_of_true rfl ⟨eachBehind_replicate (by decide) n, eachBehind_replicate (by decide) n⟩
  | stretch n c cs hc ih =>
    rw [respell_stretch hc, stretch_inj hc, ih, kept_eq_self_iff, eachBehind_stretch (by decide) hc,
      eachBehind_stretch (by decide) hc, and_and_and_comm]

end MessageSchema.DefaultValue
