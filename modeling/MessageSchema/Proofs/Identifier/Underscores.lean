/-
Where the snake-case form of a name has its underscores, for names of ASCII
letters and digits. Each character is written in small letters, with an
underscore before it or without (`snakeChars_cons`), and whether it gets one
depends on the run of capitals and digits that it stands in (`StartsWord`).

A run stays in one word up to its last character; that one starts a new word
if a small letter follows it, be it a capital or a digit.
-/
import MessageSchema.Identifier
import MessageSchema.Proofs.Text.Ascii

namespace MessageSchema.Identifier

open Text

/-! ## One character -/

/-- Whether a character stands in a run, given whether the one before does. -/
def standsInRun (inRun : Bool) (c : Char) : Bool :=
  c.isUpper || (inRun && c.isDigit)

/-- Whether a character gets an underscore. -/
def isSeparated (first inRun : Bool) (c : Char) (after : List Char) : Bool :=
  standsInRun inRun c && !first && (!inRun || endsRun after)

/-- **Each character is written small, some behind an underscore.** -/
theorem snakeChars_cons {c : Char} (hc : c.isAlphanum = true) (first inRun : Bool) (cs : List Char) :
    snakeChars first inRun (c :: cs) =
      (if isSeparated first inRun c cs then ['_'] else []) ++
        c.toLower :: snakeChars false (standsInRun inRun c) cs := by
  rw [snakeChars, isUppercase_ascii hc, isNumeric_ascii hc, lower_ascii hc, ← standsInRun]
  by_cases hrun : standsInRun inRun c = true
  · simp [isSeparated, hrun]
  · have hupper : c.isUpper = false := by
      simp only [standsInRun, Bool.or_eq_true, not_or, Bool.not_eq_true] at hrun
      exact hrun.1
    simp [isSeparated, hrun, toLower_of_not_isUpper hupper]

/-- A capital outside of runs starts a word, and a run. -/
theorem snakeChars_capital {c : Char} (hc : c.isUpper = true) (first : Bool) (cs : List Char) :
    snakeChars first false (c :: cs) =
      (if first then [] else ['_']) ++ c.toLower :: snakeChars false true cs := by
  rw [snakeChars_cons (isAlphanum_of_isUpper hc), isSeparated, standsInRun, hc]
  cases first <;> rfl

/-- A small letter ends a run. -/
theorem snakeChars_small {c : Char} (hc : c.isLower = true) (first inRun : Bool) (cs : List Char) :
    snakeChars first inRun (c :: cs) = c :: snakeChars false false cs := by
  have hclass := isLower_ascii (isAlphanum_of_isLower hc)
  rw [hc, eq_comm, Bool.and_eq_true, Bool.not_eq_true', Bool.not_eq_true'] at hclass
  obtain ⟨hupper, hdigit⟩ := hclass
  have hrun : standsInRun inRun c = false := by
    rw [standsInRun, hupper, hdigit, Bool.and_false, Bool.or_false]
  rw [snakeChars_cons (isAlphanum_of_isLower hc), isSeparated, hrun, toLower_of_not_isUpper hupper]
  rfl

/-! ## Runs -/

/-- A run: a capital, and capitals and digits directly behind it. -/
inductive Run : List Char → Prop where
  | intro {capital : Char} {rest : List Char} (upper : capital.isUpper = true)
      (goesOn : ∀ c ∈ rest, c.isUpper = true ∨ c.isDigit = true) : Run (capital :: rest)

/-- The text ends in a run. -/
def EndsInRun (cs : List Char) : Prop := ∃ run, Run run ∧ run <:+ cs

/-- Where a word starts inside a name: at a capital that begins a run, and at
the last character of a run if a small letter follows it. -/
inductive StartsWord (before : List Char) (c : Char) (after : List Char) : Prop where
  | firstOfRun (upper : c.isUpper = true) (inside : before ≠ []) (alone : ¬ EndsInRun before)
  | lastOfRun (goesOn : c.isUpper = true ∨ c.isDigit = true) (run : EndsInRun before)
      (small : ∃ next rest, after = next :: rest ∧ next.isLower = true)

theorem run_concat_iff {run : List Char} {c : Char} :
    Run (run ++ [c]) ↔
      run = [] ∧ c.isUpper = true ∨ Run run ∧ (c.isUpper = true ∨ c.isDigit = true) := by
  constructor
  · intro h
    cases run with
    | nil =>
      cases h with
      | intro upper goesOn => exact .inl ⟨rfl, upper⟩
    | cons capital rest =>
      cases h with
      | intro upper goesOn =>
        exact .inr ⟨.intro upper fun d hd => goesOn d (List.mem_append_left _ hd), goesOn c (by simp)⟩
  · intro h
    rcases h with ⟨rfl, upper⟩ | ⟨⟨upper, goesOn⟩, hc⟩
    · exact .intro upper (List.forall_mem_nil _)
    · refine .intro upper fun d hd => ?_
      rcases List.mem_append.1 hd with hd | hd
      · exact goesOn d hd
      · rw [List.mem_singleton.1 hd]
        exact hc

theorem not_endsInRun_nil : ¬ EndsInRun [] := by
  intro h
  obtain ⟨run, hrun, hsuffix⟩ := h
  rw [List.suffix_nil.1 hsuffix] at hrun
  cases hrun

/-- A run is begun by a capital and goes on with digits. -/
theorem endsInRun_concat_iff {cs : List Char} {c : Char} :
    EndsInRun (cs ++ [c]) ↔ c.isUpper = true ∨ EndsInRun cs ∧ c.isDigit = true := by
  constructor
  · intro h
    obtain ⟨run, hrun, hsuffix⟩ := h
    rcases List.suffix_concat_iff.1 hsuffix with rfl | ⟨start, rfl, hstart⟩
    · cases hrun
    · rcases run_concat_iff.1 hrun with ⟨-, upper⟩ | ⟨hrun, upper | digit⟩
      · exact .inl upper
      · exact .inl upper
      · exact .inr ⟨⟨start, hrun, hstart⟩, digit⟩
  · intro h
    rcases h with upper | ⟨⟨run, hrun, hsuffix⟩, digit⟩
    · exact ⟨[c], .intro upper (List.forall_mem_nil _), List.suffix_append cs [c]⟩
    · exact ⟨run ++ [c], run_concat_iff.2 (.inr ⟨hrun, .inr digit⟩),
        List.suffix_concat_iff.2 (.inr ⟨run, rfl, hsuffix⟩)⟩

theorem standsInRun_iff {past : List Char} {inRun : Bool} (hrun : inRun = true ↔ EndsInRun past) (c : Char) :
    standsInRun inRun c = true ↔ EndsInRun (past ++ [c]) := by
  rw [endsInRun_concat_iff, ← hrun, standsInRun, Bool.or_eq_true, Bool.and_eq_true]

theorem endsRun_iff {cs : List Char} (hcs : Alphanumeric cs) :
    endsRun cs = true ↔ ∃ next rest, cs = next :: rest ∧ next.isLower = true := by
  cases cs with
  | nil => simp [endsRun]
  | cons c cs =>
    have hc := hcs c List.mem_cons_self
    rw [endsRun, continuesRun, isUppercase_ascii hc, isNumeric_ascii hc, Bool.not_or, ← isLower_ascii hc]
    simp

theorem isSeparated_iff {past : List Char} {inRun : Bool} (hrun : inRun = true ↔ EndsInRun past)
    {c : Char} {after : List Char} (hafter : Alphanumeric after) :
    isSeparated past.isEmpty inRun c after = true ↔ StartsWord past c after := by
  simp only [isSeparated, standsInRun, Bool.and_eq_true, Bool.or_eq_true, Bool.not_eq_true',
    List.isEmpty_eq_false_iff, endsRun_iff hafter]
  constructor
  · intro h
    obtain ⟨⟨hc, hpast⟩, hends⟩ := h
    cases hin : inRun with
    | false =>
      simp only [hin, Bool.false_eq_true, false_and, or_false] at hc hrun
      exact .firstOfRun hc hpast hrun.2
    | true =>
      simp only [hin, Bool.true_eq_false, false_or, true_and] at hc hends
      exact .lastOfRun hc (hrun.1 hin) hends
  · intro h
    cases h with
    | firstOfRun upper inside alone =>
      exact ⟨⟨.inl upper, inside⟩, .inl (Bool.eq_false_iff.2 fun h => alone (hrun.1 h))⟩
    | lastOfRun goesOn run small =>
      refine ⟨⟨goesOn.imp_right fun digit => ⟨hrun.2 run, digit⟩, ?_⟩, .inr small⟩
      rintro rfl
      exact not_endsInRun_nil run

/-! ## Underscores and their places -/

/-- The places of the underscores, each told by how many other characters
stand before it. -/
def separators : List Char → List Nat
  | [] => []
  | c :: cs => if c = '_' then 0 :: separators cs else (separators cs).map (· + 1)

theorem separators_of_ne {c : Char} (hc : c ≠ '_') (cs : List Char) :
    separators (c :: cs) = (separators cs).map (· + 1) :=
  if_neg hc

theorem zero_mem_separators {separated : Bool} {c : Char} (hc : c ≠ '_') (cs : List Char) :
    0 ∈ separators ((if separated then ['_'] else []) ++ c :: cs) ↔ separated = true := by
  cases separated with
  | false => simp [separators_of_ne hc]
  | true => simp [separators]

theorem succ_mem_separators {separated : Bool} {c : Char} (hc : c ≠ '_') (cs : List Char) {k : Nat} :
    k + 1 ∈ separators ((if separated then ['_'] else []) ++ c :: cs) ↔ k ∈ separators cs := by
  cases separated with
  | false => simp [separators_of_ne hc]
  | true => simp [separators, hc]

theorem ne_underscore_of_small {c : Char} (h : c.isLower = true ∨ c.isDigit = true) : c ≠ '_' := by
  rintro rfl
  revert h
  decide

theorem toLower_ne_underscore {c : Char} (hc : c.isAlphanum = true) : c.toLower ≠ '_' :=
  ne_underscore_of_small (toLower_ascii hc)

/-- **A name gets its underscores where words start**, whatever text stands
before it. -/
theorem mem_separators_snakeChars (past : List Char) {cs : List Char} {inRun : Bool}
    (hrun : inRun = true ↔ EndsInRun past) (hcs : Alphanumeric cs) {k : Nat} :
    k ∈ separators (snakeChars past.isEmpty inRun cs) ↔
      ∃ before c after, cs = before ++ c :: after ∧ before.length = k ∧
        StartsWord (past ++ before) c after := by
  induction cs generalizing past inRun k with
  | nil => simp [snakeChars, separators]
  | cons c cs ih =>
    obtain ⟨hc, hcs⟩ := List.forall_mem_cons.1 hcs
    rw [snakeChars_cons hc]
    cases k with
    | zero =>
      rw [zero_mem_separators (toLower_ne_underscore hc), isSeparated_iff hrun hcs]
      constructor
      · intro h
        exact ⟨[], c, cs, rfl, rfl, by rwa [List.append_nil]⟩
      · intro h
        obtain ⟨before, d, after, heq, hlength, hstarts⟩ := h
        rw [List.length_eq_zero_iff.1 hlength, List.nil_append] at heq
        rw [List.length_eq_zero_iff.1 hlength, List.append_nil] at hstarts
        cases heq
        exact hstarts
    | succ k =>
      have hrest := ih (past ++ [c]) (standsInRun_iff hrun c) hcs (k := k)
      rw [show (past ++ [c]).isEmpty = false by simp] at hrest
      rw [succ_mem_separators (toLower_ne_underscore hc), hrest]
      constructor
      · intro h
        obtain ⟨before, d, after, rfl, rfl, hstarts⟩ := h
        exact ⟨c :: before, d, after, rfl, rfl, by rwa [← List.append_cons] at hstarts⟩
      · intro h
        obtain ⟨before, d, after, heq, hlength, hstarts⟩ := h
        cases before with
        | nil => cases hlength
        | cons e before =>
          cases heq
          exact ⟨before, d, after, rfl, Nat.succ.inj hlength, by rwa [← List.append_cons]⟩

@[simp] theorem toList_toSnake (name : String) : (toSnake name).toList = snakeChars true false name.toList :=
  String.toList_ofList

theorem mem_separators_toSnake {name : String} (hname : Alphanumeric name.toList) {k : Nat} :
    k ∈ separators (toSnake name).toList ↔
      ∃ before c after, name.toList = before ++ c :: after ∧ before.length = k ∧ StartsWord before c after := by
  rw [toList_toSnake]
  exact mem_separators_snakeChars [] (iff_of_false Bool.false_ne_true not_endsInRun_nil) hname

/-- A place inside a name starts a word or not, whatever else there is. -/
theorem length_mem_separators_toSnake {name : String} (hname : Alphanumeric name.toList)
    {before after : List Char} {c : Char} (hcut : name.toList = before ++ c :: after) :
    before.length ∈ separators (toSnake name).toList ↔ StartsWord before c after := by
  rw [mem_separators_toSnake hname]
  constructor
  · intro h
    obtain ⟨before', c', after', heq, hlength, hstarts⟩ := h
    rw [hcut] at heq
    obtain ⟨rfl, htail⟩ := List.append_inj heq hlength.symm
    cases htail
    exact hstarts
  · intro h
    exact ⟨before, c, after, hcut, rfl, h⟩

/-- Inside a run a word can only start at its last character, before a small
letter. -/
theorem startsWord_inside_run {before run rest after : List Char} {c : Char} (hne : run ≠ [])
    (hrun : Run (run ++ c :: rest)) :
    StartsWord (before ++ run) c (rest ++ after) ↔
      rest = [] ∧ ∃ next others, after = next :: others ∧ next.isLower = true := by
  obtain ⟨capital, run, rfl⟩ := List.exists_cons_of_ne_nil hne
  cases hrun with
  | intro upper goesOn =>
    have hends : EndsInRun (before ++ capital :: run) :=
      ⟨capital :: run, .intro upper fun d hd => goesOn d (List.mem_append_left _ hd),
        List.suffix_append before _⟩
    constructor
    · intro h
      cases h with
      | firstOfRun _ _ alone => exact absurd hends alone
      | lastOfRun _ _ small =>
        cases rest with
        | nil => exact ⟨rfl, small⟩
        | cons d rest =>
          obtain ⟨next, others, heq, hsmall⟩ := small
          cases heq
          have hd := goesOn d (by simp)
          rw [isLower_ascii (hd.elim isAlphanum_of_isUpper isAlphanum_of_isDigit)] at hsmall
          rcases hd with hd | hd <;> simp [hd] at hsmall
    · intro h
      obtain ⟨rfl, small⟩ := h
      exact .lastOfRun (goesOn c (by simp)) hends small

/-- **Where the underscores of a name are.** There is one where a word starts,
and nowhere else; in a run of capitals and digits there is none, but before
its last character if a small letter follows the run. -/
theorem separators_toSnake_iff {name : String} (hname : Alphanumeric name.toList) :
    (∀ k, k ∈ separators (toSnake name).toList ↔
      ∃ before c after, name.toList = before ++ c :: after ∧ before.length = k ∧
        StartsWord before c after) ∧
    ∀ before run c rest after, run ≠ [] → Run (run ++ c :: rest) →
      name.toList = before ++ (run ++ c :: rest) ++ after →
      ((before ++ run).length ∈ separators (toSnake name).toList ↔
        rest = [] ∧ ∃ next others, after = next :: others ∧ next.isLower = true) := by
  refine ⟨fun k => mem_separators_toSnake hname, ?_⟩
  intro before run c rest after hne hrun hcut
  have hcut' : name.toList = (before ++ run) ++ c :: (rest ++ after) := by
    rw [hcut]
    simp
  rw [length_mem_separators_toSnake hname hcut', startsWord_inside_run hne hrun]

/-- A digit before a capital, and the same digit before a small letter. -/
theorem separators_toSnake_iff_digit :
    2 ∉ separators (toSnake "TF2Error").toList ∧ 2 ∈ separators (toSnake "TF2x").toList := by
  have hcapital : Alphanumeric "TF2Error".toList := by decide
  have hsmall : Alphanumeric "TF2x".toList := by decide
  obtain ⟨-, hinside⟩ := separators_toSnake_iff hcapital
  obtain ⟨-, hinside'⟩ := separators_toSnake_iff hsmall
  have hrun : Run ['T', 'F', '2'] := .intro (by decide) (by simp)
  have hlonger : Run ['T', 'F', '2', 'E'] := .intro (by decide) (by simp)
  constructor
  · intro h
    have hlast := (hinside [] ['T', 'F'] '2' ['E'] "rror".toList (by simp) hlonger rfl).1 h
    cases hlast.1
  · exact (hinside' [] ['T', 'F'] '2' [] ['x'] (by simp) hrun rfl).2 ⟨rfl, 'x', [], rfl, rfl⟩

/-- A run of capitals and a digit before a small letter: the digit starts a
word, and the underscore before it is before no capital. -/
theorem separator_before_digit :
    Alphanumeric "TF2x".toList ∧ toSnake "TF2x" = "tf_2x" ∧
      ¬ ∀ k ∈ separators (toSnake "TF2x").toList, ∃ c, "TF2x".toList[k]? = some c ∧ c.isUpper = true := by
  refine ⟨by decide, by decide, fun h => ?_⟩
  obtain ⟨c, hc, hupper⟩ := h 2 (by decide)
  rw [show c = '2' from (Option.some.inj hc).symm] at hupper
  cases hupper

end MessageSchema.Identifier
