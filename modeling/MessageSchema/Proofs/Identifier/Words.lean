/-
Names as sequences of words. A word of a snake-case name has two small letters
at least, and digits after them; with its first letter put into capitals it is
a word of a camel-case name. Joining the words by underscores and joining them
capitalized are two spellings of one name, and the two conversions take each
spelling to the other, for any number of words (`words_roundTrip`).
-/
import MessageSchema.Proofs.Identifier.SnakeCase

namespace MessageSchema.Identifier

open Text

/-- A word in small letters: two letters at least, then digits. -/
inductive SnakeWord : String → Prop where
  | intro {letters digits : List Char} (long : 2 ≤ letters.length)
      (small : letters.all Char.isLower = true) (number : digits.all Char.isDigit = true) :
      SnakeWord (String.ofList (letters ++ digits))

/-- A word with a capital: a capital, then small letters, then digits. -/
inductive CamelWord : String → Prop where
  | intro {capital : Char} {letters digits : List Char} (upper : capital.isUpper = true)
      (long : letters ≠ []) (small : letters.all Char.isLower = true)
      (number : digits.all Char.isDigit = true) :
      CamelWord (String.ofList (capital :: (letters ++ digits)))

/-- The characters of a word with the first one put into capitals. -/
def capitalizedChars : List Char → List Char
  | [] => []
  | c :: cs => c.toUpper :: cs

/-- The word with its first letter put into capitals. -/
def capitalized (word : String) : String :=
  String.ofList (capitalizedChars word.toList)

@[simp] theorem toList_capitalized (word : String) :
    (capitalized word).toList = capitalizedChars word.toList :=
  String.toList_ofList

section

variable {word : String} {rest : List Char}

/-! ## One word -/

theorem SnakeWord.camelWord (h : SnakeWord word) : CamelWord (capitalized word) := by
  cases h with
  | @intro letters digits long small number =>
    match letters, long with
    | a :: b :: letters, _ =>
      rw [List.all_cons, Bool.and_eq_true] at small
      rw [capitalized, String.toList_ofList]
      exact .intro (isUpper_toUpper small.1) (by simp) small.2 number

/-- What the conversions see of a word. -/
theorem SnakeWord.chars (h : SnakeWord word) :
    ∃ a b cs, word.toList = a :: b :: cs ∧ a.isLower = true ∧ b.isLower = true ∧
      ∀ c ∈ cs, c.isLower = true ∨ c.isDigit = true := by
  cases h with
  | @intro letters digits long small number =>
    match letters, long with
    | a :: b :: letters, _ =>
      simp only [List.all_cons, Bool.and_eq_true, List.all_eq_true] at small number
      obtain ⟨ha, hb, hletters⟩ := small
      refine ⟨a, b, letters ++ digits, String.toList_ofList, ha, hb, fun c hc => ?_⟩
      exact (List.mem_append.1 hc).imp (hletters c) (number c)

theorem camelChars_of_not_underscore {cs : List Char} (h : ∀ c ∈ cs, c ≠ '_') (rest : List Char) :
    camelChars false (cs ++ rest) = cs ++ camelChars false rest := by
  induction cs with
  | nil => rfl
  | cons c cs ih =>
    obtain ⟨hc, hcs⟩ := List.forall_mem_cons.1 h
    rw [List.cons_append, camelChars, if_neg hc, if_neg Bool.false_ne_true, ih hcs, List.cons_append]

/-- At the start of a word its first letter is put into capitals. -/
theorem camelChars_word (h : SnakeWord word) :
    camelChars true (word.toList ++ rest) = (capitalized word).toList ++ camelChars false rest := by
  obtain ⟨a, b, cs, hword, ha, hb, hcs⟩ := h.chars
  have hne : ∀ c ∈ b :: cs, c ≠ '_' :=
    List.forall_mem_cons.2 ⟨ne_underscore_of_small (.inl hb), fun c hc => ne_underscore_of_small (hcs c hc)⟩
  rw [toList_capitalized, hword, List.cons_append, camelChars, if_neg (ne_underscore_of_small (.inl ha)),
    if_pos rfl, upper_ascii (isAlphanum_of_isLower ha), camelChars_of_not_underscore hne]
  rfl

/-- Inside a name a capitalized word is written behind an underscore, and
leaves no run open. -/
theorem snakeChars_word (h : SnakeWord word) (first : Bool) :
    snakeChars first false ((capitalized word).toList ++ rest) =
      (if first then [] else ['_']) ++ word.toList ++ snakeChars false false rest := by
  obtain ⟨a, b, cs, hword, ha, hb, hcs⟩ := h.chars
  have hno : ∀ c ∈ cs, isUppercase c = false := fun c hc =>
    isUppercase_of_small ((hcs c hc).imp_right .inl)
  rw [toList_capitalized, hword]
  show snakeChars first false (a.toUpper :: b :: (cs ++ rest)) = _
  rw [snakeChars_capital (isUpper_toUpper ha), toLower_toUpper ha, snakeChars_small hb,
    snakeChars_of_not_capital hno false rest, Bool.false_and, List.append_assoc, List.cons_append,
    List.cons_append]

end

/-! ## Sequences of words -/

/-- Joined texts are the first one, and each other one behind a separator. -/
theorem intercalate_cons {α : Type} (a : α) (xs : List α) (xss : List (List α)) :
    [a].intercalate (xs :: xss) = xs ++ xss.flatMap (a :: ·) := by
  induction xss generalizing xs with
  | nil => rw [List.intercalate_singleton, List.flatMap_nil, List.append_nil]
  | cons ys xss ih =>
    rw [List.intercalate_cons_cons, ih, List.flatMap_cons, List.append_assoc, List.singleton_append,
      List.cons_append]

section

variable {words : List String}

theorem camelChars_words (h : ∀ w ∈ words, SnakeWord w) :
    camelChars false ((words.map String.toList).flatMap ('_' :: ·)) =
      (words.map capitalized).flatMap String.toList := by
  induction words with
  | nil => rfl
  | cons w words ih =>
    obtain ⟨hw, hwords⟩ := List.forall_mem_cons.1 h
    rw [List.map_cons, List.map_cons, List.flatMap_cons, List.flatMap_cons, ← ih hwords,
      ← camelChars_word hw, List.cons_append, camelChars, if_pos rfl]

theorem snakeChars_words (h : ∀ w ∈ words, SnakeWord w) :
    snakeChars false false ((words.map capitalized).flatMap String.toList) =
      (words.map String.toList).flatMap ('_' :: ·) := by
  induction words with
  | nil => rfl
  | cons w words ih =>
    obtain ⟨hw, hwords⟩ := List.forall_mem_cons.1 h
    rw [List.map_cons, List.map_cons, List.flatMap_cons, List.flatMap_cons, ← ih hwords, snakeChars_word hw]
    rfl

/-- **The two spellings of a sequence of words are converted into each other.** -/
theorem words_roundTrip (h : ∀ w ∈ words, SnakeWord w) :
    (∀ w ∈ words, CamelWord (capitalized w)) ∧
      toCamel ("_".intercalate words) = String.join (words.map capitalized) ∧
      toSnake (String.join (words.map capitalized)) = "_".intercalate words := by
  refine ⟨fun w hw => (h w hw).camelWord, ?_⟩
  cases words with
  | nil => exact ⟨rfl, rfl⟩
  | cons w words =>
    obtain ⟨hw, hwords⟩ := List.forall_mem_cons.1 h
    have hsnake : ("_".intercalate (w :: words)).toList =
        w.toList ++ (words.map String.toList).flatMap ('_' :: ·) := by
      rw [String.toList_intercalate]
      exact intercalate_cons '_' w.toList (words.map String.toList)
    have hcamel : (String.join ((w :: words).map capitalized)).toList =
        (capitalized w).toList ++ (words.map capitalized).flatMap String.toList := by
      rw [String.toList_join, List.map_cons, List.flatMap_cons]
    constructor
    · rw [toCamel, hsnake, camelChars_word hw, camelChars_words hwords, ← hcamel, String.ofList_toList]
    · rw [toSnake, hcamel, snakeChars_word hw, snakeChars_words hwords]
      exact (congrArg String.ofList hsnake.symm).trans String.ofList_toList

/-- Digits at the end of a word, and a word at the end of the name. -/
theorem words_roundTrip_digits :
    (∀ w ∈ ["float64", "xy", "values10"], SnakeWord w) ∧
      toCamel "float64_xy_values10" = "Float64XyValues10" ∧
      toSnake "Float64XyValues10" = "float64_xy_values10" := by
  have h : ∀ w ∈ ["float64", "xy", "values10"], SnakeWord w := by
    intro w hw
    simp only [List.mem_cons, List.not_mem_nil, or_false] at hw
    rcases hw with rfl | rfl | rfl
    · exact @SnakeWord.intro "float".toList "64".toList (by decide) (by decide) (by decide)
    · exact @SnakeWord.intro "xy".toList [] (by decide) (by decide) (by decide)
    · exact @SnakeWord.intro "values".toList "10".toList (by decide) (by decide) (by decide)
  obtain ⟨-, hcamel, hsnake⟩ := words_roundTrip h
  exact ⟨h, hcamel, hsnake⟩

end

end MessageSchema.Identifier
