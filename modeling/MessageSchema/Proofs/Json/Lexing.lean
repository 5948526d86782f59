/-
The grammar of the tokens of a JSON text, and that the reader finds exactly
the tokens a text was written with (`Lexes.ofChars_eq`). So no text has two lists
of tokens.
-/
import MessageSchema.Json.Token
import MessageSchema.Proofs.Json.Number
import MessageSchema.Proofs.Json.TextLiteral

namespace MessageSchema.Json

open Text (Stops)

namespace Token

/-- The texts that write a token. -/
inductive Spelled : List Char → Token → Prop where
  | mark {c : Char} {t : Token} (mark : ofMark? c = some t) : Spelled [c] t
  | literal {c : Char} {t : Token} {word : String} (letter : ofLetter? c = some (t, word)) :
      Spelled (c :: word.toList) t
  | number {cs : List Char} {n : NumberText} (form : NumberText.Form cs n) : Spelled cs (.number n)
  | text {cs s : List Char} (escaped : Escaped cs s) :
      Spelled ('"' :: (cs ++ ['"'])) (.text (.ok (String.ofList s)))

/-- What may stand directly behind a token: behind a number nothing with which
it would go on. -/
def EndsBefore : Token → List Char → Prop
  | number _, rest => Stops NumberText.goesOn rest
  | _, _ => True

/-! ## Reading one token -/

theorem ofMark?_of_isDigit {c : Char} (h : c = '-' ∨ c.isDigit = true) : ofMark? c = none := by
  unfold ofMark?
  split
  all_goals first
    | rfl
    | exact absurd h (by decide)

theorem ofLetter?_of_isDigit {c : Char} (h : c = '-' ∨ c.isDigit = true) : ofLetter? c = none := by
  unfold ofLetter?
  split
  all_goals first
    | rfl
    | exact absurd h (by decide)

theorem ofMark?_of_ofLetter? {c : Char} {p : Token × String} (h : ofLetter? c = some p) :
    ofMark? c = none := by
  unfold ofLetter? at h
  split at h
  · rfl
  · rfl
  · rfl
  · cases h

theorem readWord_append (word rest : List Char) : readWord word (word ++ rest) = .ok rest := by
  induction word with
  | nil => rfl
  | cons w word ih => rw [List.cons_append, readWord, if_pos rfl, ih]

/-- A token starts with a character that is no space, and is read from there. -/
theorem Spelled.read {cs : List Char} {t : Token} (h : Spelled cs t) {rest : List Char}
    (ends : t.EndsBefore rest) :
    ∃ c body, cs = c :: body ∧ isSpace c = false ∧ Token.read c (body ++ rest) = (t, some rest) := by
  cases h with
  | @mark c t hmark =>
    refine ⟨c, [], rfl, ?_, by rw [Token.read, hmark]; rfl⟩
    unfold ofMark? at hmark
    split at hmark
    all_goals first
      | decide
      | cases hmark
  | @literal c t word hletter =>
    refine ⟨c, word.toList, rfl, ?_, ?_⟩
    · unfold ofLetter? at hletter
      split at hletter
      all_goals first
        | decide
        | cases hletter
    · simp only [Token.read, ofMark?_of_ofLetter? hletter, hletter, readLiteral, readWord_append]
  | @number _ n hform =>
    obtain ⟨c, body, rfl, hc⟩ := hform.head
    refine ⟨c, body, rfl, ?_, ?_⟩
    · simp only [isSpace, Bool.or_eq_false_iff, beq_eq_false_iff_ne]
      refine ⟨⟨⟨?_, ?_⟩, ?_⟩, ?_⟩
      all_goals
        rintro rfl
        exact absurd hc (by decide)
    · have hquote : c ≠ '"' := by
        rintro rfl
        exact absurd hc (by decide)
      have hread : NumberText.read (c :: (body ++ rest)) = .ok (n, rest) := NumberText.read_form hform ends
      simp only [Token.read, ofMark?_of_isDigit hc, ofLetter?_of_isDigit hc, if_neg hquote, if_pos hc,
        readNumber, hread]
  | @text cs s hescaped =>
    refine ⟨'"', cs ++ ['"'], rfl, by decide, ?_⟩
    obtain ⟨units, hscan, hdecode⟩ := scan_escaped hescaped rest
    rw [List.append_assoc, List.singleton_append]
    change readText (cs ++ '"' :: rest) = _
    simp only [readText, hscan, TextScan.value, hdecode]
    rfl

end Token

/-! ## Whole texts -/

open Token

/-- The characters that may stand between tokens. -/
def Spaces (cs : List Char) : Prop := ∀ c ∈ cs, isSpace c = true

/-- A text, and tokens with which it can be written: any spaces around them. -/
inductive Lexes : List Char → List Token → Prop where
  | done {gap : List Char} (spaces : Spaces gap) : Lexes gap []
  | token {gap cs rest : List Char} {t : Token} {ts : List Token} (spaces : Spaces gap)
      (spelled : Spelled cs t) (ends : t.EndsBefore rest) (more : Lexes rest ts) :
      Lexes (gap ++ (cs ++ rest)) (t :: ts)

theorem ofChars_token {gap body rest : List Char} {c : Char} {t : Token} (spaces : Spaces gap)
    (hspace : isSpace c = false) (hread : Token.read c (body ++ rest) = (t, some rest)) :
    ofChars (gap ++ (c :: (body ++ rest))) = t :: ofChars rest := by
  have hdrop : (gap ++ (c :: (body ++ rest))).dropWhile isSpace = c :: (body ++ rest) :=
    (Text.span_eq_iff.2 ⟨rfl, spaces, .cons hspace⟩).2
  rw [ofChars]
  split
  · next heq => rw [hdrop] at heq; cases heq
  · next c' body' heq =>
    rw [hdrop] at heq
    cases heq
    split
    · next hr => rw [hread] at hr; cases hr
    · next rest' hr =>
      rw [hread] at hr
      cases hr
      rw [hread]

/-- **The reader finds the tokens a text is written with.** -/
theorem Lexes.ofChars_eq {cs : List Char} {ts : List Token} (h : Lexes cs ts) : ofChars cs = ts := by
  induction h with
  | @done gap spaces =>
    have hdrop : gap.dropWhile isSpace = [] := List.dropWhile_eq_nil_iff.2 spaces
    rw [ofChars]
    split
    · rfl
    · next heq => rw [hdrop] at heq; cases heq
  | token spaces spelled ends more ih =>
    obtain ⟨c, body, rfl, hspace, hread⟩ := spelled.read ends
    rw [List.cons_append, ofChars_token spaces hspace hread, ih]

/-! ## Writing -/

theorem Lexes.cons {cs rest : List Char} {t : Token} {ts : List Token} (spelled : Spelled cs t)
    (ends : t.EndsBefore rest) (more : Lexes rest ts) : Lexes (cs ++ rest) (t :: ts) := by
  have spaces : Spaces [] := by simp [Spaces]
  have h := Lexes.token spaces spelled ends more
  exact h

theorem Lexes.gap {gap rest : List Char} {ts : List Token} (spaces : Spaces gap) (h : Lexes rest ts) :
    Lexes (gap ++ rest) ts := by
  have hboth : ∀ {gap' : List Char}, Spaces gap' → Spaces (gap ++ gap') := fun spaces' c hc =>
    (List.mem_append.1 hc).elim (spaces c) (spaces' c)
  cases h with
  | done spaces' => exact .done (hboth spaces')
  | token spaces' spelled ends more =>
    rw [← List.append_assoc]
    exact .token (hboth spaces') spelled ends more

theorem Lexes.mark {c : Char} {t : Token} {rest : List Char} {ts : List Token}
    (hmark : ofMark? c = some t) (h : Lexes rest ts) : Lexes (c :: rest) (t :: ts) := by
  have ends : t.EndsBefore rest := by
    unfold ofMark? at hmark
    split at hmark
    all_goals
      cases hmark
      try trivial
  exact .cons (.mark hmark) ends h

end MessageSchema.Json
