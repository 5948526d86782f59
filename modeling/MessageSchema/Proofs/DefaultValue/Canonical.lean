/-
The canonical literals of texts: when they are literals at all, when they are
left alone by normalising them again, and that they keep the text.

A canonical literal has double quotes at its ends and a backslash before each
double quote between them. That alone does not make it one literal: a
backslash before the double quote may itself be escaped, and one at the end
escapes the closing quote. `normalize_isLiteral_iff` says which values are
safe. Nor does it make it a fixed point: the double quotes are taken off
again, and then single quotes that stood inside stand at the ends
(`normalize_normalize_iff`). Texts without backslashes keep their value if
they start and end with something else than a single quote
(`normalize_literalOf`).
-/
import MessageSchema.Proofs.DefaultValue.Respelling
import Mathlib.Data.List.Forall2

namespace MessageSchema.DefaultValue

/-! ## What is between the quotes -/

theorem canonical_eq (cs : List Char) :
    canonical cs = '"' :: (respell (unwrap '\'' cs) ++ ['"']) := by
  unfold canonical
  split
  · next hcs => rw [hcs]; rfl
  · rfl

theorem toList_normalize {typeName : String} (h : isTextualName typeName = true) (text : String) :
    (normalize typeName text).toList = canonical (unwrap '"' text.toList) := by
  rw [normalize, String.toList_ofList, normalizeChars, if_pos h]
  rfl

theorem unwrap_canonical (cs : List Char) :
    unwrap '"' (canonical cs) = respell (unwrap '\'' cs) := by
  rw [canonical_eq, unwrap_enclosed]

/-! ## One literal -/

/-- Escaping the double quotes that are not leaves the text one: none stands
behind an even number of backslashes, unless there is none, and no odd number
stands at the end. -/
structure Quotable (cs : List Char) : Prop where
  quotes : EachBehind '"' (fun n => n = 0 ∨ Odd n) cs
  ending : Even (backslashesAtEnd cs)

/-- A literal as it is made of a value: double quotes at its ends, a backslash
before each between them, and one literal if the value allows. -/
structure MadeOf (value literal : List Char) : Prop where
  enclosed : ∃ body, literal = '"' :: (body ++ ['"']) ∧ EachBehind '"' (0 < ·) body
  isLiteral_iff : IsLiteral literal ↔ Quotable (unwrap '\'' value)

theorem odd_max_one_iff {n : Nat} : Odd (max n 1) ↔ n = 0 ∨ Odd n := by
  rw [Nat.odd_iff, Nat.odd_iff]
  omega

theorem quotable_iff {cs : List Char} : (∃ text, Spells (respell cs) text) ↔ Quotable cs := by
  rw [exists_spells_iff, eachBehind_respell (by decide), backslashesAtEnd_respell]
  simp only [kept_double, odd_max_one_iff]
  exact ⟨fun h => ⟨h.1, h.2⟩, fun h => ⟨h.quotes, h.ending⟩⟩

theorem canonical_madeOf (value : List Char) : MadeOf value (canonical value) := by
  rw [canonical_eq]
  refine ⟨⟨_, rfl, ?_⟩, isLiteral_enclosed_iff.trans quotable_iff⟩
  rw [eachBehind_respell (by decide)]
  intro before after _
  rw [kept_double]
  omega

/-- **A default of a text is one literal if its value is quotable**, a scalar as
well as each element of a list. In any case it has double quotes at its ends
and a backslash before each double quote between them. -/
theorem normalize_isLiteral_iff {typeName : String} (h : isTextualName typeName = true) (text : String) :
    MadeOf (unwrap '"' text.toList) (normalize typeName text).toList ∧
    List.Forall₂ (fun value literal => MadeOf value literal.toList)
      (splitRecord (stripBrackets text.toList)) (split typeName text) := by
  constructor
  · rw [toList_normalize h]
    exact canonical_madeOf _
  · have hsplit : split typeName text =
        (splitRecord (stripBrackets text.toList)).map fun value => String.ofList (canonical value) := by
      simp [split, splitChars, h, Function.comp_def]
    rw [hsplit, List.forall₂_map_right_iff, List.forall₂_same]
    intro value _
    rw [String.toList_ofList]
    exact canonical_madeOf value

/-- A scalar with one double quote behind three backslashes and a lone one, and
a list whose last element ends in a backslash. -/
theorem normalize_isLiteral_iff_backslashes :
    isTextualName "wstring" = true ∧
    IsLiteral (normalize "wstring" "'say \\\\\\\"hi\"'").toList ∧
    ∃ first second, split "wstring" "['a', 'C:\\']" = [first, second] ∧
      IsLiteral first.toList ∧ ¬ IsLiteral second.toList := by
  have htype : isTextualName "wstring" = true := by decide
  obtain ⟨hscalar, -⟩ := normalize_isLiteral_iff htype "'say \\\\\\\"hi\"'"
  obtain ⟨-, hlist⟩ := normalize_isLiteral_iff htype "['a', 'C:\\']"
  have hvalues : splitRecord (stripBrackets "['a', 'C:\\']".toList) = ["'a'".toList, "'C:\\'".toList] := by
    cbv
  rw [hvalues] at hlist
  obtain ⟨first, rest, hfirst, hrest, hsplit⟩ := List.forall₂_cons_left_iff.1 hlist
  obtain ⟨second, rest, hsecond, hnil, rfl⟩ := List.forall₂_cons_left_iff.1 hrest
  obtain rfl := List.forall₂_nil_left_iff.1 hnil
  refine ⟨htype, hscalar.isLiteral_iff.2 ⟨by decide, by decide⟩, first, second, hsplit,
    hfirst.isLiteral_iff.2 ⟨by decide, by decide⟩, fun h => ?_⟩
  exact absurd (hsecond.isLiteral_iff.1 h).ending (by decide)

/-- A single quote at the end is dropped without the backslash that escapes it,
which then escapes the closing quote; and of two backslashes before a double
quote the first escapes the second. -/
theorem normalize_not_isLiteral :
    IsLiteral "\"it\\'\"".toList ∧ normalize "string" "\"it\\'\"" = "\"it\\\"" ∧
    ¬ IsLiteral (normalize "string" "\"it\\'\"").toList ∧
    split "string" "[\"it\\'\"]" = ["\"it\\\""] ∧
    normalize "string" "a\\\\\"b" = "\"a\\\\\"b\"" ∧
    ¬ IsLiteral (normalize "string" "a\\\\\"b").toList := by
  refine ⟨by decide, by decide, by decide, ?_, by decide, by decide⟩
  cbv

/-! ## Once and for all -/

/-- No single quote comes to stand at an end, and none is escaped twice: the
text does not start with one, escaped or not, nor end with one, and none has
two backslashes before it. -/
structure Settled (cs : List Char) : Prop where
  start : cs.head? ≠ some '\''
  escaped_start : ¬ ['\\', '\''] <+: cs
  ending : cs.getLast? ≠ some '\''
  inner : EachBehind '\'' (· ≤ 1) cs

theorem respell_respell_iff {cs : List Char} :
    respell (respell cs) = respell cs ↔ EachBehind '\'' (· ≤ 1) cs := by
  rw [respell_eq_self_iff, eachBehind_respell (by decide), eachBehind_respell (by decide)]
  simp only [kept_double, kept_single, Nat.sub_eq_zero_iff_le]
  exact and_iff_right fun before after _ => Nat.le_max_right _ _

theorem respell_unwrap_respell_iff {cs : List Char} :
    respell (unwrap '\'' (respell cs)) = respell cs ↔ Settled cs := by
  constructor
  · intro h
    -- respelling drops no single quote, so unwrapping has dropped none
    have hcount : (unwrap '\'' (respell cs)).count '\'' = (respell cs).count '\'' := by
      rw [← count_respell (by decide), h]
    obtain ⟨hunwrap, hstart, hending⟩ := ends_of_count_unwrap hcount
    rw [hunwrap] at h
    rw [Ne, head?_respell, not_or] at hstart
    rw [getLast?_respell] at hending
    exact ⟨hstart.1, hstart.2, hending, respell_respell_iff.1 h⟩
  · intro h
    have hstart : (respell cs).head? ≠ some '\'' := by
      rw [Ne, head?_respell, not_or]
      exact ⟨h.start, h.escaped_start⟩
    have hending : (respell cs).getLast? ≠ some '\'' := by
      rw [getLast?_respell]
      exact h.ending
    rw [unwrap_eq_self hstart hending]
    exact respell_respell_iff.2 h.inner

/-- **Normalising twice is normalising once** for just the defaults of texts
that are settled without the quotes around them. -/
theorem normalize_normalize_iff {typeName : String} (h : isTextualName typeName = true) (text : String) :
    normalize typeName (normalize typeName text) = normalize typeName text ↔
      Settled (unwrap '\'' (unwrap '"' text.toList)) := by
  rw [← String.toList_inj, toList_normalize h, toList_normalize h, unwrap_canonical, canonical_eq,
    canonical_eq]
  simpa using respell_unwrap_respell_iff

/-- An escaped single quote inside, and a quote of the other kind at the end. -/
theorem normalize_normalize_iff_inside :
    isTextualName "U16String" = true ∧
    normalize "U16String" (normalize "U16String" "'it\\'s \"so\"'") =
      normalize "U16String" "'it\\'s \"so\"'" := by
  have htype : isTextualName "U16String" = true := by decide
  refine ⟨htype, (normalize_normalize_iff htype _).2 ⟨?_, ?_, ?_, ?_⟩⟩
  all_goals decide

/-- Of two single quotes at either end one is left, and lost the next time; an
escaped backslash before a single quote is taken for its escape. -/
theorem normalize_normalize_ne :
    normalize "string" "''a''" = "\"'a'\"" ∧ normalize "string" "\"'a'\"" = "\"a\"" ∧
    normalize "string" (normalize "string" "''a''") ≠ normalize "string" "''a''" ∧
    normalize "string" (normalize "string" "a\\\\'b") ≠ normalize "string" "a\\\\'b" := by
  refine ⟨?_, ?_, ?_, ?_⟩
  all_goals decide

/-! ## The text of a literal -/

/-- The text with a backslash before each double quote. -/
def escapeQuotes (cs : List Char) : List Char :=
  cs.flatMap fun c => if c = '"' then ['\\', c] else [c]

/-- The text between double quotes. -/
def literalOf (s : String) : String :=
  String.ofList ('"' :: (escapeQuotes s.toList ++ ['"']))

/-- The text between single quotes, as it is. -/
def singleQuoted (s : String) : String :=
  String.ofList ('\'' :: (s.toList ++ ['\'']))

theorem respell_cons {c : Char} (hc : c ≠ '\\') (cs : List Char) :
    respell (c :: cs) = List.replicate (kept 0 c) '\\' ++ c :: respell cs :=
  respell_stretch hc 0 cs

theorem respell_eq_escapeQuotes {cs : List Char} (h : '\\' ∉ cs) : respell cs = escapeQuotes cs := by
  induction cs with
  | nil => rfl
  | cons c cs ih =>
    rw [List.mem_cons, not_or] at h
    rw [respell_cons (Ne.symm h.1), ih h.2]
    by_cases hd : c = '"'
    · simp [escapeQuotes, hd]
    · simp [escapeQuotes, kept, hd]

theorem spells_escapeQuotes {cs : List Char} (h : '\\' ∉ cs) : Spells (escapeQuotes cs) cs := by
  induction cs with
  | nil => exact .nil
  | cons c cs ih =>
    rw [List.mem_cons, not_or] at h
    have hcs := ih h.2
    by_cases hd : c = '"'
    · subst hd
      exact .escaped '"' hcs
    · rw [escapeQuotes, List.flatMap_cons, if_neg hd]
      exact .plain hd (Ne.symm h.1) hcs

theorem settled_of_not_mem {cs : List Char} (h : '\\' ∉ cs) (hstart : cs.head? ≠ some '\'')
    (hending : cs.getLast? ≠ some '\'') : Settled cs where
  start := hstart
  escaped_start hfront := h (hfront.subset List.mem_cons_self)
  ending := hending
  inner := by
    rintro before after rfl
    have hbefore : '\\' ∉ before := fun hmem => h (List.mem_append_left _ hmem)
    rw [backslashesAtEnd_eq_zero hbefore]
    exact Nat.zero_le 1

/-- **Texts keep their value.** The literal of a text without backslashes is
left as it is, if no single quote stands at either end of the text; the text
between single quotes becomes that literal; and the literal stands for the text. -/
theorem normalize_literalOf {typeName : String} (h : isTextualName typeName = true) {s : String}
    (hbackslash : '\\' ∉ s.toList) (hstart : s.toList.head? ≠ some '\'')
    (hending : s.toList.getLast? ≠ some '\'') :
    normalize typeName (literalOf s) = literalOf s ∧
    normalize typeName (singleQuoted s) = literalOf s ∧
    decode? (literalOf s).toList = some s.toList := by
  have hliteral : (literalOf s).toList = '"' :: (respell s.toList ++ ['"']) := by
    rw [literalOf, String.toList_ofList, respell_eq_escapeQuotes hbackslash]
  have hsingle : (singleQuoted s).toList = '\'' :: (s.toList ++ ['\'']) := String.toList_ofList
  refine ⟨?_, ?_, ?_⟩
  · rw [← String.toList_inj, toList_normalize h, hliteral, unwrap_enclosed, canonical_eq,
      respell_unwrap_respell_iff.2 (settled_of_not_mem hbackslash hstart hending)]
  · have hlast : ('\'' :: (s.toList ++ ['\''])).getLast? ≠ some '"' := by
      rw [← List.cons_append, List.getLast?_concat]
      decide
    rw [← String.toList_inj, toList_normalize h, hliteral, hsingle, unwrap_eq_self (by simp) hlast,
      canonical_eq, unwrap_enclosed]
  · refine decode?_eq_some_iff.2 ⟨escapeQuotes s.toList, spells_escapeQuotes hbackslash, ?_⟩
    rw [literalOf, String.toList_ofList]

/-- A text with single quotes inside and a double quote at the end. -/
theorem normalize_literalOf_quotes :
    isTextualName "U16String" = true ∧ '\\' ∉ "it's \"so\"".toList ∧
    "it's \"so\"".toList.head? ≠ some '\'' ∧ "it's \"so\"".toList.getLast? ≠ some '\'' ∧
    normalize "U16String" "\"it's \\\"so\\\"\"" = "\"it's \\\"so\\\"\"" ∧
    normalize "U16String" "'it's \"so\"'" = "\"it's \\\"so\\\"\"" ∧
    decode? "\"it's \\\"so\\\"\"".toList = some "it's \"so\"".toList := by
  have htype : isTextualName "U16String" = true := by decide
  have hbackslash : '\\' ∉ "it's \"so\"".toList := by decide
  have hstart : "it's \"so\"".toList.head? ≠ some '\'' := by decide
  have hending : "it's \"so\"".toList.getLast? ≠ some '\'' := by decide
  have hliteral : literalOf "it's \"so\"" = "\"it's \\\"so\\\"\"" := rfl
  have hsingle : singleQuoted "it's \"so\"" = "'it's \"so\"'" := rfl
  rw [← hliteral, ← hsingle]
  exact ⟨htype, hbackslash, hstart, hending, normalize_literalOf htype hbackslash hstart hending⟩

end MessageSchema.DefaultValue
