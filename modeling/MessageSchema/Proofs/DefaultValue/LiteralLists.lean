/-
Lists of literals between double quotes, and when they are taken apart into
the literals they were made of. The list reader knows no backslashes: for it
an element ends at a double quote before a comma or at the end of the list,
and two double quotes in a row stand for one. So an escaped double quote ends
its element if a comma follows (`Spells.reading`), and at the end of a literal
it takes the closing quote with it, so that what follows is read into the
element (`elements_literal_joined`). `split_literals_iff`: nothing else goes
wrong; in all other lists each literal is normalised as it is alone.
-/
import MessageSchema.Proofs.DefaultValue.Canonical
import MessageSchema.Proofs.DefaultValue.Elements

namespace MessageSchema.DefaultValue

open Text

/-- A literal between double quotes. -/
structure QuotedLiteral where
  body : List Char
  text : List Char
  spells : Spells body text

/-- The characters of the literal. -/
def QuotedLiteral.chars (l : QuotedLiteral) : List Char :=
  '"' :: (l.body ++ ['"'])

/-- The literal as it is written. -/
def QuotedLiteral.literal (l : QuotedLiteral) : String :=
  String.ofList l.chars

/-- The literals with a comma and a space between two. -/
def literalsRecord (ls : List QuotedLiteral) : List Char :=
  [',', ' '].intercalate (ls.map (·.chars))

/-- The literals between brackets. -/
def literalsText (ls : List QuotedLiteral) : String :=
  String.ofList ('[' :: (literalsRecord ls ++ [']']))

/-- No comma stands directly behind a double quote inside a literal, and no
literal but the last has a double quote at its end. -/
structure Separable (ls : List QuotedLiteral) : Prop where
  comma : ∀ l ∈ ls, ¬ ['"', ','] <:+: l.body
  ending : ∀ l ∈ ls.dropLast, l.body.getLast? ≠ some '"'

/-! ## Reading one literal -/

theorem readQuoted_of_ne {c : Char} (hc : c ≠ '"') (cs : List Char) :
    readQuoted (c :: cs) = (c :: (readQuoted cs).1, (readQuoted cs).2) := by
  rw [DefaultValue.readQuoted]
  all_goals
    intros
    contradiction

/-- A double quote with something else than a double quote or a comma behind
it stands for itself. -/
theorem readQuoted_stray {d : Char} (hquote : d ≠ '"') (hcomma : d ≠ ',') (cs : List Char) :
    readQuoted ('"' :: d :: cs) = ('"' :: (readQuoted (d :: cs)).1, (readQuoted (d :: cs)).2) := by
  rw [DefaultValue.readQuoted]
  · rintro - h
    cases h
  · rintro cs' - h
    exact hquote (List.cons.inj h).1
  · rintro cs' - h
    exact hcomma (List.cons.inj h).1

theorem Spells.head?_ne {body text : List Char} (h : Spells body text) : body.head? ≠ some '"' := by
  cases h with
  | nil => nofun
  | plain quote backslash rest => simpa using quote
  | escaped c rest => simp

/-- What is left to read behind the body of a literal, when its closing quote
and `cs` come after it: a double quote at its end takes the closing one along. -/
def leftBehind (body cs : List Char) : List Char :=
  if body.getLast? = some '"' then cs else '"' :: cs

theorem leftBehind_cons {c : Char} {body : List Char} (h : c ≠ '"' ∨ body ≠ []) (cs : List Char) :
    leftBehind (c :: body) cs = leftBehind body cs := by
  unfold leftBehind
  cases body with
  | nil => simp [h.resolve_right (by simp)]
  | cons d body => rw [List.getLast?_cons_cons]

/-- What the list reader finds when it comes to a literal, `cs` being behind
it: all of the body, and whatever it reads on; or the part before a double
quote with a comma behind. -/
inductive Reading (body cs : List Char) (read : List Char × Option (List Char)) : Prop where
  | whole (comma : ¬ ['"', ','] <:+: body)
      (eq : read = (body ++ (readQuoted (leftBehind body cs)).1, (readQuoted (leftBehind body cs)).2))
  | cut {before after : List Char} (comma : body = before ++ '"' :: ',' :: after) (eq : read.1 = before)

theorem Reading.cons {c : Char} {body cs : List Char} {read : List Char × Option (List Char)}
    (hcomma : ¬ ['"', ','] <+: c :: body) (hleft : leftBehind (c :: body) cs = leftBehind body cs)
    (h : Reading body cs read) : Reading (c :: body) cs (c :: read.1, read.2) := by
  cases h with
  | whole comma eq =>
    refine .whole (by rw [List.infix_cons_iff, not_or]; exact ⟨hcomma, comma⟩) ?_
    rw [eq, hleft]
    rfl
  | @cut before after comma eq => exact .cut (by rw [comma, List.cons_append]) (by rw [eq])

theorem Reading.cons_of_ne {c : Char} (hc : c ≠ '"') {body cs : List Char}
    {read : List Char × Option (List Char)} (h : Reading body cs read) :
    Reading (c :: body) cs (c :: read.1, read.2) :=
  h.cons (fun hfront => hc (List.cons_prefix_cons.1 hfront).1.symm) (leftBehind_cons (.inl hc) cs)

/-- **A literal is read to its end**, if no comma stands directly behind a double
quote in it; otherwise it is cut. -/
theorem Spells.reading {body text : List Char} (h : Spells body text) (cs : List Char) :
    Reading body cs (readQuoted (body ++ '"' :: cs)) := by
  induction h with
  | nil => exact .whole (by simp) rfl
  | plain quote backslash h ih =>
    rw [List.cons_append, readQuoted_of_ne quote]
    exact ih.cons_of_ne quote
  | @escaped c body _ h ih =>
    rw [List.cons_append, List.cons_append, readQuoted_of_ne (by decide)]
    refine .cons_of_ne (by decide) ?_
    by_cases hc : c = '"'
    · subst hc
      -- what the reader makes of the double quote hangs on the character behind it
      cases body with
      | nil => exact .whole (by decide) rfl
      | cons d body =>
        by_cases hd : d = ','
        · subst hd
          exact @Reading.cut _ _ _ [] body rfl rfl
        · have hquote : d ≠ '"' := by simpa using h.head?_ne
          rw [List.cons_append, readQuoted_stray hquote hd]
          exact ih.cons (by simpa [eq_comm] using hd) (leftBehind_cons (.inr (by simp)) cs)
    · rw [readQuoted_of_ne hc]
      exact ih.cons_of_ne hc

/-! ## Reading the list -/

/-- Making a literal of a value neither adds nor removes a comma. -/
theorem count_canonical (cs : List Char) : (canonical cs).count ',' = cs.count ',' := by
  rw [canonical_eq, List.count_cons, List.count_append, count_respell (by decide),
    count_unwrap_of_ne (by decide)]
  simp

theorem canonical_ne {v w : List Char} (h : v.count ',' ≠ w.count ',') : canonical v ≠ canonical w := by
  intro heq
  rw [← count_canonical, ← count_canonical w, heq] at h
  exact h rfl

section

variable {body cs : List Char} {read : List Char × Option (List Char)}

theorem Reading.eq_whole (h : Reading body cs read) (hcomma : ¬ ['"', ','] <:+: body) :
    read = (body ++ (readQuoted (leftBehind body cs)).1, (readQuoted (leftBehind body cs)).2) := by
  cases h with
  | whole _ eq => exact eq
  | @cut before after comma eq => exact absurd ⟨before, after, by simp [comma]⟩ hcomma

/-- A literal that is cut has lost a comma. -/
theorem Reading.comma_of_canonical (h : Reading body cs read) (heq : canonical read.1 = canonical body) :
    ¬ ['"', ','] <:+: body := by
  cases h with
  | whole comma _ => exact comma
  | @cut before after comma eq =>
    refine absurd heq (canonical_ne ?_)
    simp [eq, comma]

end

section

variable {gap : List Char} (hgap : Blanks gap) (l : QuotedLiteral) (cs : List Char)

include hgap

theorem elements_literal :
    elements (gap ++ (l.chars ++ cs)) =
      (readQuoted (l.body ++ '"' :: cs)).1 ::
        ((readQuoted (l.body ++ '"' :: cs)).2.map elements).getD [] := by
  refine elements_of_readElement ?_
  rw [trimStart_blanks_append hgap, QuotedLiteral.chars, List.cons_append, List.append_assoc,
    trimStart_of_stops (.cons (by decide))]
  rfl

/-- The last literal of a list. -/
theorem elements_literal_last (hcomma : ¬ ['"', ','] <:+: l.body) :
    elements (gap ++ (l.chars ++ [])) = [l.body] := by
  rw [elements_literal hgap, (l.spells.reading []).eq_whole hcomma, leftBehind]
  split <;> simp [readQuoted]

/-- A literal with another one behind it. -/
theorem elements_literal_comma (hcomma : ¬ ['"', ','] <:+: l.body) (hending : l.body.getLast? ≠ some '"') :
    elements (gap ++ (l.chars ++ ',' :: cs)) = l.body :: elements cs := by
  rw [elements_literal hgap, (l.spells.reading _).eq_whole hcomma, leftBehind, if_neg hending]
  simp [readQuoted]

/-- A double quote at its end joins a literal to the comma behind it. -/
theorem elements_literal_joined (hcomma : ¬ ['"', ','] <:+: l.body) (hending : l.body.getLast? = some '"') :
    ∃ value rest, elements (gap ++ (l.chars ++ ',' :: cs)) = (l.body ++ ',' :: value) :: rest := by
  rw [elements_literal hgap, (l.spells.reading _).eq_whole hcomma, leftBehind, if_pos hending,
    readQuoted_of_ne (by decide)]
  exact ⟨_, _, rfl⟩

end

theorem literalsRecord_singleton (l : QuotedLiteral) : literalsRecord [l] = l.chars ++ [] := by
  simp [literalsRecord]

theorem literalsRecord_cons_cons (l m : QuotedLiteral) (ls : List QuotedLiteral) :
    literalsRecord (l :: m :: ls) = l.chars ++ ',' :: ([' '] ++ literalsRecord (m :: ls)) := by
  simp [literalsRecord]

theorem separable_nil : Separable [] where
  comma _ h := absurd h List.not_mem_nil
  ending _ h := absurd h List.not_mem_nil

theorem separable_singleton_iff {l : QuotedLiteral} : Separable [l] ↔ ¬ ['"', ','] <:+: l.body :=
  ⟨fun h => h.comma l List.mem_cons_self, fun h => ⟨by simpa using h, by simp⟩⟩

theorem separable_cons_cons_iff {l m : QuotedLiteral} {ls : List QuotedLiteral} :
    Separable (l :: m :: ls) ↔
      ¬ ['"', ','] <:+: l.body ∧ l.body.getLast? ≠ some '"' ∧ Separable (m :: ls) := by
  constructor
  · intro h
    have hcomma := List.forall_mem_cons.1 h.comma
    have hending := List.forall_mem_cons.1 h.ending
    exact ⟨hcomma.1, hending.1, hcomma.2, hending.2⟩
  · rintro ⟨hcomma, hending, h⟩
    exact ⟨List.forall_mem_cons.2 ⟨hcomma, h.comma⟩, List.forall_mem_cons.2 ⟨hending, h.ending⟩⟩

/-- **The elements of a list are normalised as its literals are** if and only if
these can be told apart. -/
theorem elements_literalsRecord_iff (l : QuotedLiteral) (ls : List QuotedLiteral) {gap : List Char}
    (hgap : Blanks gap) :
    (elements (gap ++ literalsRecord (l :: ls))).map canonical =
        (l :: ls).map (fun l => canonical l.body) ↔ Separable (l :: ls) := by
  induction ls generalizing l gap with
  | nil =>
    rw [literalsRecord_singleton, separable_singleton_iff]
    constructor
    · intro h
      rw [elements_literal hgap] at h
      exact (l.spells.reading []).comma_of_canonical (List.cons.inj h).1
    · intro hcomma
      rw [elements_literal_last hgap l hcomma]
      rfl
  | cons m ls ih =>
    have hspace : Blanks [' '] := by decide
    rw [literalsRecord_cons_cons, separable_cons_cons_iff]
    constructor
    · intro h
      have hcomma : ¬ ['"', ','] <:+: l.body := by
        rw [elements_literal hgap] at h
        exact (l.spells.reading _).comma_of_canonical (List.cons.inj h).1
      by_cases hending : l.body.getLast? = some '"'
      · obtain ⟨value, rest, heq⟩ := elements_literal_joined hgap l _ hcomma hending
        rw [heq] at h
        exact absurd (List.cons.inj h).1 (canonical_ne (by simp))
      · rw [elements_literal_comma hgap l _ hcomma hending] at h
        exact ⟨hcomma, hending, (ih m hspace).1 (List.cons.inj h).2⟩
    · rintro ⟨hcomma, hending, h⟩
      rw [elements_literal_comma hgap l _ hcomma hending, List.map_cons, (ih m hspace).2 h]
      rfl

theorem splitRecord_literalsRecord (l : QuotedLiteral) (ls : List QuotedLiteral) :
    splitRecord (literalsRecord (l :: ls)) = elements (literalsRecord (l :: ls)) := by
  have hquote : '"' ∈ literalsRecord (l :: ls) := by
    cases ls <;> simp [literalsRecord, QuotedLiteral.chars]
  refine if_neg fun hblank => ?_
  exact absurd (List.all_eq_true.1 hblank '"' hquote) (by decide)

/-- **A list of literals is normalised literal by literal**, unless a double
quote inside one has a comma behind it or stands at its end with another
literal behind. -/
theorem split_literals_iff {typeName : String} (h : isTextualName typeName = true)
    (ls : List QuotedLiteral) :
    split typeName (literalsText ls) = ls.map (fun l => normalize typeName l.literal) ↔ Separable ls := by
  have hliteral : ∀ l : QuotedLiteral,
      normalize typeName l.literal = String.ofList (canonical l.body) := fun l => by
    rw [← String.toList_inj, toList_normalize h, QuotedLiteral.literal, String.toList_ofList,
      QuotedLiteral.chars, unwrap_enclosed, String.toList_ofList]
  have hsplit : split typeName (literalsText ls) =
      ((splitRecord (literalsRecord ls)).map canonical).map String.ofList := by
    simp [split, splitChars, literalsText, stripBrackets_enclosed, h]
  have hliterals : ls.map (fun l => normalize typeName l.literal) =
      (ls.map fun l => canonical l.body).map String.ofList := by
    simp [hliteral]
  rw [hsplit, hliterals, List.map_inj_right fun _ _ => String.ofList_inj.1]
  cases ls with
  | nil => exact iff_of_true rfl separable_nil
  | cons l ls =>
    rw [splitRecord_literalsRecord]
    exact @elements_literalsRecord_iff l ls [] (by decide)

/-- A comma before an escaped quote, and an escaped quote at the end: the two
literals can be told apart in this order, and not in the other. -/
theorem split_literals_iff_order :
    isTextualName "string" = true ∧ ∃ l m : QuotedLiteral,
      l.literal = "\"a, \\\"b\"" ∧ m.literal = "\"c\\\"\"" ∧
      split "string" (literalsText [l, m]) = [normalize "string" l.literal, normalize "string" m.literal] ∧
      split "string" (literalsText [m, l]) ≠ [normalize "string" m.literal, normalize "string" l.literal] := by
  have htype : isTextualName "string" = true := by decide
  refine ⟨htype, ⟨"a, \\\"b".toList, "a, \"b".toList, by decide⟩,
    ⟨"c\\\"".toList, "c\"".toList, by decide⟩, rfl, rfl, ?_, ?_⟩
  · exact (split_literals_iff htype [_, _]).2 ⟨by decide, by decide⟩
  · refine mt (split_literals_iff htype [_, _]).1 fun h => ?_
    exact h.ending _ List.mem_cons_self rfl

/-- A comma behind an escaped quote cuts its literal in two, and a literal
that ends in an escaped quote takes in the next one. -/
theorem split_escaped_quotes :
    (∃ l : QuotedLiteral, l.literal = "\"a\\\",b\"" ∧
      split "string" (literalsText [l]) = ["\"a\\\"", "\"b\\\"\""] ∧
      normalize "string" l.literal = "\"a\\\",b\"") ∧
    ∃ l m : QuotedLiteral, l.literal = "\"a\\\"\"" ∧ m.literal = "\"b\"" ∧
      split "string" (literalsText [l, m]) = ["\"a\\\", \\\"b\""] := by
  constructor
  · exact ⟨⟨"a\\\",b".toList, "a\",b".toList, by decide⟩, rfl, by cbv, by decide⟩
  · exact ⟨⟨"a\\\"".toList, "a\"".toList, by decide⟩, ⟨"b".toList, "b".toList, by decide⟩,
      rfl, rfl, by cbv⟩

end MessageSchema.DefaultValue
