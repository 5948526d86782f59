/-
Lists of literals, read as they were written. An element is written bare or
between double quotes, its own double quotes then twice; a comma stands
between two elements, and any blanks may stand before each.

An element is read up to the comma after it (`readElement_literal`), so the
elements of a written list are the ones found in it (`elements_recordText`).
One list cannot be told from the empty one: that of a single element, bare
and empty, which leaves nothing but blanks between the brackets.
-/
import MessageSchema.DefaultValue
import MessageSchema.Proofs.Text.Blank

namespace MessageSchema.DefaultValue

open Text

/-! ## Written elements -/

/-- Writes every double quote twice. -/
def doubleQuotes : List Char → List Char
  | [] => []
  | c :: cs => if c = '"' then '"' :: '"' :: doubleQuotes cs else c :: doubleQuotes cs

/-- Can be written without quotes: no comma, and neither a blank nor a double
quote in front. -/
structure Bare (cs : List Char) : Prop where
  comma : ',' ∉ cs
  blank : Stops isBlank cs
  quote : cs.head? ≠ some '"'

/-- An element of a list as it is written, with the blanks before it. -/
structure ListElement where
  gap : List Char
  value : String
  quoted : Bool
  blanks : Blanks gap
  bare : quoted = false → Bare value.toList

/-- The literal of the element. -/
def ListElement.literal (e : ListElement) : List Char :=
  if e.quoted then '"' :: (doubleQuotes e.value.toList ++ ['"']) else e.value.toList

/-- The element with the blanks before it. -/
def ListElement.text (e : ListElement) : List Char :=
  e.gap ++ e.literal

/-- The elements with a comma between two. -/
def recordText (es : List ListElement) : List Char :=
  [','].intercalate (es.map (·.text))

/-- The elements between brackets. -/
def listText (es : List ListElement) : String :=
  String.ofList ('[' :: (recordText es ++ [']']))

/-! ## Reading one element -/

/-- What stands after an element: nothing, or a comma and the rest of the list. -/
def afterElement : Option (List Char) → List Char
  | none => []
  | some rest => ',' :: rest

theorem readBare_append {v : List Char} (h : ',' ∉ v) (tail : Option (List Char)) :
    readBare (v ++ afterElement tail) = (v, tail) := by
  induction v with
  | nil => cases tail <;> simp [afterElement, readBare]
  | cons c v ih =>
    simp only [List.mem_cons, not_or] at h
    have hc : c ≠ ',' := fun hc => h.1 hc.symm
    rw [List.cons_append, readBare, if_neg hc, ih h.2]

theorem readQuoted_append (v : List Char) (tail : Option (List Char)) :
    readQuoted (doubleQuotes v ++ '"' :: afterElement tail) = (v, tail) := by
  induction v with
  | nil => cases tail <;> simp [doubleQuotes, afterElement, readQuoted]
  | cons c v ih =>
    by_cases hc : c = '"'
    · subst hc
      simp [doubleQuotes, readQuoted, ih]
    · simp [doubleQuotes, readQuoted, hc, ih]

theorem Bare.readElement {v : List Char} (h : Bare v) (tail : Option (List Char)) :
    readElement (v ++ afterElement tail) = (v, tail) := by
  have hquote : (v ++ afterElement tail).head? ≠ some '"' := by
    cases v with
    | nil => cases tail <;> simp [afterElement]
    | cons c v => exact h.quote
  unfold DefaultValue.readElement
  split
  · next cs hcs =>
    rw [hcs] at hquote
    exact absurd rfl hquote
  · exact readBare_append h.comma tail

/-- **An element is read as it was written**, up to the comma after it. -/
theorem readElement_literal (e : ListElement) (tail : Option (List Char)) :
    readElement (e.literal ++ afterElement tail) = (e.value.toList, tail) := by
  unfold ListElement.literal
  split
  · rw [List.cons_append, List.append_assoc, List.singleton_append, readElement]
    exact readQuoted_append e.value.toList tail
  · next h => exact (e.bare (by simpa using h)).readElement tail

theorem stops_literal (e : ListElement) (tail : Option (List Char)) :
    Stops isBlank (e.literal ++ afterElement tail) := by
  unfold ListElement.literal
  split
  · exact .cons (by decide)
  · next h =>
    have hbare := e.bare (by simpa using h)
    by_cases hv : e.value.toList = []
    · rw [hv]
      cases tail with
      | none => exact .nil
      | some rest => exact .cons (by decide)
    · exact .append hv hbare.blank

/-! ## Reading the list -/

theorem elements_of_readElement {cs v : List Char} {tail : Option (List Char)}
    (h : readElement (trimStart cs) = (v, tail)) :
    elements cs = v :: (tail.map elements).getD [] := by
  rw [elements]
  split
  · next hnone =>
    rw [h] at hnone ⊢
    subst hnone
    rfl
  · next rest hsome =>
    rw [h] at hsome ⊢
    subst hsome
    rfl

theorem elements_text (e : ListElement) (tail : Option (List Char)) :
    elements (e.text ++ afterElement tail) = e.value.toList :: (tail.map elements).getD [] := by
  refine elements_of_readElement ?_
  rw [ListElement.text, List.append_assoc, trimStart_blanks_append e.blanks,
    trimStart_of_stops (stops_literal e tail)]
  exact readElement_literal e tail

/-- **The elements of a written list are the ones found in it.** -/
theorem elements_recordText (e : ListElement) (es : List ListElement) :
    elements (recordText (e :: es)) = (e :: es).map (·.value.toList) := by
  induction es generalizing e with
  | nil =>
    have h := elements_text e none
    rw [afterElement, List.append_nil] at h
    simpa [recordText] using h
  | cons d es ih =>
    have hrecord : recordText (e :: d :: es) = e.text ++ afterElement (some (recordText (d :: es))) := by
      simp [recordText, afterElement]
    rw [hrecord, elements_text, Option.map_some, Option.getD_some, ih d]
    rfl

/-! ## Blank lists -/

/-- Whether a list is a single element, bare and empty. -/
def isLoneEmpty : List ListElement → Bool
  | [e] => !e.quoted && e.value == ""
  | _ => false

theorem all_isBlank_literal (e : ListElement) :
    e.literal.all isBlank = (!e.quoted && e.value == "") := by
  unfold ListElement.literal
  split
  · next h => simp [h, show isBlank '"' = false by decide]
  · next h =>
    have hbare := (e.bare (by simpa using h)).blank
    by_cases hv : e.value = ""
    · simp [hv, h]
    · obtain ⟨c, cs, hcs⟩ := List.exists_cons_of_ne_nil (mt String.toList_eq_nil_iff.1 hv)
      have hc : isBlank c = false := hbare c (by rw [hcs]; rfl)
      simp [hcs, hc, hv]

/-- Something can be read between the brackets, unless the list is empty or
its only element is bare and empty. -/
theorem all_isBlank_recordText (es : List ListElement) :
    (recordText es).all isBlank = (es.isEmpty || isLoneEmpty es) := by
  match es with
  | [] => rfl
  | [e] =>
    have hgap : e.gap.all isBlank = true := List.all_eq_true.2 e.blanks
    simp [recordText, ListElement.text, hgap, all_isBlank_literal, isLoneEmpty]
  | e :: d :: es => simp [recordText, isLoneEmpty, show isBlank ',' = false by decide]

/-! ## The whole list -/

theorem stripBrackets_enclosed (cs : List Char) : stripBrackets ('[' :: (cs ++ [']'])) = cs := by
  simp [stripBrackets, dropLeading, dropTrailing]

theorem splitRecord_recordText (es : List ListElement) :
    splitRecord (recordText es) = if isLoneEmpty es then [] else es.map (·.value.toList) := by
  rw [splitRecord, all_isBlank_recordText]
  cases es with
  | nil => simp [isLoneEmpty]
  | cons e es =>
    rw [elements_recordText, List.isEmpty_cons, Bool.false_or]

/-- **A list of literals reads back as it was written**, whatever is quoted in
it and whatever blanks stand before its elements; only a lone empty element
needs its quotes. -/
theorem split_listText {typeName : String} (h : isTextualName typeName = false) (es : List ListElement) :
    split typeName (listText es) = if isLoneEmpty es then [] else es.map (·.value) := by
  have hchars : splitChars typeName (listText es).toList = splitRecord (recordText es) := by
    simp [splitChars, listText, stripBrackets_enclosed, h]
  rw [split, hchars, splitRecord_recordText]
  split
  · rfl
  · simp [Function.comp_def]

/-- A quoted element with a comma and quotes in it, a bare one with quotes
inside and a blank behind, and an empty one at the end; and an empty element
alone, bare and quoted. -/
theorem split_listText_quotes :
    isTextualName "int8" = false ∧
    split "int8" "[ \",\"\"a\"\"\",b\"c\" ,\t]" = [",\"a\"", "b\"c\" ", ""] ∧
    split "int8" "[ ]" = [] ∧ split "int8" "[\"\"]" = [""] := by
  have htype : isTextualName "int8" = false := by decide
  have hempty : Bare "".toList := ⟨by decide, .nil, by decide⟩
  have hinner : Bare "b\"c\" ".toList := ⟨by decide, .cons (by decide), by decide⟩
  let first : ListElement := ⟨[' '], ",\"a\"", true, by decide, nofun⟩
  let inner : ListElement := ⟨[], "b\"c\" ", false, by decide, fun _ => hinner⟩
  let last : ListElement := ⟨['\t'], "", false, by decide, fun _ => hempty⟩
  let lone : ListElement := ⟨[' '], "", false, by decide, fun _ => hempty⟩
  let quoted : ListElement := ⟨[], "", true, by decide, nofun⟩
  have htext : listText [first, inner, last] = "[ \",\"\"a\"\"\",b\"c\" ,\t]" := by
    simp [listText, recordText, ListElement.text, ListElement.literal, doubleQuotes, first, inner, last]
  have hlone : listText [lone] = "[ ]" := rfl
  have hquoted : listText [quoted] = "[\"\"]" := rfl
  rw [← htext, ← hlone, ← hquoted]
  exact ⟨htype, split_listText htype [first, inner, last], split_listText htype [lone],
    split_listText htype [quoted]⟩

end MessageSchema.DefaultValue
