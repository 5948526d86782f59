/-
The grammar of declarations, said without the reader: which texts write a
given constant or field. `ConstantForm` and `FieldForm` range over every
way to divide a line into type, blanks, name and the text after it, so
nothing in them says where a part ends but the kind of its characters.

That the reader accepts exactly these texts, and that a text writes at most
one constant and at most one field, is in `Reading`.
-/
import MessageSchema.Declaration.Grammar
import MessageSchema.Proofs.Text.Blank

namespace MessageSchema

open Text

/-! ## How a declaration is written -/

/-- The brackets of a marker with what stands between them. -/
def ArrayMarker.chars (m : ArrayMarker) : List Char :=
  '[' :: ((if m.bounded then ['<', '='] else []) ++ (m.size.toList ++ [']']))

/-- A marker that may be left out. -/
def ArrayMarker.optionalChars : Option ArrayMarker → List Char
  | some m => m.chars
  | none => []

namespace DeclaredType

/-- The package of a type with its slash. -/
def packageChars : Option String → List Char
  | some p => p.toList ++ ['/']
  | none => []

/-- The text of a type. -/
def chars (t : DeclaredType) : List Char :=
  packageChars t.package ++ (t.name.toList ++ ArrayMarker.optionalChars t.marker)

/-- Package and name are words, and a marker holds digits. -/
structure Valid (t : DeclaredType) : Prop where
  package : ∀ p, t.package = some p → Word p.toList
  name : Word t.name.toList
  marker : ∀ m, t.marker = some m → Digits m.size.toList

end DeclaredType

/-- The bound of a bounded text behind its sign. -/
def FieldDecl.boundChars : Option String → List Char
  | some digits => '<' :: '=' :: digits.toList
  | none => []

namespace Declaration

/-- What follows an equals sign or the name of a field: `text` without a
`#`, and perhaps a `#` and a comment. Blanks in front of it aside, the
comment stays on one line. -/
inductive Tail (text : List Char) : Option (List Char) → List Char → Prop where
  | bare (hash : '#' ∉ text) : Tail text none text
  | commented {comment : List Char} (hash : '#' ∉ text) (line : '\n' ∉ trimStart comment) :
      Tail text (some comment) (text ++ '#' :: comment)

/-- The texts that write a constant: a type, blanks, a name, an equals sign,
and the value up to the first `#`. -/
inductive ConstantForm : List Char → ConstantDecl → Prop where
  | intro {type : DeclaredType} {gap gap' rest value : List Char} {name : String}
      {comment : Option (List Char)} (htype : type.Valid) (hne : gap ≠ []) (hgap : Blanks gap)
      (hname : Word name.toList) (hgap' : Blanks gap') (htail : Tail value comment rest) :
      ConstantForm (type.chars ++ (gap ++ (name.toList ++ (gap' ++ '=' :: rest))))
        ⟨type, name, String.ofList (trim value), comment.bind nonBlank?⟩

/-- The texts that write a field: a type, perhaps a bound, blanks, a name
that goes on as far as it can, and the default up to the first `#`. A
comment needs a blank between the name and its `#`. -/
inductive FieldForm : List Char → FieldDecl → Prop where
  | intro {type : DeclaredType} {bound : Option String} {gap rest default : List Char} {name : String}
      {comment : Option (List Char)} (htype : type.Valid)
      (hbound : ∀ digits, bound = some digits → Digits digits.toList) (hne : gap ≠ [])
      (hgap : Blanks gap) (hname : Word name.toList) (hstop : Stops isWordChar rest)
      (htail : Tail default comment rest)
      (hblank : comment ≠ none → ∃ c, default.getLast? = some c ∧ isBlank c = true) :
      FieldForm (type.chars ++ (FieldDecl.boundChars bound ++ (gap ++ (name.toList ++ rest))))
        ⟨type, bound, name, nonBlank? default, comment.bind nonBlank?⟩

/-! ## Words, digits and markers -/

theorem readWord?_eq_some_iff {cs rest : List Char} {w : String} :
    readWord? cs = some (w, rest) ↔ cs = w.toList ++ rest ∧ Word w.toList ∧ Stops isWordChar rest := by
  have hspan := @span_eq_iff Char isWordChar cs w.toList rest
  unfold readWord?
  constructor
  · intro h
    split at h
    · cases h
    · next hne =>
      simp only [Option.some.injEq, Prod.mk.injEq] at h
      obtain ⟨rfl, rfl⟩ := h
      rw [String.toList_ofList] at hspan ⊢
      obtain ⟨hcs, hw, hs⟩ := hspan.1 ⟨rfl, rfl⟩
      exact ⟨hcs, ⟨hne, hw⟩, hs⟩
  · intro h
    obtain ⟨hcs, hw, hs⟩ := h
    obtain ⟨htake, hdrop⟩ := hspan.2 ⟨hcs, hw.2, hs⟩
    split
    · next h => exact absurd (htake ▸ h) hw.1
    · rw [htake, hdrop, String.ofList_toList]

theorem readDigits_eq_iff {cs rest : List Char} {d : String} :
    readDigits cs = (d, rest) ↔ cs = d.toList ++ rest ∧ Digits d.toList ∧ Stops isDecimalDigit rest := by
  rw [Digits, ← span_eq_iff, readDigits, Prod.mk.injEq, ← String.toList_inj, String.toList_ofList]

theorem closeMarker?_eq_some_iff {bounded : Bool} {cs rest : List Char} {m : Option ArrayMarker} :
    closeMarker? bounded cs = some (m, rest) ↔
      ∃ size : String, m = some ⟨bounded, size⟩ ∧ Digits size.toList ∧ cs = size.toList ++ ']' :: rest := by
  constructor
  · intro h
    unfold closeMarker? at h
    split at h
    · next size rest' hread =>
      simp only [Option.some.injEq, Prod.mk.injEq] at h
      obtain ⟨rfl, rfl⟩ := h
      obtain ⟨hcs, hd, -⟩ := readDigits_eq_iff.1 hread
      exact ⟨size, rfl, hd, hcs⟩
    · cases h
  · intro h
    obtain ⟨size, rfl, hd, hcs⟩ := h
    have hread : readDigits cs = (size, ']' :: rest) :=
      readDigits_eq_iff.2 ⟨hcs, hd, .cons (by decide)⟩
    rw [closeMarker?, hread]
    rfl

/-- A marker is read as it is written. -/
theorem readMarker?_chars {m : ArrayMarker} (h : Digits m.size.toList) (rest : List Char) :
    readMarker? (m.chars ++ rest) = some (some m, rest) := by
  obtain ⟨bounded, size⟩ := m
  cases bounded with
  | true =>
    show closeMarker? true ((size.toList ++ [']']) ++ rest) = _
    rw [closeMarker?_eq_some_iff]
    exact ⟨size, rfl, h, by simp⟩
  | false =>
    have hclose : closeMarker? false ((size.toList ++ [']']) ++ rest) = some (some ⟨false, size⟩, rest) :=
      closeMarker?_eq_some_iff.2 ⟨size, rfl, h, by simp⟩
    rw [show ArrayMarker.chars ⟨false, size⟩ ++ rest = '[' :: ((size.toList ++ [']']) ++ rest) from rfl]
    unfold readMarker?
    split
    · -- A marker without bound cannot start like one with a bound: `<` is no digit.
      next cs heq =>
      simp only [List.cons.injEq, true_and] at heq
      cases hs : size.toList with
      | nil => simp [hs] at heq
      | cons c cs' =>
        rw [hs] at heq h
        simp only [List.cons_append, List.cons.injEq] at heq
        have hc := h c (by simp)
        rw [heq.1] at hc
        exact absurd hc (by decide)
    · next cs _ heq =>
      simp only [List.cons.injEq, true_and] at heq
      rw [← heq]
      exact hclose
    · next cs _ hno => exact absurd rfl (hno _)

theorem readMarker?_none {rest : List Char} (h : rest.head? ≠ some '[') :
    readMarker? rest = some (none, rest) := by
  unfold readMarker?
  split
  · exact absurd rfl h
  · exact absurd rfl h
  · rfl

theorem of_readMarker? {cs rest : List Char} {m : Option ArrayMarker}
    (h : readMarker? cs = some (m, rest)) :
    cs = ArrayMarker.optionalChars m ++ rest ∧ ∀ k, m = some k → Digits k.size.toList := by
  unfold readMarker? at h
  split at h
  · obtain ⟨size, rfl, hd, rfl⟩ := closeMarker?_eq_some_iff.1 h
    refine ⟨by simp [ArrayMarker.optionalChars, ArrayMarker.chars], ?_⟩
    intro k hk
    cases hk
    exact hd
  · obtain ⟨size, rfl, hd, rfl⟩ := closeMarker?_eq_some_iff.1 h
    refine ⟨by simp [ArrayMarker.optionalChars, ArrayMarker.chars], ?_⟩
    intro k hk
    cases hk
    exact hd
  · simp only [Option.some.injEq, Prod.mk.injEq] at h
    obtain ⟨rfl, rfl⟩ := h
    exact ⟨rfl, by simp⟩

/-! ## Types -/

/-- Whether a character could go on a type that has no marker yet. -/
def goesOnType (c : Char) : Bool :=
  isWordChar c || c == '/' || c == '['

theorem stops_isWordChar {cs : List Char} (h : Stops goesOnType cs) :
    Stops isWordChar cs := by
  intro c hc
  have := h c hc
  simp only [goesOnType, Bool.or_eq_false_iff] at this
  exact this.1.1

theorem head?_ne_of_stops {cs : List Char} {c : Char} (h : Stops goesOnType cs)
    (hc : goesOnType c = true) : cs.head? ≠ some c := by
  intro hcs
  rw [h c hcs] at hc
  cases hc

/-- A type is read as it is written when nothing after it could belong to
it. -/
theorem readType?_chars {t : DeclaredType} {rest : List Char} (ht : t.Valid)
    (hrest : Stops goesOnType rest) : readType? (t.chars ++ rest) = some (t, rest) := by
  obtain ⟨package, name, marker⟩ := t
  have hmarker : readMarker? (ArrayMarker.optionalChars marker ++ rest) = some (marker, rest) := by
    cases marker with
    | none => exact readMarker?_none (head?_ne_of_stops hrest (by decide))
    | some m => exact readMarker?_chars (ht.marker m rfl) rest
  -- Neither a marker nor the text after the type starts with a word or a slash.
  have hnext : ∀ c, (ArrayMarker.optionalChars marker ++ rest).head? = some c →
      isWordChar c = false ∧ c ≠ '/' := by
    intro c hc
    cases marker with
    | none =>
      refine ⟨stops_isWordChar hrest c hc, ?_⟩
      rintro rfl
      exact head?_ne_of_stops hrest (by decide) hc
    | some m =>
      have hc : '[' = c := by simpa [ArrayMarker.optionalChars, ArrayMarker.chars] using hc
      subst hc
      decide
  have hname : readWord? (name.toList ++ (ArrayMarker.optionalChars marker ++ rest)) =
      some (name, ArrayMarker.optionalChars marker ++ rest) :=
    readWord?_eq_some_iff.2 ⟨rfl, ht.name, fun c hc => (hnext c hc).1⟩
  cases package with
  | none =>
    simp only [DeclaredType.chars, DeclaredType.packageChars, List.nil_append, List.append_assoc]
    simp only [readType?, hname, Option.bind_eq_bind, Option.bind_some]
    split
    · next heq => exact absurd rfl (hnext '/' (by rw [heq]; rfl)).2
    · rw [hmarker]
      rfl
  | some p =>
    have hp : readWord? (p.toList ++ '/' :: (name.toList ++ (ArrayMarker.optionalChars marker ++ rest))) =
        some (p, '/' :: (name.toList ++ (ArrayMarker.optionalChars marker ++ rest))) :=
      readWord?_eq_some_iff.2 ⟨rfl, ht.package p rfl, .cons (by decide)⟩
    simp only [DeclaredType.chars, DeclaredType.packageChars, List.append_assoc, List.cons_append,
      List.nil_append]
    simp only [readType?, hp, hname, hmarker, Option.bind_eq_bind, Option.bind_some]
    rfl

theorem of_readType? {cs rest : List Char} {t : DeclaredType} (h : readType? cs = some (t, rest)) :
    t.Valid ∧ cs = t.chars ++ rest := by
  simp only [readType?, Option.bind_eq_bind, Option.bind_eq_some_iff] at h
  obtain ⟨⟨word, r⟩, hword, h⟩ := h
  obtain ⟨rfl, hw, -⟩ := readWord?_eq_some_iff.1 hword
  split at h
  · next r' hr =>
    simp only [Option.bind_eq_some_iff, Option.pure_def, Option.some.injEq, Prod.mk.injEq] at h
    obtain ⟨⟨name, r₁⟩, hname, ⟨marker, r₂⟩, hmarker, rfl, rfl⟩ := h
    obtain ⟨rfl, hn, -⟩ := readWord?_eq_some_iff.1 hname
    obtain ⟨rfl, hd⟩ := of_readMarker? hmarker
    have hr : r = '/' :: (name.toList ++ (ArrayMarker.optionalChars marker ++ r₂)) := hr
    refine ⟨⟨?_, hn, hd⟩, by simp [DeclaredType.chars, DeclaredType.packageChars, hr]⟩
    intro p hp
    cases hp
    exact hw
  · simp only [Option.bind_eq_some_iff, Option.pure_def, Option.some.injEq, Prod.mk.injEq] at h
    obtain ⟨⟨marker, r₂⟩, hmarker, rfl, rfl⟩ := h
    obtain ⟨rfl, hd⟩ := of_readMarker? hmarker
    exact ⟨⟨by simp, hw, hd⟩, by simp [DeclaredType.chars, DeclaredType.packageChars]⟩

/-! ## Names and what follows them -/

theorem readName?_eq_some_iff {cs rest : List Char} {name : String} :
    readName? cs = some (name, rest) ↔
      ∃ gap, cs = gap ++ (name.toList ++ rest) ∧ gap ≠ [] ∧ Blanks gap ∧ Word name.toList ∧
        Stops isWordChar rest := by
  constructor
  · intro h
    unfold readName? at h
    split at h
    · cases h
    · next c cs =>
      split at h
      · next hc =>
        obtain ⟨hcs, hw, hs⟩ := readWord?_eq_some_iff.1 h
        refine ⟨c :: cs.takeWhile isBlank, ?_, by simp, ?_, hw, hs⟩
        · rw [← hcs, List.cons_append]
          exact congrArg (c :: ·) List.takeWhile_append_dropWhile.symm
        · intro d hd
          rcases List.mem_cons.1 hd with rfl | hd
          · exact hc
          · exact List.mem_takeWhile_imp hd
      · cases h
  · intro h
    obtain ⟨gap, rfl, hne, hgap, hw, hs⟩ := h
    cases gap with
    | nil => exact absurd rfl hne
    | cons c gap =>
      have hgap' : Blanks gap := fun d hd => hgap d (List.mem_cons_of_mem c hd)
      have htrim : trimStart (gap ++ (name.toList ++ rest)) = name.toList ++ rest := by
        rw [trimStart_blanks_append hgap', trimStart_of_stops hw.stops_isBlank]
      rw [List.cons_append, readName?, if_pos (hgap c (by simp)), htrim]
      exact readWord?_eq_some_iff.2 ⟨rfl, hw, hs⟩

theorem readBound_eq_iff {cs rest : List Char} {bound : Option String} (hrest : Stops isDecimalDigit rest)
    (hsign : rest.head? ≠ some '<') :
    readBound cs = (bound, rest) ↔
      cs = FieldDecl.boundChars bound ++ rest ∧ ∀ digits, bound = some digits → Digits digits.toList := by
  constructor
  · intro h
    unfold readBound at h
    split at h
    · next cs =>
      simp only [Prod.mk.injEq] at h
      obtain ⟨rfl, rfl⟩ := h
      have hread : readDigits cs = ((readDigits cs).1, (readDigits cs).2) := rfl
      obtain ⟨hcs, hd, -⟩ := readDigits_eq_iff.1 hread
      refine ⟨congrArg ('<' :: '=' :: ·) hcs, ?_⟩
      intro digits hdigits
      cases hdigits
      exact hd
    · simp only [Prod.mk.injEq] at h
      obtain ⟨rfl, rfl⟩ := h
      exact ⟨rfl, by simp⟩
  · intro h
    obtain ⟨rfl, hd⟩ := h
    cases bound with
    | some digits =>
      have hread : readDigits (digits.toList ++ rest) = (digits, rest) :=
        readDigits_eq_iff.2 ⟨rfl, hd digits rfl, hrest⟩
      show (some (readDigits (digits.toList ++ rest)).1, (readDigits (digits.toList ++ rest)).2) = _
      rw [hread]
    | none =>
      show readBound rest = (none, rest)
      unfold readBound
      split
      · exact absurd rfl hsign
      · rfl

theorem splitComment?_eq_some_iff {cs before : List Char} {comment : Option (List Char)} :
    splitComment? cs = some (before, comment) ↔
      ∃ c, Tail before c cs ∧ comment = c.map trimStart := by
  constructor
  · intro h
    unfold splitComment? at h
    have hhash : '#' ∉ cs.takeWhile (· ≠ '#') := fun hmem => by
      simpa using List.mem_takeWhile_imp hmem
    have hcs := List.takeWhile_append_dropWhile (p := (· ≠ '#')) (l := cs)
    simp only at h
    split at h
    · next hdrop =>
      simp only [Option.some.injEq, Prod.mk.injEq] at h
      obtain ⟨rfl, rfl⟩ := h
      rw [hdrop, List.append_nil] at hcs
      refine ⟨none, ?_, rfl⟩
      rw [hcs] at hhash ⊢
      exact .bare hhash
    · next d after hdrop =>
      split at h
      · cases h
      · next hline =>
        simp only [Option.some.injEq, Prod.mk.injEq] at h
        obtain ⟨rfl, rfl⟩ := h
        have hd : d = '#' := by
          have := Stops.dropWhile (· ≠ '#') cs d (by rw [hdrop]; rfl)
          simpa using this
        subst hd
        refine ⟨some after, ?_, rfl⟩
        rw [hdrop] at hcs
        conv => arg 3; rw [← hcs]
        exact .commented hhash hline
  · intro h
    obtain ⟨c, htail, rfl⟩ := h
    have hp : '#' ∉ before → ∀ d ∈ before, decide (d ≠ '#') = true := by
      intro hhash d hd
      simp only [decide_eq_true_eq]
      rintro rfl
      exact hhash hd
    cases htail with
    | bare hash =>
      obtain ⟨htake, hdrop⟩ := span_eq_iff.2 ⟨(List.append_nil cs).symm, hp hash, .nil⟩
      simp only [splitComment?, htake, hdrop]
      rfl
    | @commented after hash line =>
      have hstop : Stops (fun d => decide (d ≠ '#')) ('#' :: after) := .cons (by simp)
      obtain ⟨htake, hdrop⟩ := span_eq_iff.2 ⟨rfl, hp hash, hstop⟩
      simp only [splitComment?, htake, hdrop, if_neg line]
      rfl

end Declaration

end MessageSchema
