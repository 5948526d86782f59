/-
The line reader accepts exactly the grammar of `Form`. `readConstant?` and
`readField?` each find the one declaration that a text writes, whatever way
of dividing the text shows that it writes one; the reader of lines puts the
two together with the rule that a constant comes first.
-/
import MessageSchema.Proofs.Declaration.Form

namespace MessageSchema.Declaration

open Text

/-! ## Where a part has to end -/

theorem goesOnType_of_isBlank {c : Char} (h : isBlank c = true) : goesOnType c = false :=
  of_isBlank (P := fun c => goesOnType c = false) h (by decide)

variable {gap cs : List Char}

theorem stops_of_blanks {p : Char → Bool} (hne : gap ≠ []) (hgap : Blanks gap)
    (hp : ∀ c, isBlank c = true → p c = false) : Stops p (gap ++ cs) :=
  .append hne fun c hc => hp c (hgap c (List.mem_of_mem_head? hc))

theorem head?_ne_of_blanks {c : Char} (hne : gap ≠ []) (hgap : Blanks gap) (hc : isBlank c = false) :
    (gap ++ cs).head? ≠ some c := by
  intro h
  rw [List.head?_append_of_ne_nil gap hne] at h
  rw [hgap c (List.mem_of_mem_head? h)] at hc
  cases hc

/-- Blanks or none in front of an equals sign end a name. -/
theorem stops_blanks_equals (hgap : Blanks gap) : Stops isWordChar (gap ++ '=' :: cs) := by
  by_cases hne : gap = []
  · rw [hne]
    exact .cons (by decide)
  · exact hgap.stops_isWordChar hne

/-- A bound or a blank ends a type. -/
theorem stops_bound {bound : Option String} (hne : gap ≠ []) (hgap : Blanks gap) :
    Stops goesOnType (FieldDecl.boundChars bound ++ (gap ++ cs)) := by
  cases bound with
  | none =>
    show Stops goesOnType (gap ++ cs)
    exact stops_of_blanks hne hgap fun _ => goesOnType_of_isBlank
  | some digits => exact .cons (by decide)

/-! ## Constants -/

theorem bind_nonBlank?_map_trimStart (comment : Option (List Char)) :
    (comment.map trimStart).bind nonBlank? = comment.bind nonBlank? := by
  cases comment with
  | none => rfl
  | some c => exact nonBlank?_trimStart c

theorem ConstantForm.of_readConstant? {d : ConstantDecl} (h : readConstant? cs = some d) :
    ConstantForm cs d := by
  simp only [readConstant?, Option.bind_eq_bind, Option.bind_eq_some_iff] at h
  obtain ⟨⟨type, r⟩, htype, ⟨name, r'⟩, hname, h⟩ := h
  obtain ⟨hvalid, rfl⟩ := of_readType? htype
  obtain ⟨gap, rfl, hne, hgap, hw, -⟩ := readName?_eq_some_iff.1 hname
  split at h
  · next rest hrest =>
    have hrest : trimStart r' = '=' :: rest := hrest
    simp only [Option.bind_eq_some_iff, Option.pure_def, Option.some.injEq] at h
    obtain ⟨⟨value, comment⟩, hsplit, rfl⟩ := h
    obtain ⟨comment, htail, rfl⟩ := splitComment?_eq_some_iff.1 hsplit
    have hr' : r' = r'.takeWhile isBlank ++ '=' :: rest := by
      rw [← hrest]
      exact List.takeWhile_append_dropWhile.symm
    rw [hr', bind_nonBlank?_map_trimStart]
    exact .intro hvalid hne hgap hw (fun c hc => List.mem_takeWhile_imp hc) htail
  · cases h

theorem ConstantForm.read {d : ConstantDecl} (h : ConstantForm cs d) :
    readConstant? cs = some d := by
  cases h with
  | @intro type gap gap' rest value name comment htype hne hgap hname hgap' htail =>
    have hread : readType? (type.chars ++ (gap ++ (name.toList ++ (gap' ++ '=' :: rest)))) =
        some (type, gap ++ (name.toList ++ (gap' ++ '=' :: rest))) :=
      readType?_chars htype (stops_of_blanks hne hgap fun _ => goesOnType_of_isBlank)
    have hreadName : readName? (gap ++ (name.toList ++ (gap' ++ '=' :: rest))) =
        some (name, gap' ++ '=' :: rest) :=
      readName?_eq_some_iff.2 ⟨gap, rfl, hne, hgap, hname, stops_blanks_equals hgap'⟩
    have htrim : trimStart (gap' ++ '=' :: rest) = '=' :: rest := by
      rw [trimStart_blanks_append hgap', trimStart_of_stops (.cons (by decide))]
    have hsplit : splitComment? rest = some (value, comment.map trimStart) :=
      splitComment?_eq_some_iff.2 ⟨comment, htail, rfl⟩
    simp only [readConstant?, hread, hreadName, htrim, hsplit, Option.bind_eq_bind,
      Option.bind_some, Option.pure_def, bind_nonBlank?_map_trimStart]

/-- A text is read as a constant exactly when it writes that constant. -/
theorem readConstant?_eq_some_iff {d : ConstantDecl} :
    readConstant? cs = some d ↔ ConstantForm cs d :=
  ⟨.of_readConstant?, fun h => h.read⟩

/-- A text writes at most one constant. -/
theorem ConstantForm.unique {d d' : ConstantDecl} (h : ConstantForm cs d) (h' : ConstantForm cs d') :
    d = d' :=
  Option.some.inj (h.read.symm.trans h'.read)

theorem readConstant?_eq_none_iff : readConstant? cs = none ↔ ¬ ∃ d, ConstantForm cs d := by
  rw [Option.eq_none_iff_forall_not_mem]
  constructor
  · intro h hform
    obtain ⟨d, hd⟩ := hform
    exact h d hd.read
  · intro h d hd
    exact h ⟨d, .of_readConstant? hd⟩

/-! ## Fields -/

/-- The blank that a comment needs, as the reader looks for it. -/
theorem blank_before_comment_iff {default : List Char} {comment : Option (List Char)} :
    (¬ ((comment.map trimStart).isSome = true ∧ default.getLast?.any isBlank = false)) ↔
      (comment ≠ none → ∃ c, default.getLast? = some c ∧ isBlank c = true) := by
  cases comment with
  | none => simp
  | some comment => cases default.getLast? <;> simp

theorem FieldForm.of_readField? {d : FieldDecl} (h : readField? cs = some d) : FieldForm cs d := by
  simp only [readField?, Option.bind_eq_bind, Option.bind_eq_some_iff] at h
  obtain ⟨⟨type, r⟩, htype, ⟨name, rest⟩, hname, ⟨default, comment⟩, hsplit, h⟩ := h
  obtain ⟨hvalid, rfl⟩ := of_readType? htype
  obtain ⟨gap, hgapEq, hne, hgap, hw, hstop⟩ := readName?_eq_some_iff.1 hname
  obtain ⟨comment, htail, rfl⟩ := splitComment?_eq_some_iff.1 hsplit
  obtain ⟨bound, hbound⟩ : ∃ bound, readBound r = (bound, gap ++ (name.toList ++ rest)) :=
    ⟨(readBound r).1, Prod.ext rfl hgapEq⟩
  obtain ⟨hr, hdigits⟩ := (readBound_eq_iff (stops_of_blanks hne hgap fun _ => isDecimalDigit_of_isBlank)
    (head?_ne_of_blanks hne hgap (by decide))).1 hbound
  split at h
  · cases h
  · next hblank =>
    simp only [Option.pure_def, Option.some.injEq] at h
    rw [← h, bind_nonBlank?_map_trimStart, hbound, hr]
    exact .intro hvalid hdigits hne hgap hw hstop htail (blank_before_comment_iff.1 hblank)

theorem FieldForm.read {d : FieldDecl} (h : FieldForm cs d) : readField? cs = some d := by
  cases h with
  | @intro type bound gap rest default name comment htype hbound hne hgap hname hstop htail hblank =>
    have hread : readType? (type.chars ++ (FieldDecl.boundChars bound ++ (gap ++ (name.toList ++ rest)))) =
        some (type, FieldDecl.boundChars bound ++ (gap ++ (name.toList ++ rest))) :=
      readType?_chars htype (stops_bound hne hgap)
    have hreadBound : readBound (FieldDecl.boundChars bound ++ (gap ++ (name.toList ++ rest))) =
        (bound, gap ++ (name.toList ++ rest)) :=
      (readBound_eq_iff (stops_of_blanks hne hgap fun _ => isDecimalDigit_of_isBlank)
        (head?_ne_of_blanks hne hgap (by decide))).2 ⟨rfl, hbound⟩
    have hreadName : readName? (gap ++ (name.toList ++ rest)) = some (name, rest) :=
      readName?_eq_some_iff.2 ⟨gap, rfl, hne, hgap, hname, hstop⟩
    have hsplit : splitComment? rest = some (default, comment.map trimStart) :=
      splitComment?_eq_some_iff.2 ⟨comment, htail, rfl⟩
    simp only [readField?, hread, hreadBound, hreadName, hsplit, Option.bind_eq_bind,
      Option.bind_some, if_neg (blank_before_comment_iff.2 hblank), Option.pure_def,
      bind_nonBlank?_map_trimStart]

/-- A text is read as a field exactly when it writes that field. -/
theorem readField?_eq_some_iff {d : FieldDecl} : readField? cs = some d ↔ FieldForm cs d :=
  ⟨.of_readField?, fun h => h.read⟩

/-- A text writes at most one field. -/
theorem FieldForm.unique {d d' : FieldDecl} (h : FieldForm cs d) (h' : FieldForm cs d') : d = d' :=
  Option.some.inj (h.read.symm.trans h'.read)

/-! ## Lines -/

theorem read?_constant_iff {line : String} {d : ConstantDecl} :
    read? line = some (.constant d) ↔ ConstantForm line.toList d := by
  rw [← readConstant?_eq_some_iff, read?]
  cases readConstant? line.toList with
  | some c => simp
  | none => simp

theorem read?_field_iff {line : String} {d : FieldDecl} :
    read? line = some (.field d) ↔ (¬ ∃ c, ConstantForm line.toList c) ∧ FieldForm line.toList d := by
  rw [← readConstant?_eq_none_iff, ← readField?_eq_some_iff, read?]
  cases readConstant? line.toList with
  | some c => simp
  | none => simp

theorem read?_eq_none_iff {line : String} :
    read? line = none ↔
      (¬ ∃ c, ConstantForm line.toList c) ∧ ¬ ∃ f, FieldForm line.toList f := by
  constructor
  · intro h
    have hconstant : ¬ ∃ c, ConstantForm line.toList c := by
      intro hform
      obtain ⟨c, hc⟩ := hform
      rw [read?_constant_iff.2 hc] at h
      cases h
    refine ⟨hconstant, ?_⟩
    intro hform
    obtain ⟨f, hf⟩ := hform
    rw [read?_field_iff.2 ⟨hconstant, hf⟩] at h
    cases h
  · intro h
    obtain ⟨hconstant, hfield⟩ := h
    cases h : read? line with
    | none => rfl
    | some d =>
      cases d with
      | constant c => exact absurd ⟨c, read?_constant_iff.1 h⟩ hconstant
      | field f => exact absurd ⟨f, (read?_field_iff.1 h).2⟩ hfield

/-- **The reader accepts exactly the grammar, and what it finds is the only
way to read the line.** A line is a constant when it writes one, else a field
when it writes one, else nothing. -/
theorem read?_exact (line : String) :
    (∀ c, read? line = some (.constant c) ↔ ConstantForm line.toList c) ∧
    (∀ f, read? line = some (.field f) ↔
      (¬ ∃ c, ConstantForm line.toList c) ∧ FieldForm line.toList f) ∧
    (read? line = none ↔ (¬ ∃ c, ConstantForm line.toList c) ∧ ¬ ∃ f, FieldForm line.toList f) ∧
    (∀ c c', ConstantForm line.toList c → ConstantForm line.toList c' → c = c') ∧
    (∀ f f', FieldForm line.toList f → FieldForm line.toList f' → f = f') :=
  ⟨fun _ => read?_constant_iff, fun _ => read?_field_iff, read?_eq_none_iff,
    fun _ _ h h' => h.unique h', fun _ _ h h' => h.unique h'⟩

/-- An equals sign after the name makes a constant, but not behind a bound. -/
theorem read?_exact_equals :
    (∃ c, ConstantForm "string s =a # b".toList c ∧
      ∀ c', ConstantForm "string s =a # b".toList c' → c' = c) ∧
    ∃ f, FieldForm "string<=5 s =a # b".toList f ∧
      ∀ f', FieldForm "string<=5 s =a # b".toList f' → f' = f := by
  constructor
  · obtain ⟨hconstant, -, -, hunique, -⟩ := read?_exact "string s =a # b"
    have hform := (hconstant ⟨⟨none, "string", none⟩, "s", "a", some "b"⟩).1 (by decide)
    exact ⟨_, hform, fun c' hc' => hunique _ _ hc' hform⟩
  · obtain ⟨-, hfield, -, -, hunique⟩ := read?_exact "string<=5 s =a # b"
    have hform := ((hfield ⟨⟨none, "string", none⟩, some "5", "s", some "=a", some "b"⟩).1 (by decide)).2
    exact ⟨_, hform, fun f' hf' => hunique _ _ hf' hform⟩

end MessageSchema.Declaration
