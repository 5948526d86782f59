/-
Bounds and quoted defaults. Only texts may be bounded, and only the defaults
of texts are quoted; but what counts as a text is told by name, and the
canonical name of the wide text type is no keyword. So a type of that name is
bounded and quoted like a text although it is none: `read_textual` says that
this is the only such type.
-/
import MessageSchema.Proofs.Field.Rendering
import MessageSchema.Proofs.Field.Resolution

namespace MessageSchema

open Text

/-! ## Names of texts -/

theorem isTextualName_iff {name : String} :
    isTextualName name = true ↔
      name ∈ [Primitive.string.keyword, Primitive.wstring.keyword, Primitive.wstring.canonical] := by
  simp [isTextualName, Primitive.keyword, Primitive.canonical, or_assoc]

namespace ResolvedType

/-- Whether the type is one of the two scalars that hold text. -/
def IsText (r : ResolvedType) : Prop :=
  r.primitive = some .string ∨ r.primitive = some .wstring

instance (r : ResolvedType) : Decidable r.IsText :=
  inferInstanceAs (Decidable (_ ∨ _))

variable {config : Config} {metadata : Metadata} {package : Option String} {typeName : String}

/-- A name that is no keyword and counts as a text is the canonical name of
the wide text type. -/
theorem eq_canonical_of_isTextualName (htextual : isTextualName typeName = true)
    (keyword : Primitive.ofKeyword? typeName = none) : typeName = Primitive.wstring.canonical := by
  have hmem := isTextualName_iff.1 htextual
  simp only [List.mem_cons, List.not_mem_nil, or_false] at hmem
  rcases hmem with rfl | rfl | h
  · rw [Primitive.ofKeyword?_keyword] at keyword
    cases keyword
  · rw [Primitive.ofKeyword?_keyword] at keyword
    cases keyword
  · exact h

/-- A type that is written or resolved under the name of a text is a text,
with one exception. -/
theorem isText_iff (h : isTextualName typeName = true ∨
      isTextualName (resolve config metadata package typeName).name = true) :
    (resolve config metadata package typeName).IsText ↔ typeName ≠ Primitive.wstring.canonical := by
  have hcases := resolve_cases config metadata package typeName
  generalize resolve config metadata package typeName = r at hcases h ⊢
  -- Outside of the scalars the resolved name is the written one.
  have hother : ∀ {r : ResolvedType}, r.name = typeName → r.primitive = none →
      Primitive.ofKeyword? typeName = none →
      isTextualName typeName = true ∨ isTextualName r.name = true →
      (r.IsText ↔ typeName ≠ Primitive.wstring.canonical) := by
    intro r hname hscalar keyword h
    have hcanonical : typeName = Primitive.wstring.canonical := by
      rw [hname, or_self] at h
      exact eq_canonical_of_isTextualName h keyword
    simp [IsText, hscalar, hcanonical]
  cases hcases with
  | @scalar p keyword =>
    rw [Primitive.ofKeyword?_eq_some_iff] at keyword
    subst keyword
    revert h
    cases p <;> decide
  | sibling keyword own => exact hother rfl rfl keyword h
  | written keyword qualified other => exact hother rfl rfl keyword h
  | vocabulary keyword unqualified common => exact hother rfl rfl keyword h

end ResolvedType

/-! ## Defaults -/

namespace DefaultValue

/-- A default whose literals are kept as written. -/
def plain (array : ArrayKind) (text : String) : DefaultValue :=
  if array.isArray then .list ((splitRecord (stripBrackets text.toList)).map String.ofList)
  else .scalar text

theorem of_eq_plain {typeName : String} (h : isTextualName typeName = false) (array : ArrayKind)
    (text : String) : of array typeName text = plain array text := by
  unfold of plain
  split
  · simp only [split, splitChars, h]
    rfl
  · simp only [normalize, normalizeChars, h, Bool.false_eq_true, if_false, String.ofList_toList]

end DefaultValue

namespace Builder

/-! ## Bounds -/

/-- A bound on a type that is no text is a fault of the whole line, unless
the marker before it is at fault. -/
theorem field_of_bound (b : Builder) (line : Nat) (text : String) {digits : String} {decl : FieldDecl}
    (hbound : decl.stringBound = some digits) (hno : isTextualName decl.type.name = false) :
    (∃ array, ArrayKind.ofMarker line decl.type.marker = .ok array) ∧
        b.field line text decl = .error (.malformed line text) ∨
      ∃ m, decl.type.marker = some m ∧
        ArrayKind.ofMarker line decl.type.marker = .error (.invalidSize line m.size) ∧
        b.field line text decl = .error (.invalidSize line m.size) := by
  have hrefused : stringBound line text decl = .error (.malformed line text) := by
    simp only [stringBound, hbound, hno]
    rfl
  cases hmarker : ArrayKind.ofMarker line decl.type.marker with
  | ok array =>
    refine .inl ⟨⟨array, rfl⟩, ?_⟩
    rw [field, hmarker, hrefused]
    rfl
  | error e =>
    obtain ⟨m, hm, rfl⟩ := ofMarker_eq_error hmarker
    refine .inr ⟨m, hm, rfl, ?_⟩
    rw [field, hmarker]
    rfl

/-- **Bounds and quoted defaults belong to texts.** In whatever state a line
is read, a field with a bound, or with a default that is not kept as written,
has the type of a text, unless its type is written as the canonical name of
the wide text type; and a bound on any type that has not the name of a text
is a fault. -/
theorem read_textual (b : Builder) (line : Nat) (text : String) :
    (∀ f b', b.read line text = .ok (.field f, b') →
      f.stringBound ≠ none ∨ f.defaultValue ≠ f.defaultText.map (.plain f.array) →
      (f.resolved.IsText ↔ f.typeToken ≠ Primitive.wstring.canonical)) ∧
    ∀ decl digits, LineContent.of (trimmed text) = .declaration (.field decl) →
      decl.stringBound = some digits →
      decl.type.name ∉ [Primitive.string.keyword, Primitive.wstring.keyword, Primitive.wstring.canonical] →
      (∃ array, ArrayKind.ofMarker line decl.type.marker = .ok array) ∧
          b.read line text = .error (.malformed line (trimmed text)) ∨
        ∃ m, decl.type.marker = some m ∧
          ArrayKind.ofMarker line decl.type.marker = .error (.invalidSize line m.size) ∧
          b.read line text = .error (.invalidSize line m.size) := by
  constructor
  · intro f b' hread huses
    obtain ⟨decl, content, built⟩ := read_eq_field hread
    obtain ⟨array, bound, harray, hbound, rfl⟩ := field_eq_ok_iff.1 built
    refine ResolvedType.isText_iff ?_
    rcases huses with hsome | hquoted
    · obtain ⟨n, hn⟩ := Option.ne_none_iff_exists'.1 hsome
      exact .inl ((stringBound_eq_ok hbound).2 n hn).2
    · refine .inr ?_
      rw [← Bool.not_eq_false]
      intro hno
      refine hquoted ?_
      cases decl.defaultText with
      | none => rfl
      | some t => exact congrArg some (DefaultValue.of_eq_plain hno array t)
  · intro decl digits content hbound hname
    have hno : isTextualName decl.type.name = false := by
      rw [← Bool.not_eq_true, isTextualName_iff]
      exact hname
    rcases field_of_bound b line (trimmed text) hbound hno with
      ⟨harray, hfield⟩ | ⟨m, hm, hmarker, hfield⟩
    · exact .inl ⟨harray, read_eq_error content hfield⟩
    · exact .inr ⟨m, hm, hmarker, read_eq_error content hfield⟩

/-- A wide text with a bound and a quoted default, and a bound on a number. -/
theorem read_textual_wide :
    (∃ f b', (start .standard (.message "p" "M")).read 1 "wstring<=3 w 'a'" = .ok (.field f, b') ∧
      f.stringBound = some 3 ∧ f.defaultValue = some (.scalar "\"a\"") ∧ f.resolved.IsText) ∧
    (start .standard (.message "p" "M")).read 1 "int8<=5 x" = .error (.malformed 1 "int8<=5 x") := by
  constructor
  · obtain ⟨hfield, -⟩ := read_textual (start .standard (.message "p" "M")) 1 "wstring<=3 w 'a'"
    exact ⟨_, _, rfl, rfl, rfl, (hfield _ _ rfl (.inl (by decide))).2 (by decide)⟩
  · obtain ⟨-, hbound⟩ := read_textual (start .standard (.message "p" "M")) 1 "int8<=5 x"
    rcases hbound ⟨⟨none, "int8", none⟩, some "5", "x", none, none⟩ "5" rfl rfl (by decide) with
      ⟨-, hread⟩ | ⟨m, hm, -⟩
    · exact hread
    · cases hm

/-- The canonical name of the wide text type, written as a type: it is bounded
and its default is quoted, and it names no scalar. -/
theorem read_bounded_no_text :
    ∃ f b', (start .standard (.message "p" "M")).read 1 "U16String<=5 x a" = .ok (.field f, b') ∧
      f.stringBound = some 5 ∧ f.defaultText = some "a" ∧ f.defaultValue = some (.scalar "\"a\"") ∧
      f.resolved.primitive = none :=
  ⟨_, _, rfl, rfl, rfl, rfl, rfl⟩

end Builder

end MessageSchema
