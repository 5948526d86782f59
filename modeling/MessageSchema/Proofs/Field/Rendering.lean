/-
A field is written as it is read. `FieldDecl.Writable` is what the parts of a
declaration have to be for one line to write them, whether or not their sizes
are ones that can be read. Such a line declares just this field, and no
constant. `Field.Writable` says the same of the tokens of a field, and every
field that a line declares is so.

That no constant comes out needs care in one place only: a default may start
with an equals sign when a bound stands before it, and with a bound there is
no constant.
-/
import MessageSchema.Proofs.Builder.Step
import MessageSchema.Proofs.Declaration.Content
import MessageSchema.Proofs.Field.Size

namespace MessageSchema

open Text Declaration

/-! ## Declarations as lines -/

theorem blanks_space : Blanks [' '] := by
  simp [Blanks]
  decide

namespace FieldDecl

/-- A default behind a space. -/
def defaultChars : Option String → List Char
  | some t => [' '] ++ t.toList
  | none => []

/-- The line of a declaration without comment. -/
def chars (d : FieldDecl) : List Char :=
  d.type.chars ++ (boundChars d.stringBound ++ ([' '] ++ (d.name.toList ++ defaultChars d.defaultText)))

/-- The parts are such as one line can write. -/
structure Writable (d : FieldDecl) : Prop where
  type : d.type.Valid
  bound : ∀ digits, d.stringBound = some digits → Digits digits.toList
  name : Word d.name.toList
  default : ∀ t, d.defaultText = some t → trim t.toList = t.toList ∧ t.toList ≠ [] ∧ '#' ∉ t.toList
  equals : d.stringBound = none → ∀ t, d.defaultText = some t → t.toList.head? ≠ some '='
  comment : d.comment = none

variable {d : FieldDecl}

theorem Writable.hash_not_mem (h : d.Writable) : '#' ∉ defaultChars d.defaultText := by
  cases hd : d.defaultText with
  | none => simp [defaultChars]
  | some t =>
    simp only [defaultChars, List.mem_append, not_or]
    exact ⟨by decide, (h.default t hd).2.2⟩

theorem stops_defaultChars (t : Option String) : Stops isWordChar (defaultChars t) := by
  cases t with
  | none => exact .nil
  | some t => exact .cons (by decide)

theorem Writable.nonBlank?_defaultChars (h : d.Writable) :
    nonBlank? (defaultChars d.defaultText) = d.defaultText := by
  cases hd : d.defaultText with
  | none => rfl
  | some t =>
    obtain ⟨htrim, hne, -⟩ := h.default t hd
    rw [nonBlank?_eq_some_iff, defaultChars, trim_blanks_append blanks_space, htrim]
    exact ⟨hne, rfl⟩

theorem Writable.trimStart_defaultChars (h : d.Writable) :
    trimStart (defaultChars d.defaultText) = (d.defaultText.getD "").toList := by
  cases hd : d.defaultText with
  | none => rfl
  | some t =>
    obtain ⟨htrim, -, -⟩ := h.default t hd
    show trimStart ([' '] ++ t.toList) = t.toList
    rw [trimStart_blanks_append blanks_space, ← htrim, trimStart_of_stops (stops_trim _)]

/-- The line declares the field. -/
theorem Writable.form (h : d.Writable) : FieldForm d.chars d := by
  have hform := FieldForm.intro h.type h.bound (by simp) blanks_space h.name
    (stops_defaultChars d.defaultText) (.bare h.hash_not_mem) (by simp)
  rw [h.nonBlank?_defaultChars, Option.bind_none, ← h.comment] at hform
  exact hform

/-- The line declares no constant: behind a bound there is no name for one,
and without a bound the default does not start with an equals sign. -/
theorem Writable.not_constant (h : d.Writable) : ¬ ∃ c, ConstantForm d.chars c := by
  rw [← readConstant?_eq_none_iff, chars, readConstant?,
    readType?_chars h.type (stops_bound (by simp) blanks_space)]
  cases hbound : d.stringBound with
  | some digits =>
    have hname : ∀ cs, readName? ('<' :: cs) = none := by
      intro cs
      rw [readName?, if_neg (by decide)]
    simp only [boundChars, List.cons_append, Option.bind_eq_bind, Option.bind_some, hname, Option.bind_none]
  | none =>
    have hname : readName? ([' '] ++ (d.name.toList ++ defaultChars d.defaultText)) =
        some (d.name, defaultChars d.defaultText) :=
      readName?_eq_some_iff.2 ⟨[' '], rfl, by simp, blanks_space, h.name, stops_defaultChars d.defaultText⟩
    simp only [boundChars, List.nil_append, Option.bind_eq_bind, Option.bind_some, hname]
    split
    · next rest hrest =>
      have hrest : trimStart (defaultChars d.defaultText) = '=' :: rest := hrest
      rw [h.trimStart_defaultChars] at hrest
      cases hd : d.defaultText with
      | none =>
        rw [hd] at hrest
        cases hrest
      | some t =>
        have hhead : t.toList.head? = some '=' := by
          rw [hd] at hrest
          exact congrArg List.head? hrest
        exact absurd hhead (h.equals hbound t hd)
    · rfl

theorem Writable.head?_chars (h : d.Writable) : ∃ c, d.chars.head? = some c ∧ isWordChar c = true :=
  h.type.head?_chars _

/-- The line ends in the name or in the default, and so in no blank. -/
theorem Writable.getLast?_chars (h : d.Writable) :
    ∀ c, d.chars.getLast? = some c → isBlank c = false := by
  intro c hc
  rw [chars, ← List.append_assoc, ← List.append_assoc] at hc
  cases hd : d.defaultText with
  | none =>
    rw [hd, defaultChars, List.append_nil, List.getLast?_append_of_ne_nil _ h.name.1] at hc
    exact isBlank_of_isWordChar (h.name.2 c (List.mem_of_getLast? hc))
  | some t =>
    obtain ⟨htrim, hne, -⟩ := h.default t hd
    rw [hd, defaultChars, ← List.append_assoc, ← List.append_assoc, List.getLast?_append_of_ne_nil _ hne,
      ← htrim] at hc
    exact getLast?_trim hc

/-- **The line of a declaration declares it and nothing else.** -/
theorem Writable.content (h : d.Writable) {line : String} (hline : line.toList = d.chars) :
    LineContent.of (trimmed line) = .declaration (.field d) := by
  obtain ⟨c, hc, hw⟩ := h.head?_chars
  rw [← hline] at hc
  have hcomment : commentText? line = none := by
    refine commentText?_eq_none ?_
    rw [hc]
    intro hash
    cases hash
    exact absurd hw (by decide)
  have hne : line ≠ "" := by
    intro hempty
    rw [hempty] at hc
    cases hc
  have hstart : Stops isBlank line.toList := by
    intro c' hc'
    rw [hc] at hc'
    cases hc'
    exact isBlank_of_isWordChar hw
  have htrimmed : trimmed line = line := by
    rw [trimmed, trim_eq_self hstart (by rw [hline]; exact h.getLast?_chars), String.ofList_toList]
  have hread : read? line = some (.field d) :=
    read?_field_iff.2 (by rw [hline]; exact ⟨h.not_constant, h.form⟩)
  rw [htrimmed, LineContent.of, hcomment]
  simp only
  rw [if_neg hne, hread]

end FieldDecl

/-! ## Fields as lines -/

theorem ArrayKind.toList_text (a : ArrayKind) : a.text.toList = ArrayMarker.optionalChars a.marker := by
  cases a with
  | scalar => rfl
  | unbounded => rfl
  | fixed n => simp [text, marker, ArrayMarker.optionalChars, ArrayMarker.chars]
  | bounded n => simp [text, marker, ArrayMarker.optionalChars, ArrayMarker.chars]

namespace Field

/-- The declaration that the text of a field writes. -/
def decl (f : Field) : FieldDecl where
  type := ⟨f.packageToken, f.typeToken, f.array.marker⟩
  stringBound := f.stringBound.map Nat.repr
  name := f.name
  defaultText := f.defaultText
  comment := none

/-- The tokens are such as one line can write. -/
structure Writable (f : Field) : Prop where
  package : ∀ p, f.packageToken = some p → Word p.toList
  type : Word f.typeToken.toList
  array : f.array.Sized
  bound : ∀ n, f.stringBound = some n → n < sizeLimit ∧ isTextualName f.typeToken = true
  name : Word f.name.toList
  default : ∀ d, f.defaultText = some d → trim d.toList = d.toList ∧ d.toList ≠ [] ∧ '#' ∉ d.toList
  equals : f.stringBound = none → ∀ d, f.defaultText = some d → d.toList.head? ≠ some '='

variable {f : Field}

theorem toList_packageText (f : Field) :
    f.packageText.toList = DeclaredType.packageChars f.packageToken := by
  unfold packageText
  cases f.packageToken <;> simp [DeclaredType.packageChars]

theorem toList_boundText (f : Field) :
    f.boundText.toList = FieldDecl.boundChars (f.stringBound.map Nat.repr) := by
  unfold boundText
  cases f.stringBound <;> simp [FieldDecl.boundChars]

theorem toList_defaultSuffix (f : Field) :
    f.defaultSuffix.toList = FieldDecl.defaultChars f.defaultText := by
  unfold defaultSuffix
  cases f.defaultText <;> simp [FieldDecl.defaultChars]

/-- The text of a field is the line of its declaration. -/
theorem toList_text (f : Field) : f.text.toList = f.decl.chars := by
  simp [text, decl, FieldDecl.chars, DeclaredType.chars, toList_packageText, toList_boundText,
    toList_defaultSuffix, ArrayKind.toList_text]

theorem Writable.decl (h : f.Writable) : f.decl.Writable where
  type := ⟨h.package, h.type, f.array.digits_marker⟩
  bound := by
    intro digits hd
    obtain ⟨n, -, rfl⟩ := Option.map_eq_some_iff.1 hd
    exact digits_repr n
  name := h.name
  default := h.default
  equals hno := h.equals (Option.map_eq_none_iff.1 hno)
  comment := rfl

/-- **The text of a field is a line that declares it.** -/
theorem Writable.content (h : f.Writable) :
    LineContent.of (trimmed f.text) = .declaration (.field f.decl) :=
  h.decl.content f.toList_text

end Field

/-! ## Fields that were read -/

/-- What an equals sign at the start of the text, blanks aside, leaves for the
value of a constant. -/
theorem Declaration.Tail.after_equals {gap value rest : List Char} {comment : Option (List Char)}
    (h : Tail (gap ++ '=' :: value) comment rest) :
    ∃ rest', rest = gap ++ '=' :: rest' ∧ Tail value comment rest' := by
  cases h with
  | bare hash =>
    simp only [List.mem_append, List.mem_cons, not_or] at hash
    exact ⟨value, rfl, .bare hash.2.2⟩
  | @commented comment hash line =>
    simp only [List.mem_append, List.mem_cons, not_or] at hash
    exact ⟨value ++ '#' :: comment, by simp, .commented hash.2.2 line⟩

theorem Declaration.Tail.hash {text rest : List Char} {comment : Option (List Char)}
    (h : Tail text comment rest) : '#' ∉ text := by
  cases h <;> assumption

theorem Declaration.FieldForm.words {cs : List Char} {d : FieldDecl} (h : FieldForm cs d) :
    d.type.Valid ∧ Word d.name.toList := by
  cases h
  exact ⟨by assumption, by assumption⟩

/-- The default of a declaration is a trimmed text without a `#`. -/
theorem Declaration.FieldForm.default {cs : List Char} {d : FieldDecl} (h : FieldForm cs d) :
    ∀ t, d.defaultText = some t → trim t.toList = t.toList ∧ t.toList ≠ [] ∧ '#' ∉ t.toList := by
  cases h with
  | @intro type bound gap rest default name comment htype hbound hne hgap hname hstop htail hblank =>
    intro t ht
    obtain ⟨hnil, htext⟩ := nonBlank?_eq_some_iff.1 ht
    rw [htext]
    exact ⟨trim_trim _, hnil, fun hmem => htail.hash ((trim_sublist _).subset hmem)⟩

/-- Without a bound a default that starts with an equals sign would make the
line a constant. -/
theorem Declaration.FieldForm.default_ne_equals {cs : List Char} {d : FieldDecl} (h : FieldForm cs d)
    (hconstant : ¬ ∃ c, ConstantForm cs c) (hno : d.stringBound = none) :
    ∀ t, d.defaultText = some t → t.toList.head? ≠ some '=' := by
  cases h with
  | @intro type bound gap rest default name comment htype hbound hne hgap hname hstop htail hblank =>
    intro t ht hhead
    obtain ⟨-, htext⟩ := nonBlank?_eq_some_iff.1 ht
    obtain ⟨value, hvalue⟩ : ∃ value, trim default = '=' :: value := by
      rw [← htext]
      exact ⟨_, (List.head?_eq_some_iff.1 hhead).choose_spec⟩
    obtain ⟨gap₁, gap₂, hgap₁, -, hdefault⟩ := exists_trim default
    rw [hdefault, hvalue, List.append_assoc, List.cons_append] at htail
    obtain ⟨rest', rfl, htail'⟩ := htail.after_equals
    have hno : bound = none := hno
    subst hno
    exact hconstant ⟨_, .intro htype hne hgap hname hgap₁ htail'⟩

namespace Field

/-- What the line of a field gives the field beyond its tokens. -/
structure Resolved (config : Config) (metadata : Metadata) (f : Field) : Prop where
  resolved : f.resolved = .resolve config metadata f.packageToken f.typeToken
  defaultValue : f.defaultValue = f.defaultText.map (.of f.array f.resolved.name)
  targetName : f.targetName = Identifier.toCamel f.name
  nativeName : f.nativeName = config.nativeName f.name

end Field

/-- A bound that is read is a size, and stands on a type with the name of a
text. -/
theorem Builder.stringBound_eq_ok {line : Nat} {text : String} {decl : FieldDecl} {bound : Option Nat}
    (h : stringBound line text decl = .ok bound) :
    (bound = none → decl.stringBound = none) ∧
      ∀ n, bound = some n → n < sizeLimit ∧ isTextualName decl.type.name = true := by
  obtain ⟨hrel, htextual⟩ := stringBound_eq_ok_iff.1 h
  generalize decl.stringBound = digits at hrel htextual
  cases hrel with
  | none => exact ⟨fun _ => rfl, by simp⟩
  | some size =>
    refine ⟨by simp, fun n hn => ?_⟩
    cases hn
    exact ⟨size.limit, htextual (by simp)⟩

variable {b : Builder} {line : Nat} {text : String} {decl : FieldDecl} {f : Field}

/-- **Every field that is read can be written.** -/
theorem Builder.writable_of_field (content : LineContent.of text = .declaration (.field decl))
    (built : b.field line text decl = .ok f) : f.Writable := by
  obtain ⟨hconstant, hform⟩ := read?_field_iff.1 (LineContent.read?_of_declaration content)
  obtain ⟨array, bound, harray, hbound, rfl⟩ := field_eq_ok_iff.1 built
  obtain ⟨hnone, hsome⟩ := stringBound_eq_ok hbound
  obtain ⟨htype, hname⟩ := hform.words
  exact ⟨htype.package, htype.name, (ArrayKind.ofMarker_eq_ok_iff.1 harray).sized, hsome, hname, hform.default,
    fun h => hform.default_ne_equals hconstant (hnone h)⟩

theorem Builder.resolved_of_field (built : b.field line text decl = .ok f) :
    f.Resolved b.config b.schema.metadata := by
  obtain ⟨array, bound, -, -, rfl⟩ := field_eq_ok_iff.1 built
  exact ⟨rfl, rfl, rfl, rfl⟩

end MessageSchema
