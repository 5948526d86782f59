/-
What one line does to a builder. `Feeding` lists the seven outcomes, each
with the content of the line that leads to it; `feed_cases` says that there
are no others. For the schema alone there are three (`feed_adding`): a line
adds a field, a constant or nothing. Everything about whole runs is derived
from these lists.
-/
import MessageSchema.Schema.Builder

namespace MessageSchema.Builder

open Text

/-- The outcomes of feeding a line: the builder it leaves, and its fault if
it has one. -/
inductive Feeding (b : Builder) (line : Nat) (text : String) : Builder × Option LineError → Prop where
  | comment {comment : String} (content : LineContent.of (trimmed text) = .comment comment) :
      Feeding b line text (b.withPending (b.pending.push comment), none)
  | blank (content : LineContent.of (trimmed text) = .blank) :
      Feeding b line text (b.withPending .empty, none)
  | field {decl : FieldDecl} {f : Field}
      (content : LineContent.of (trimmed text) = .declaration (.field decl))
      (built : b.field line (trimmed text) decl = .ok f) :
      Feeding b line text ({ b.withPending .empty with schema := b.schema.addField f }, none)
  | constant {decl : ConstantDecl}
      (content : LineContent.of (trimmed text) = .declaration (.constant decl))
      (known : (b.constant line decl).primitive ≠ none) :
      Feeding b line text
        ({ b.withPending .empty with schema := b.schema.addConstant (b.constant line decl) }, none)
  | unknown {decl : ConstantDecl}
      (content : LineContent.of (trimmed text) = .declaration (.constant decl))
      (unknown : (b.constant line decl).primitive = none) :
      Feeding b line text
        ({ b.withPending .empty with schema := b.schema.addConstant (b.constant line decl) },
          some (.unknownConstantType line (b.constant line decl).typeToken))
  | refused {decl : FieldDecl} {e : LineError}
      (content : LineContent.of (trimmed text) = .declaration (.field decl))
      (refused : b.field line (trimmed text) decl = .error e) :
      Feeding b line text (b, some e)
  | malformed (content : LineContent.of (trimmed text) = .malformed) :
      Feeding b line text (b, some (.malformed line (trimmed text)))

/-- **Every line has one of the outcomes.** -/
theorem feed_cases (b : Builder) (line : Nat) (text : String) : Feeding b line text (b.feed line text) := by
  cases hc : LineContent.of (trimmed text) with
  | comment comment =>
    have h : b.feed line text = (b.withPending (b.pending.push comment), none) := by
      simp only [feed, read, hc, add]
    rw [h]
    exact .comment hc
  | blank =>
    have h : b.feed line text = (b.withPending .empty, none) := by
      simp only [feed, read, hc, add]
    rw [h]
    exact .blank hc
  | malformed =>
    have h : b.feed line text = (b, some (.malformed line (trimmed text))) := by
      simp only [feed, read, hc]
    rw [h]
    exact .malformed hc
  | declaration decl =>
    cases decl with
    | field decl =>
      cases hf : b.field line (trimmed text) decl with
      | ok f =>
        have h : b.feed line text =
            ({ b.withPending .empty with schema := b.schema.addField f }, none) := by
          simp only [feed, read, hc, hf, add]
          rfl
        rw [h]
        exact .field hc hf
      | error e =>
        have h : b.feed line text = (b, some e) := by
          simp only [feed, read, hc, hf]
        rw [h]
        exact .refused hc hf
    | constant decl =>
      have h : b.feed line text =
          ({ b.withPending .empty with schema := b.schema.addConstant (b.constant line decl) },
            if (b.constant line decl).primitive = none then
              some (.unknownConstantType line (b.constant line decl).typeToken) else none) := by
        simp only [feed, read, hc, add]
        rfl
      rw [h]
      by_cases hp : (b.constant line decl).primitive = none
      · rw [if_pos hp]
        exact .unknown hc hp
      · rw [if_neg hp]
        exact .constant hc hp

/-! ## What a line adds -/

/-- What a line makes of the schema. -/
inductive Adding (b : Builder) (line : Nat) (text : String) : Schema → Prop where
  | nothing : Adding b line text b.schema
  | field {decl : FieldDecl} {f : Field}
      (content : LineContent.of (trimmed text) = .declaration (.field decl))
      (built : b.field line (trimmed text) decl = .ok f) : Adding b line text (b.schema.addField f)
  | constant {decl : ConstantDecl}
      (content : LineContent.of (trimmed text) = .declaration (.constant decl)) :
      Adding b line text (b.schema.addConstant (b.constant line decl))

variable (b : Builder) (line : Nat) (text : String)

theorem feed_adding : Adding b line text (b.feed line text).1.schema := by
  have hf := feed_cases b line text
  generalize b.feed line text = out at hf
  cases hf with
  | comment content => exact .nothing
  | blank content => exact .nothing
  | field content built => exact .field content built
  | constant content known => exact .constant content
  | unknown content unknown => exact .constant content
  | refused content refused => exact .nothing
  | malformed content => exact .nothing

theorem feed_config : (b.feed line text).1.config = b.config := by
  have hf := feed_cases b line text
  generalize b.feed line text = out at hf
  cases hf <;> rfl

theorem feed_metadata : (b.feed line text).1.schema.metadata = b.schema.metadata := by
  have h := feed_adding b line text
  generalize (b.feed line text).1.schema = s at h
  cases h with
  | nothing => rfl
  | field content built => exact Schema.addField_metadata _ _
  | constant content => exact Schema.addConstant_metadata _ _

/-! ## Fields -/

/-- A field is built from the array kind and the bound that its declaration
asks for, and from nothing in the builder but settings, identity and
waiting comments. -/
theorem field_eq_ok_iff {b : Builder} {line : Nat} {text : String} {decl : FieldDecl} {f : Field} :
    b.field line text decl = .ok f ↔
      ∃ array bound, ArrayKind.ofMarker line decl.type.marker = .ok array ∧
        stringBound line text decl = .ok bound ∧
        f = { line
              packageToken := decl.type.package
              typeToken := decl.type.name
              resolved := .resolve b.config b.schema.metadata decl.type.package decl.type.name
              array
              stringBound := bound
              defaultText := decl.defaultText
              defaultValue := decl.defaultText.map (.of array
                (ResolvedType.resolve b.config b.schema.metadata decl.type.package decl.type.name).name)
              name := decl.name
              targetName := Identifier.toCamel decl.name
              nativeName := b.config.nativeName decl.name
              comment := b.pending.attach decl.comment } := by
  unfold field
  cases ArrayKind.ofMarker line decl.type.marker with
  | error e => simp [bind, Except.bind]
  | ok array =>
    cases stringBound line text decl with
    | error e => simp [bind, Except.bind]
    | ok bound => simp [bind, Except.bind, pure, Except.pure, eq_comm]

/-- A line that reads as a field declares it. -/
theorem read_eq_field {b b' : Builder} {line : Nat} {text : String} {f : Field}
    (h : b.read line text = .ok (.field f, b')) :
    ∃ decl, LineContent.of (trimmed text) = .declaration (.field decl) ∧
      b.field line (trimmed text) decl = .ok f := by
  unfold read at h
  simp only at h
  split at h
  · cases h
  · cases h
  · cases h
  · next decl content =>
    split at h
    · next g built =>
      cases h
      exact ⟨decl, content, built⟩
    · cases h
  · cases h

/-- A line that reads as a constant declares it. -/
theorem read_eq_constant {b b' : Builder} {line : Nat} {text : String} {c : Constant}
    (h : b.read line text = .ok (.constant c, b')) :
    ∃ decl, LineContent.of (trimmed text) = .declaration (.constant decl) ∧ c = b.constant line decl := by
  unfold read at h
  simp only at h
  split at h
  · cases h
  · cases h
  · next decl content =>
    cases h
    exact ⟨decl, content, rfl⟩
  · split at h <;> cases h
  · cases h

/-- A field that can be built is read. -/
theorem read_of_field {b : Builder} {line : Nat} {text : String} {decl : FieldDecl} {f : Field}
    (content : LineContent.of (trimmed text) = .declaration (.field decl))
    (built : b.field line (trimmed text) decl = .ok f) :
    b.read line text = .ok (.field f, b.withPending .empty) := by
  simp only [read, content, built]

/-- A field that is refused makes its line faulty. -/
theorem read_eq_error {b : Builder} {line : Nat} {text : String} {decl : FieldDecl} {e : LineError}
    (content : LineContent.of (trimmed text) = .declaration (.field decl))
    (refused : b.field line (trimmed text) decl = .error e) : b.read line text = .error e := by
  simp only [read, content, refused]

/-! ## Faults of a field -/

theorem readSize_eq_error {line : Nat} {digits : String} {e : LineError}
    (h : readSize line digits = .error e) : e = .invalidSize line digits := by
  unfold readSize at h
  split at h
  · cases h
  · cases h
    rfl

theorem map_readSize_eq_error {α : Type} {f : Nat → α} {line : Nat} {digits : String} {e : LineError}
    (h : (readSize line digits).map f = .error e) : e = .invalidSize line digits := by
  cases hread : readSize line digits with
  | ok n =>
    rw [hread] at h
    cases h
  | error e' =>
    rw [hread] at h
    cases h
    exact readSize_eq_error hread

/-- A marker at fault has a size that cannot be read. -/
theorem ofMarker_eq_error {line : Nat} {marker : Option ArrayMarker} {e : LineError}
    (h : ArrayKind.ofMarker line marker = .error e) :
    ∃ m, marker = some m ∧ e = .invalidSize line m.size := by
  cases marker with
  | none => cases h
  | some m =>
    refine ⟨m, rfl, ?_⟩
    simp only [ArrayKind.ofMarker] at h
    split at h
    · exact map_readSize_eq_error h
    · split at h
      · cases h
      · exact map_readSize_eq_error h

/-- A refused field has a size that cannot be read, or a bound on a type that
is no text. -/
theorem field_eq_error {b : Builder} {line : Nat} {text : String} {decl : FieldDecl} {e : LineError}
    (h : b.field line text decl = .error e) :
    (∃ size, e = .invalidSize line size) ∨ e = .malformed line text := by
  unfold field at h
  cases ha : ArrayKind.ofMarker line decl.type.marker with
  | error e' =>
    rw [ha] at h
    cases h
    obtain ⟨m, -, rfl⟩ := ofMarker_eq_error ha
    exact .inl ⟨m.size, rfl⟩
  | ok array =>
    cases hb : stringBound line text decl with
    | ok bound =>
      rw [ha, hb] at h
      cases h
    | error e' =>
      rw [ha, hb] at h
      cases h
      unfold stringBound at hb
      split at hb
      · cases hb
      · split at hb
        · exact .inl ⟨_, map_readSize_eq_error hb⟩
        · cases hb
          exact .inr rfl

end MessageSchema.Builder
