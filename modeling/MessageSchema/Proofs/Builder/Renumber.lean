/-
Line numbers mean nothing to a builder: it copies them into fields,
constants and faults and never looks at them. So whatever is done to the
numbers of the lines is done to the numbers in the result, and to nothing
else (`feedAll_renumber`).
-/
import MessageSchema.Proofs.Builder.Run
import MessageSchema.Proofs.Text.Lines

namespace MessageSchema

/-! ## Renumbering -/

/-- The fault with another line number. -/
def LineError.renumber (f : Nat → Nat) : LineError → LineError
  | .malformed n text => .malformed (f n) text
  | .unknownConstantType n typeName => .unknownConstantType (f n) typeName
  | .tooManyDelimiters n => .tooManyDelimiters (f n)
  | .invalidSize n size => .invalidSize (f n) size

/-- The field on another line. -/
def Field.renumber (f : Nat → Nat) (x : Field) : Field :=
  { x with line := f x.line }

/-- The constant on another line. -/
def Constant.renumber (f : Nat → Nat) (c : Constant) : Constant :=
  { c with line := f c.line }

namespace Schema

/-- The schema with every field and constant on another line. -/
def renumber (f : Nat → Nat) (s : Schema) : Schema :=
  { s with
    fields := s.fields.map (Field.renumber f)
    constants := s.constants.map (Constant.renumber f) }

variable (f : Nat → Nat) (s : Schema)

theorem register_renumber (r : ResolvedType) :
    (s.renumber f).register r = (s.register r).renumber f := by
  unfold register
  split <;> rfl

theorem addField_renumber (x : Field) :
    (s.renumber f).addField (x.renumber f) = (s.addField x).renumber f := by
  have hresolved : (x.renumber f).resolved = x.resolved := rfl
  simp only [addField, hresolved, register_renumber]
  simp [renumber]

theorem addConstant_renumber (c : Constant) :
    (s.renumber f).addConstant (c.renumber f) = (s.addConstant c).renumber f := by
  simp [addConstant, renumber]

end Schema

namespace Builder

/-- The builder with every field and constant on another line. -/
def renumber (f : Nat → Nat) (b : Builder) : Builder :=
  { b with schema := b.schema.renumber f }

theorem start_renumber (f : Nat → Nat) (config : Config) (metadata : Metadata) :
    (start config metadata).renumber f = start config metadata := rfl

/-! ## Sizes and fields -/

variable (f : Nat → Nat) (b : Builder) (line : Nat) (text : String)

theorem readSize_renumber (digits : String) :
    readSize (f line) digits = (readSize line digits).mapError (.renumber f) := by
  unfold readSize
  cases readSize? digits <;> rfl

theorem map_readSize_renumber {α : Type} (g : Nat → α) (digits : String) :
    (readSize (f line) digits).map g = ((readSize line digits).map g).mapError (.renumber f) := by
  rw [readSize_renumber]
  cases readSize line digits <;> rfl

theorem ofMarker_renumber (m : Option ArrayMarker) :
    ArrayKind.ofMarker (f line) m = (ArrayKind.ofMarker line m).mapError (.renumber f) := by
  cases m with
  | none => rfl
  | some m =>
    simp only [ArrayKind.ofMarker, map_readSize_renumber f line]
    split
    · rfl
    · split <;> rfl

theorem stringBound_renumber (decl : FieldDecl) :
    stringBound (f line) text decl = (stringBound line text decl).mapError (.renumber f) := by
  unfold stringBound
  split
  · rfl
  · split
    · exact map_readSize_renumber f line some _
    · rfl

theorem field_renumber (decl : FieldDecl) :
    (b.renumber f).field (f line) text decl =
      ((b.field line text decl).map (Field.renumber f)).mapError (.renumber f) := by
  unfold field
  rw [ofMarker_renumber, stringBound_renumber]
  cases ArrayKind.ofMarker line decl.type.marker with
  | error e => rfl
  | ok array =>
    cases stringBound line text decl with
    | error e => rfl
    | ok bound => rfl

/-! ## Lines -/

/-- A line on another number does what it did, on that number. -/
theorem feed_renumber :
    (b.renumber f).feed (f line) text =
      ((b.feed line text).1.renumber f, (b.feed line text).2.map (.renumber f)) := by
  unfold feed read
  simp only
  cases LineContent.of (Text.trimmed text) with
  | comment comment => rfl
  | blank => rfl
  | malformed => rfl
  | declaration decl =>
    cases decl with
    | field decl =>
      simp only [field_renumber]
      cases b.field line (Text.trimmed text) decl with
      | error e => rfl
      | ok x =>
        show ({ b.withPending .empty with schema := (b.schema.renumber f).addField (x.renumber f) }, none) = _
        rw [Schema.addField_renumber]
        rfl
    | constant decl =>
      have hconstant : (b.renumber f).constant (f line) decl = (b.constant line decl).renumber f := rfl
      have hprimitive : ((b.constant line decl).renumber f).primitive = (b.constant line decl).primitive := rfl
      simp only [add, hconstant, hprimitive]
      have hadd : ((b.renumber f).withPending .empty).schema.addConstant ((b.constant line decl).renumber f) =
          (b.schema.addConstant (b.constant line decl)).renumber f := Schema.addConstant_renumber f _ _
      rw [hadd]
      split <;> rfl

/-- **Reading renumbered lines gives the renumbered result.** -/
theorem feedAll_renumber (ls : List Text.NumberedLine) :
    (b.renumber f).feedAll (ls.map fun l => (f l.1, l.2)) =
      match b.feedAll ls with
      | .ok s => .ok (s.renumber f)
      | .error failure => .error ((failure.map (.renumber f)).mapCause (.renumber f)) := by
  induction ls generalizing b with
  | nil => rfl
  | cons l ls ih =>
    have hstep := feed_renumber f b l.1 l.2
    cases hfeed : b.feed l.1 l.2 with
    | mk b' fault =>
      rw [hfeed] at hstep
      cases fault with
      | none =>
        rw [List.map_cons, feedAll_cons_ok hfeed, feedAll_cons_ok (l := (f l.1, l.2)) hstep]
        exact ih b'
      | some e =>
        rw [List.map_cons, feedAll_cons_error hfeed, feedAll_cons_error (l := (f l.1, l.2)) hstep]
        rfl

/-- Lines counted on after others are read as a text of their own, on greater
numbers. -/
theorem feedAll_numberFrom (config : Config) (metadata : Metadata) (n : Nat) (text : String) :
    (start config metadata).feedAll (Text.numberFrom (n + 2) (Text.lines text)) =
      match Schema.ofText config metadata text with
      | .ok s => .ok (s.renumber (· + (n + 1)))
      | .error failure =>
        .error ((failure.map (.renumber (· + (n + 1)))).mapCause (.renumber (· + (n + 1)))) := by
  have hnumber : Text.numberFrom (n + 2) (Text.lines text) =
      (Text.numberedLines text).map fun l => (l.1 + (n + 1), l.2) := by
    rw [Text.numberedLines, ← Text.numberFrom_add, Nat.add_comm 1]
  have hread := feedAll_renumber (· + (n + 1)) (start config metadata) (Text.numberedLines text)
  rw [start_renumber] at hread
  rw [hnumber, hread]
  rfl

end Builder

end MessageSchema
