/-
Comments never change meaning. Texts whose lines have the same code one by one
are read alike, as messages and as services: to the end or to a fault of the
same kind on the same line, with schemas that differ in nothing but comments
(`ofText_recommented`).

A builder forgets comments at any time without harm: what a line does to a
builder without comments is what it does to the builder, comments then left
out (`feedContent_uncommented`).
-/
import MessageSchema.Proofs.Builder.Placement
import MessageSchema.Proofs.Declaration.Code
import MessageSchema.Proofs.Service.Simulation

namespace MessageSchema

open Text

/-! ## Schemas and faults apart from comments -/

namespace LineError

/-- The fault without the text that it quotes, which may hold a comment. -/
def withoutText : LineError → LineError
  | malformed n _ => malformed n ""
  | unknownConstantType n typeName => unknownConstantType n typeName
  | tooManyDelimiters n => tooManyDelimiters n
  | invalidSize n size => invalidSize n size

/-- Two faults of one kind on one line, with the same type name or size. -/
def SameFault (e e' : LineError) : Prop :=
  e.withoutText = e'.withoutText

end LineError

namespace Schema

/-- The schema without what is said about its declarations. -/
def uncommented (s : Schema) : Schema :=
  { s with
    fields := s.fields.map Field.uncommented
    constants := s.constants.map Constant.uncommented }

/-- Two schemas differ in nothing but the comments of fields and constants. -/
def SameButComments (s s' : Schema) : Prop :=
  s.uncommented = s'.uncommented

variable (s : Schema)

theorem register_uncommented (r : ResolvedType) :
    s.uncommented.register r = (s.register r).uncommented := by
  unfold register
  split <;> rfl

theorem addField_uncommented (f : Field) :
    s.uncommented.addField f.uncommented = (s.addField f).uncommented := by
  have hresolved : f.uncommented.resolved = f.resolved := rfl
  simp only [addField, hresolved, register_uncommented]
  simp [uncommented]

theorem addConstant_uncommented (c : Constant) :
    s.uncommented.addConstant c.uncommented = (s.addConstant c).uncommented := by
  simp [addConstant, uncommented]

end Schema

namespace Builder

/-! ## A builder without comments -/

/-- The builder without comments, those that wait included. -/
def uncommented (b : Builder) : Builder :=
  { b with schema := b.schema.uncommented, pending := .empty }

variable (b : Builder) (line : Nat) (text : String)

theorem map_readSize_withoutText {α : Type} (g : Nat → α) (digits : String) :
    ((readSize line digits).map g).mapError .withoutText = (readSize line digits).map g := by
  unfold readSize
  cases readSize? digits <;> rfl

theorem ofMarker_withoutText (m : Option ArrayMarker) :
    (ArrayKind.ofMarker line m).mapError .withoutText = ArrayKind.ofMarker line m := by
  cases m with
  | none => rfl
  | some m =>
    simp only [ArrayKind.ofMarker]
    split
    · exact map_readSize_withoutText line _ _
    · split
      · rfl
      · exact map_readSize_withoutText line _ _

theorem stringBound_withoutText (decl : FieldDecl) :
    stringBound line "" decl.uncommented = (stringBound line text decl).mapError .withoutText := by
  have hbound : decl.uncommented.stringBound = decl.stringBound := rfl
  have htype : decl.uncommented.type = decl.type := rfl
  simp only [stringBound, hbound, htype]
  split
  · rfl
  · split
    · exact (map_readSize_withoutText line some _).symm
    · rfl

theorem field_uncommented_eq (decl : FieldDecl) :
    b.uncommented.field line "" decl.uncommented =
      ((b.field line text decl).map Field.uncommented).mapError .withoutText := by
  have hmarker : ArrayKind.ofMarker line decl.uncommented.type.marker =
      (ArrayKind.ofMarker line decl.type.marker).mapError .withoutText :=
    (ofMarker_withoutText line decl.type.marker).symm
  unfold field
  rw [hmarker, stringBound_withoutText line text]
  cases ArrayKind.ofMarker line decl.type.marker with
  | error e => rfl
  | ok array =>
    cases stringBound line text decl with
    | error e => rfl
    | ok bound => rfl

/-- **Comments can be forgotten before a line or after it.** -/
theorem feedContent_uncommented (content : LineContent) :
    b.uncommented.feedContent line "" content.uncommented =
      ((b.feedContent line text content).1.uncommented,
        (b.feedContent line text content).2.map .withoutText) := by
  cases content with
  | comment comment => rfl
  | blank => rfl
  | malformed => rfl
  | declaration decl =>
    cases decl with
    | constant decl =>
      have hconstant : b.uncommented.constant line decl.uncommented = (b.constant line decl).uncommented := rfl
      have hprimitive : (b.constant line decl).uncommented.primitive = (b.constant line decl).primitive := rfl
      have hadd : b.uncommented.schema.addConstant (b.constant line decl).uncommented =
          (b.schema.addConstant (b.constant line decl)).uncommented := b.schema.addConstant_uncommented _
      simp only [LineContent.uncommented, Declaration.uncommented, feedContent, hconstant, hprimitive, hadd]
      split <;> rfl
    | field decl =>
      simp only [LineContent.uncommented, Declaration.uncommented, feedContent,
        field_uncommented_eq b line text]
      cases b.field line text decl with
      | error e => rfl
      | ok f =>
        have hadd : b.uncommented.schema.addField f.uncommented = (b.schema.addField f).uncommented :=
          b.schema.addField_uncommented f
        simp only [Except.map, Except.mapError, hadd]
        rfl

end Builder

/-! ## Lines with the same code -/

/-- Two lines mean the same, comments aside: both are delimiters or none is,
and they hold the same. -/
structure SameMeaning (source source' : String) : Prop where
  delimiter : isDelimiter source = isDelimiter source'
  content : (LineContent.of (trimmed source)).uncommented = (LineContent.of (trimmed source')).uncommented

theorem isDelimiter_of_lineCode {source source' : String} (h : lineCode source = lineCode source')
    (hsource : isDelimiter source = true) : isDelimiter source' = true := by
  have hdelimiter : trimmed source = serviceDelimiter := by simpa [isDelimiter] using hsource
  have hhash : '#' ∉ (trimmed source).toList := by
    rw [hdelimiter]
    decide
  have heq := eq_of_throughHash (throughHash_trimmed h) hhash
  rw [isDelimiter, String.toList_inj.1 heq, hdelimiter]
  rfl

theorem SameMeaning.of_lineCode {source source' : String} (h : lineCode source = lineCode source')
    (hsource : '\n' ∉ source.toList) (hsource' : '\n' ∉ source'.toList) : SameMeaning source source' where
  delimiter := Bool.eq_iff_iff.2 ⟨isDelimiter_of_lineCode h, isDelimiter_of_lineCode h.symm⟩
  content := LineContent.of_lineCode h hsource hsource'

theorem forall₂_sameMeaning {ls ls' : List String} (h : ls.map lineCode = ls'.map lineCode)
    (hls : ∀ l ∈ ls, '\n' ∉ l.toList) (hls' : ∀ l ∈ ls', '\n' ∉ l.toList) :
    List.Forall₂ SameMeaning ls ls' := by
  induction ls generalizing ls' with
  | nil =>
    rw [List.map_nil, eq_comm, List.map_eq_nil_iff] at h
    rw [h]
    exact .nil
  | cons l ls ih =>
    obtain ⟨l', ls', rfl, hl, hrest⟩ := List.map_eq_cons_iff.1 h.symm
    rw [List.forall_mem_cons] at hls hls'
    exact .cons (.of_lineCode hl.symm hls.1 hls'.1) (ih hrest.symm hls.2 hls'.2)

theorem Builder.feedAll_sameMeaning (b : Builder) (first : Nat) {ls ls' : List String}
    (h : List.Forall₂ SameMeaning ls ls') :
    Alike LineError.SameFault Schema.SameButComments (b.feedAll (numberFrom first ls))
      (b.feedAll (numberFrom first ls')) := by
  refine feedAll_alike (R := fun b b' => b.uncommented = b'.uncommented) ?step ?schema rfl h first
  case schema => exact fun h => congrArg schema h
  case step =>
    intro b b' line source source' hb hsource
    have hleft := b.feedContent_uncommented line (trimmed source) (LineContent.of (trimmed source))
    have hright := b'.feedContent_uncommented line (trimmed source') (LineContent.of (trimmed source'))
    rw [← feed_eq_feedContent, hb, hsource.content] at hleft
    rw [← feed_eq_feedContent] at hright
    obtain ⟨hnext, hfault⟩ := Prod.mk.inj (hleft.symm.trans hright)
    exact ⟨hnext, optionRel_of_map_eq hfault⟩

/-- **Comments never change meaning.** Two texts whose lines are one by one
the same up to their first `#` are read alike, whatever stands behind that
sign: neither line is a delimiter, a constant, a field or a fault that the
other is not, and the messages or services read from the two texts, or
assembled before the same fault, differ in nothing but comments. -/
theorem ofText_recommented {text text' : String} (h : (lines text).map lineCode = (lines text').map lineCode) :
    (∀ config metadata, Alike LineError.SameFault Schema.SameButComments
      (Schema.ofText config metadata text) (Schema.ofText config metadata text')) ∧
    (∀ config package name, Alike LineError.SameFault (Service.Rel Schema.SameButComments)
      (Service.ofText config package name text) (Service.ofText config package name text')) ∧
    List.Forall₂ SameMeaning (lines text) (lines text') := by
  have hlines : List.Forall₂ SameMeaning (lines text) (lines text') :=
    forall₂_sameMeaning h (fun _ => newline_not_mem_of_mem_lines) fun _ => newline_not_mem_of_mem_lines
  refine ⟨fun config metadata => ?_, fun config package name => ?_, hlines⟩
  · exact (Builder.start config metadata).feedAll_sameMeaning 1 hlines
  · have hsame : ∀ e, LineError.SameFault e e := fun _ => rfl
    exact Service.ofText_alike (fun _ _ hl => hl.delimiter) hsame
      (fun metadata first _ _ hls => (Builder.start config metadata).feedAll_sameMeaning first hls)
      hlines package name

/-- Signs of the grammar in comments, and a line at fault. -/
theorem ofText_recommented_signs :
    (lines "int8 a # b\n---\nx #").map lineCode = (lines "int8 a # =2\n---\nx #'[").map lineCode ∧
    Alike LineError.SameFault (Service.Rel Schema.SameButComments)
      (Service.ofText .standard "p" "S" "int8 a # b\n---\nx #")
      (Service.ofText .standard "p" "S" "int8 a # =2\n---\nx #'[") ∧
    Alike LineError.SameFault Schema.SameButComments
      (Schema.ofText .standard (.message "p" "M") "int8 a # b\n---\nx #")
      (Schema.ofText .standard (.message "p" "M") "int8 a # =2\n---\nx #'[") := by
  have hcode : (lines "int8 a # b\n---\nx #").map lineCode = (lines "int8 a # =2\n---\nx #'[").map lineCode := by
    decide
  obtain ⟨hmessage, hservice, -⟩ := ofText_recommented hcode
  exact ⟨hcode, hservice .standard "p" "S", hmessage .standard (.message "p" "M")⟩

end MessageSchema
