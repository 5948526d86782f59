/-
What a text declares does not hang on who reads it. The settings and the
identity of a schema decide in which package a type is looked for, under which
alias it is mentioned, and what a field is called in the native struct; all
else about a field, every constant and every fault is the text's own
(`ofText_independent`).

The link to watch is the name of a resolved type, since it decides how
defaults are written: `resolve_intrinsic` says that it comes from the written
name alone.
-/
import MessageSchema.Proofs.Builder.Simulation
import MessageSchema.Proofs.Field.Resolution

namespace MessageSchema

/-! ## Types and fields apart from their place -/

namespace ResolvedType

/-- What a type is, wherever it is found and however it is mentioned. -/
def intrinsic (r : ResolvedType) : ResolvedType :=
  { r with package := none, samePackage := false, qualifier := none }

/-- What a written name stands for, wherever it is found: a scalar or
itself. -/
def ofName (typeName : String) : ResolvedType :=
  match Primitive.ofKeyword? typeName with
  | some p => (ofPrimitive p).intrinsic
  | none => ⟨typeName, none, false, none, none⟩

/-- **The written name decides what a type is.** Settings, identity and
qualifier decide only where it is found. -/
theorem resolve_intrinsic (config : Config) (metadata : Metadata) (package : Option String)
    (typeName : String) : (resolve config metadata package typeName).intrinsic = ofName typeName := by
  have hcases := resolve_cases config metadata package typeName
  generalize resolve config metadata package typeName = r at hcases
  unfold ofName
  cases hcases with
  | scalar keyword => rw [keyword]
  | sibling keyword own =>
    rw [keyword]
    rfl
  | written keyword qualified other =>
    rw [keyword]
    rfl
  | vocabulary keyword unqualified common =>
    rw [keyword]
    rfl

theorem name_resolve (config : Config) (metadata : Metadata) (package : Option String)
    (typeName : String) : (resolve config metadata package typeName).name = (ofName typeName).name := by
  rw [← resolve_intrinsic config metadata package typeName]
  rfl

end ResolvedType

/-- What a field is, whatever schema it belongs to and whatever settings it is
read with: all but where its type is found, the alias of that package, and the
native name. -/
def Field.intrinsic (f : Field) : Field :=
  { f with resolved := f.resolved.intrinsic, nativeName := "" }

/-- Two schemas have the same constants, and fields that are one by one the
same. -/
structure Schema.SameDeclarations (s s' : Schema) : Prop where
  fields : s.fields.map Field.intrinsic = s'.fields.map Field.intrinsic
  constants : s.constants = s'.constants

namespace Schema.SameDeclarations

variable {s s' : Schema}

theorem addField {f f' : Field} (h : s.SameDeclarations s') (hf : f.intrinsic = f'.intrinsic) :
    (s.addField f).SameDeclarations (s'.addField f') where
  fields := by
    rw [addField_fields, addField_fields, List.map_append, List.map_append, h.fields, List.map_singleton,
      List.map_singleton, hf]
  constants := by rw [addField_constants, addField_constants, h.constants]

theorem addConstant (h : s.SameDeclarations s') (c : Constant) :
    (s.addConstant c).SameDeclarations (s'.addConstant c) where
  fields := h.fields
  constants := by rw [addConstant_constants, addConstant_constants, h.constants]

end Schema.SameDeclarations

namespace Builder

/-! ## Two builders on the same lines -/

variable {b b' : Builder}

/-- Two builders hold the same declarations, and the same comments wait. -/
structure Agrees (b b' : Builder) : Prop where
  schema : b.schema.SameDeclarations b'.schema
  pending : b.pending = b'.pending

/-- From one declaration two builders make the same field, or find the same
fault. -/
theorem field_intrinsic (h : b.pending = b'.pending) (line : Nat) (text : String) (decl : FieldDecl) :
    (b.field line text decl).map Field.intrinsic = (b'.field line text decl).map Field.intrinsic := by
  unfold field
  cases ArrayKind.ofMarker line decl.type.marker with
  | error e => rfl
  | ok array =>
    cases stringBound line text decl with
    | error e => rfl
    | ok bound =>
      simp only [bind, Except.bind, pure, Except.pure, Except.map, Field.intrinsic,
        ResolvedType.resolve_intrinsic, ResolvedType.name_resolve, h]

theorem Agrees.feed (h : Agrees b b') (line : Nat) (source : String) :
    Agrees (b.feed line source).1 (b'.feed line source).1 ∧
      Option.Rel Eq (b.feed line source).2 (b'.feed line source).2 := by
  rw [feed_eq_feedContent, feed_eq_feedContent]
  generalize Text.trimmed source = text
  cases LineContent.of text with
  | comment comment => exact ⟨⟨h.schema, congrArg (·.push comment) h.pending⟩, .none⟩
  | blank => exact ⟨⟨h.schema, rfl⟩, .none⟩
  | malformed => exact ⟨h, .some rfl⟩
  | declaration decl =>
    cases decl with
    | constant decl =>
      have hconstant : b.constant line decl = b'.constant line decl := by
        unfold constant
        rw [h.pending]
      simp only [feedContent, hconstant]
      refine ⟨⟨h.schema.addConstant _, rfl⟩, ?_⟩
      split
      · exact .some rfl
      · exact .none
    | field decl =>
      have hfield := field_intrinsic h.pending line text decl
      simp only [feedContent]
      cases hf : b.field line text decl with
      | error e =>
        cases hf' : b'.field line text decl with
        | error e' =>
          rw [hf, hf'] at hfield
          cases hfield
          exact ⟨h, .some rfl⟩
        | ok f' =>
          rw [hf, hf'] at hfield
          cases hfield
      | ok f =>
        cases hf' : b'.field line text decl with
        | error e' =>
          rw [hf, hf'] at hfield
          cases hfield
        | ok f' =>
          rw [hf, hf'] at hfield
          exact ⟨⟨h.schema.addField (Except.ok.inj hfield), rfl⟩, .none⟩

end Builder

/-- **What a text declares is its own.** Under whatever identity and settings
a text is read as a message, it is read to its end or not at all, with the
same fault; and what it declares until then is the same, the packages and
aliases of types and the native names of fields aside. -/
theorem Schema.ofText_independent (config config' : Config) (metadata metadata' : Metadata)
    (text : String) :
    Alike Eq Schema.SameDeclarations (ofText config metadata text) (ofText config' metadata' text) := by
  have hstart : Builder.Agrees (.start config metadata) (.start config' metadata') := ⟨⟨rfl, rfl⟩, rfl⟩
  refine Builder.feedAll_alike (P := Eq) ?_ (fun h => h.schema) hstart (List.forall₂_same.2 fun _ _ => rfl) 1
  intro b b' line source source' h hsource
  rw [← hsource]
  exact h.feed line source

end MessageSchema
