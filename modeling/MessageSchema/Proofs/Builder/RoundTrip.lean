/-
Rendering and reading again. Whatever lines a builder was given, and whatever
faults it met, the texts of its fields are lines that declare the same fields
again: they are read without a fault, in the same order and with the same
imports, and are written as before.
-/
import MessageSchema.Proofs.Builder.Imports
import MessageSchema.Proofs.Field.Rendering

namespace MessageSchema

open Text Declaration

/-! ## Fields apart from their place -/

/-- The field without the line that declares it and without what is said
about it. -/
def Field.bare (f : Field) : Field :=
  { f with line := 0, comment := "" }

theorem map_text_bare (fields : List Field) :
    (fields.map Field.bare).map Field.text = fields.map Field.text := by
  rw [List.map_map]
  rfl

theorem importsOf_bare (fields : List Field) : importsOf (fields.map Field.bare) = importsOf fields := by
  rw [importsOf, List.foldl_map]
  rfl

namespace Builder

variable {b b' : Builder} {line : Nat} {text : String} {f : Field} {config : Config} {metadata : Metadata}

/-! ## What is read can be written -/

/-- Settings and identity are the given ones, and every field can be written
and was looked up under them. -/
structure Writes (config : Config) (metadata : Metadata) (b : Builder) : Prop where
  settings : b.config = config
  identity : b.schema.metadata = metadata
  fields : ∀ f ∈ b.schema.fields, f.Writable ∧ f.Resolved config metadata

theorem start_writes (config : Config) (metadata : Metadata) :
    (start config metadata).Writes config metadata :=
  ⟨rfl, rfl, List.forall_mem_nil _⟩

theorem feed_writes (b : Builder) (line : Nat) (text : String) (h : b.Writes config metadata) :
    (b.feed line text).1.Writes config metadata := by
  obtain ⟨hconfig, hmetadata, hfields⟩ := h
  refine ⟨by rw [feed_config, hconfig], by rw [feed_metadata, hmetadata], ?_⟩
  have hadding := feed_adding b line text
  generalize (b.feed line text).1.schema = s at hadding
  cases hadding with
  | nothing => exact hfields
  | constant content => exact hfields
  | @field decl f content built =>
    have hresolved := resolved_of_field built
    rw [hconfig, hmetadata] at hresolved
    intro g hg
    rw [Schema.addField_fields, List.mem_append, List.mem_singleton] at hg
    rcases hg with hg | rfl
    · exact hfields g hg
    · exact ⟨writable_of_field content built, hresolved⟩

/-! ## What is written is read again -/

theorem stringBound_decl (h : f.Writable) (line : Nat) (text : String) :
    stringBound line text f.decl = .ok f.stringBound := by
  rw [stringBound_eq_ok_iff]
  cases hbound : f.stringBound with
  | none => simp [Field.decl, hbound]
  | some n =>
    obtain ⟨hn, htextual⟩ := h.bound n hbound
    simp only [Field.decl, hbound, Option.map_some]
    exact ⟨.some (writesSize_repr hn), fun _ => htextual⟩

/-- The declaration that a field writes stands for the field, on the line and
with the comment that it then has. -/
theorem field_decl (h : f.Writable) (hr : f.Resolved b.config b.schema.metadata) (line : Nat)
    (text : String) :
    b.field line text f.decl = .ok { f with line, comment := b.pending.attach none } := by
  have harray : ArrayKind.ofMarker line f.decl.type.marker = .ok f.array :=
    ArrayKind.ofMarker_eq_ok_iff.2 (ArrayKind.marked_marker h.array)
  refine field_eq_ok_iff.2 ⟨f.array, f.stringBound, harray, stringBound_decl h line text, ?_⟩
  obtain ⟨hresolved, hdefault, htarget, hnative⟩ := hr
  simp only [Field.decl, ← hresolved, ← hdefault, ← htarget, ← hnative]

theorem feed_text (h : f.Writable) (hr : f.Resolved b.config b.schema.metadata) (line : Nat) :
    b.feed line f.text =
      ({ b.withPending .empty with
          schema := b.schema.addField { f with line, comment := b.pending.attach none } }, none) := by
  simp only [feed, read, h.content, field_decl h hr, add]
  rfl

/-- The texts of fields that can be written are read without a fault, and
give the fields again. -/
theorem feeds_texts {fields : List Field} {again : List NumberedLine}
    (h : ∀ f ∈ fields, f.Writable ∧ f.Resolved b.config b.schema.metadata)
    (hagain : again.map (·.2) = fields.map Field.text) :
    ∃ b', Feeds b again b' ∧ b'.schema.metadata = b.schema.metadata ∧
      b'.schema.constants = b.schema.constants ∧
      b'.schema.fields.map Field.bare = (b.schema.fields ++ fields).map Field.bare := by
  induction fields generalizing b again with
  | nil =>
    have hnil : again = [] := List.map_eq_nil_iff.1 hagain
    subst hnil
    exact ⟨b, .nil, rfl, rfl, by rw [List.append_nil]⟩
  | cons f fields ih =>
    cases again with
    | nil => cases hagain
    | cons l again =>
      simp only [List.map_cons, List.cons.injEq] at hagain
      obtain ⟨hl, hagain⟩ := hagain
      obtain ⟨hwritable, hresolved⟩ := h f (by simp)
      have hfirst : b.feed l.1 l.2 =
          ({ b.withPending .empty with
              schema := b.schema.addField { f with line := l.1, comment := b.pending.attach none } }, none) := by
        rw [hl]
        exact feed_text hwritable hresolved l.1
      obtain ⟨b', hrun, hmetadata, hconstants, hfields⟩ :=
        ih (b := { b.withPending .empty with
            schema := b.schema.addField { f with line := l.1, comment := b.pending.attach none } })
          (fun g hg => by
            rw [Schema.addField_metadata]
            exact h g (List.mem_cons_of_mem f hg)) hagain
      refine ⟨b', .cons hfirst hrun, by rw [hmetadata, Schema.addField_metadata],
        by rw [hconstants, Schema.addField_constants], ?_⟩
      rw [hfields, Schema.addField_fields]
      simp [Field.bare]

/-- **Rendering a schema's fields and reading the texts gives the fields
back.** The lines may have had any faults; the texts have none. -/
theorem feedEach_roundTrip (config : Config) (metadata : Metadata) (lines again : List NumberedLine)
    (h : again.map (·.2) = ((start config metadata).feedEach lines).schema.fields.map Field.text) :
    ∃ b, Feeds (start config metadata) again b ∧ b.schema.metadata = metadata ∧ b.schema.constants = [] ∧
      b.schema.fields.map Field.bare =
        ((start config metadata).feedEach lines).schema.fields.map Field.bare ∧
      b.schema.imports = ((start config metadata).feedEach lines).schema.imports ∧
      b.schema.fields.map Field.text = again.map (·.2) := by
  have hwrites : ((start config metadata).feedEach lines).Writes config metadata :=
    feedEach_invariant feed_writes (start_writes config metadata)
  obtain ⟨b, hrun, hmetadata, hconstants, hfields⟩ :=
    feeds_texts (b := start config metadata) hwrites.fields h
  rw [show (start config metadata).schema.fields = [] from rfl, List.nil_append] at hfields
  refine ⟨b, hrun, hmetadata, hconstants, hfields, ?_, ?_⟩
  · have himports : b.schema.imports = importsOf b.schema.fields := hrun.registered rfl
    have himports' : ((start config metadata).feedEach lines).schema.imports =
        importsOf ((start config metadata).feedEach lines).schema.fields := feedEach_registered rfl
    rw [himports, himports', ← importsOf_bare, hfields, importsOf_bare]
  · rw [h, ← map_text_bare, hfields, map_text_bare]

/-- A faulty line, a default that starts with an equals sign behind a bound
with leading zeros, and one that is glued to its name. -/
theorem feedEach_roundTrip_defaults :
    ∃ b, Feeds (start .standard (.message "p" "M"))
        [(1, "string<=7 s ==x"), (2, "p/T[<=2] u [1]")] b ∧ b.schema.constants = [] := by
  obtain ⟨b, hrun, -, hconstants, -⟩ := feedEach_roundTrip .standard (.message "p" "M")
    [(4, "?"), (9, "string<=007 s ==x # c"), (9, "p/T[<=02]\tu[1]")]
    [(1, "string<=7 s ==x"), (2, "p/T[<=2] u [1]")] (by decide)
  exact ⟨b, hrun, hconstants⟩

end Builder

end MessageSchema
