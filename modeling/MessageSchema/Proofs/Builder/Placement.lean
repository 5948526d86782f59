/-
Every declaration of a text has its place in the schema. The lines that are
neither blank nor comments declare one field or one constant each, in the
order of the text; and what such a line declares, the comments above it
aside, is what it declares when nothing was read before it (`feed_alone`).
-/
import MessageSchema.Proofs.Builder.Run
import MessageSchema.Proofs.Declaration.Content
import MessageSchema.Proofs.Text.Lines

namespace MessageSchema

open Text

/-! ## Lists read off others -/

section

variable {α β γ : Type}

theorem filterMap_concat (g : α → Option β) (as : List α) (a : α) :
    (as ++ [a]).filterMap g = as.filterMap g ++ (g a).toList := by
  rw [List.filterMap_append, List.filterMap_cons]
  cases g a with
  | none => rfl
  | some b => rfl

theorem map_filterMap_of_key {g : α → Option β} {k : β → γ} {key : α → γ}
    (h : ∀ a b, g a = some b → k b = key a) (as : List α) :
    (as.filterMap g).map k = (as.filter fun a => (g a).isSome).map key := by
  induction as with
  | nil => rfl
  | cons a as ih =>
    cases hg : g a with
    | none => simp [hg, ih]
    | some b => simp [hg, ih, h a b hg]

theorem exists_of_map_eq_filterMap {g : α → Option β} {strip : β → γ} {as : List α}
    {bs : List β} (h : bs.map strip = as.filterMap fun a => (g a).map strip) {b : β} (hb : b ∈ bs) :
    ∃ a ∈ as, ∃ b', g a = some b' ∧ strip b' = strip b := by
  have hmem : strip b ∈ as.filterMap fun a => (g a).map strip := by
    rw [← h]
    exact List.mem_map_of_mem hb
  obtain ⟨a, ha, hg⟩ := List.mem_filterMap.1 hmem
  exact ⟨a, ha, Option.map_eq_some_iff.1 hg⟩

end

/-! ## Declarations apart from their comments -/

/-- The field without what is said about it. -/
def Field.uncommented (f : Field) : Field :=
  { f with comment := "" }

/-- The constant without what is said about it. -/
def Constant.uncommented (c : Constant) : Constant :=
  { c with comment := "" }

namespace Contribution

/-- The field that a line contributes. -/
def field? : Contribution → Option Field
  | field f => some f
  | _ => none

/-- The constant that a line contributes. -/
def constant? : Contribution → Option Constant
  | constant c => some c
  | _ => none

theorem field?_eq_some {contribution : Contribution} {f : Field} (h : contribution.field? = some f) :
    contribution = .field f := by
  cases contribution <;> cases h
  rfl

theorem constant?_eq_some {contribution : Contribution} {c : Constant}
    (h : contribution.constant? = some c) : contribution = .constant c := by
  cases contribution <;> cases h
  rfl

end Contribution

namespace Builder

variable {config : Config} {metadata : Metadata} {b b' : Builder} {l : NumberedLine}
  {ls : List NumberedLine}

/-! ## A line on its own -/

/-- What a line contributes to a schema without other declarations, when it
has no fault. -/
def alone (config : Config) (metadata : Metadata) (l : NumberedLine) : Contribution :=
  match (start config metadata).read l.1 l.2 with
  | .ok (contribution, _) => contribution
  | .error _ => .nothing

theorem alone_comment {t : String} (content : LineContent.of (trimmed l.2) = .comment t) :
    alone config metadata l = .nothing := by
  simp only [alone, read, content]

theorem alone_blank (content : LineContent.of (trimmed l.2) = .blank) :
    alone config metadata l = .nothing := by
  simp only [alone, read, content]

theorem alone_constant {decl : ConstantDecl}
    (content : LineContent.of (trimmed l.2) = .declaration (.constant decl)) :
    alone config metadata l = .constant ((start config metadata).constant l.1 decl) := by
  simp only [alone, read, content]

theorem alone_field {decl : FieldDecl} {f : Field}
    (content : LineContent.of (trimmed l.2) = .declaration (.field decl))
    (built : (start config metadata).field l.1 (trimmed l.2) decl = .ok f) :
    alone config metadata l = .field f := by
  simp only [alone, read, content, built]

/-- What a line contributes on its own is what it reads as. -/
theorem read_of_alone {contribution : Contribution} (h : alone config metadata l = contribution)
    (hadds : contribution ≠ .nothing) :
    ∃ b, (start config metadata).read l.1 l.2 = .ok (contribution, b) := by
  unfold alone at h
  split at h
  · next contribution' b hread =>
    subst h
    exact ⟨b, hread⟩
  · exact absurd h.symm hadds

/-- Two builders with the same settings and identity build the same field from
a declaration, comments aside. -/
theorem field_uncommented (b₁ : Builder) {line : Nat} {text : String} {decl : FieldDecl} {f : Field}
    (hconfig : b.config = b₁.config) (hmetadata : b.schema.metadata = b₁.schema.metadata)
    (h : b.field line text decl = .ok f) :
    ∃ g, b₁.field line text decl = .ok g ∧ g.uncommented = f.uncommented := by
  obtain ⟨array, bound, harray, hbound, rfl⟩ := field_eq_ok_iff.1 h
  refine ⟨_, field_eq_ok_iff.2 ⟨array, bound, harray, hbound, rfl⟩, ?_⟩
  rw [hconfig, hmetadata]
  rfl

/-- **What a line adds, it adds on its own.** A line without a fault adds the
field or the constant that it declares alone, comments aside, and it adds one
of them just when it is neither blank nor a comment. -/
theorem feed_alone (hconfig : b.config = config) (hmetadata : b.schema.metadata = metadata)
    (h : b.feed l.1 l.2 = (b', none)) :
    b'.schema.fields.map Field.uncommented = b.schema.fields.map Field.uncommented ++
        ((alone config metadata l).field?.map Field.uncommented).toList ∧
      b'.schema.constants.map Constant.uncommented = b.schema.constants.map Constant.uncommented ++
        ((alone config metadata l).constant?.map Constant.uncommented).toList ∧
      (isDeclarationLine l.2 = true ↔ alone config metadata l ≠ .nothing) := by
  have hf := feed_cases b l.1 l.2
  rw [h] at hf
  cases hf with
  | comment content =>
    rw [alone_comment content, isDeclarationLine_of_comment content]
    simp [Contribution.field?, Contribution.constant?, withPending]
  | blank content =>
    rw [alone_blank content, isDeclarationLine_of_blank content]
    simp [Contribution.field?, Contribution.constant?, withPending]
  | @field decl f content built =>
    obtain ⟨g, hg, huncommented⟩ :=
      field_uncommented (start config metadata) hconfig hmetadata built
    rw [alone_field content hg, isDeclarationLine_of_declaration content]
    simp [Contribution.field?, Contribution.constant?, huncommented]
  | @constant decl content known =>
    have huncommented : ((start config metadata).constant l.1 decl).uncommented =
        (b.constant l.1 decl).uncommented := rfl
    rw [alone_constant content, isDeclarationLine_of_declaration content]
    simp [Contribution.field?, Contribution.constant?, huncommented]

/-! ## All lines together -/

/-- The fields of the lines, each on its own. -/
def fieldsAlone (config : Config) (metadata : Metadata) (ls : List NumberedLine) : List Field :=
  ls.filterMap fun l => (alone config metadata l).field?.map Field.uncommented

/-- The constants of the lines, each on its own. -/
def constantsAlone (config : Config) (metadata : Metadata) (ls : List NumberedLine) : List Constant :=
  ls.filterMap fun l => (alone config metadata l).constant?.map Constant.uncommented

/-- The builder has read the lines one by one: what it holds, comments aside,
is what each line declares on its own. -/
structure Mirrors (config : Config) (metadata : Metadata) (ls : List NumberedLine) (b : Builder) :
    Prop where
  settings : b.config = config
  identity : b.schema.metadata = metadata
  fields : b.schema.fields.map Field.uncommented = fieldsAlone config metadata ls
  constants : b.schema.constants.map Constant.uncommented = constantsAlone config metadata ls
  declared : ∀ l ∈ ls, isDeclarationLine l.2 = true ↔ alone config metadata l ≠ .nothing

theorem Mirrors.step (h : Mirrors config metadata ls b) (hfeed : b.feed l.1 l.2 = (b', none)) :
    Mirrors config metadata (ls ++ [l]) b' := by
  obtain ⟨hfields, hconstants, hdeclared⟩ := feed_alone h.settings h.identity hfeed
  have hb' : b' = (b.feed l.1 l.2).1 := by rw [hfeed]
  refine ⟨by rw [hb', feed_config, h.settings], by rw [hb', feed_metadata, h.identity], ?_, ?_, ?_⟩
  · rw [hfields, h.fields, fieldsAlone, fieldsAlone, filterMap_concat]
  · rw [hconstants, h.constants, constantsAlone, constantsAlone, filterMap_concat]
  · intro k hk
    rcases List.mem_append.1 hk with hk | hk
    · exact h.declared k hk
    · rw [List.mem_singleton.1 hk]
      exact hdeclared

theorem Feeds.mirrors (h : Feeds (start config metadata) ls b) : Mirrors config metadata ls b :=
  h.history (P := Mirrors config metadata) (fun _ _ _ _ hfeed hb => hb.step hfeed)
    ⟨rfl, rfl, rfl, rfl, List.forall_mem_nil _⟩

/-! ## Line numbers -/

theorem line_of_alone_field {f : Field} (h : alone config metadata l = .field f) : f.line = l.1 := by
  obtain ⟨b, hread⟩ := read_of_alone h Contribution.noConfusion
  obtain ⟨decl, -, built⟩ := read_eq_field hread
  obtain ⟨array, bound, -, -, rfl⟩ := field_eq_ok_iff.1 built
  rfl

theorem line_of_alone_constant {c : Constant} (h : alone config metadata l = .constant c) :
    c.line = l.1 := by
  obtain ⟨b, hread⟩ := read_of_alone h Contribution.noConfusion
  obtain ⟨decl, -, rfl⟩ := read_eq_constant hread
  rfl

/-- The lines that alone are fields. -/
def fieldLines (config : Config) (metadata : Metadata) (ls : List NumberedLine) : List NumberedLine :=
  ls.filter fun l => (alone config metadata l).field?.isSome

/-- The lines that alone are constants. -/
def constantLines (config : Config) (metadata : Metadata) (ls : List NumberedLine) : List NumberedLine :=
  ls.filter fun l => (alone config metadata l).constant?.isSome

theorem Mirrors.fields_line (h : Mirrors config metadata ls b) :
    b.schema.fields.map (·.line) = (fieldLines config metadata ls).map (·.1) := by
  have hmap : b.schema.fields.map (·.line) = (fieldsAlone config metadata ls).map (·.line) := by
    rw [← h.fields, List.map_map]
    rfl
  have hkey : ∀ (l : NumberedLine) (f : Field),
      (alone config metadata l).field?.map Field.uncommented = some f → f.line = l.1 := by
    intro l f hl
    obtain ⟨g, hg, rfl⟩ := Option.map_eq_some_iff.1 hl
    have hline : g.line = l.1 := line_of_alone_field (Contribution.field?_eq_some hg)
    exact hline
  rw [hmap, fieldsAlone, map_filterMap_of_key hkey, fieldLines]
  simp only [Option.isSome_map]

theorem Mirrors.constants_line (h : Mirrors config metadata ls b) :
    b.schema.constants.map (·.line) = (constantLines config metadata ls).map (·.1) := by
  have hmap : b.schema.constants.map (·.line) = (constantsAlone config metadata ls).map (·.line) := by
    rw [← h.constants, List.map_map]
    rfl
  have hkey : ∀ (l : NumberedLine) (c : Constant),
      (alone config metadata l).constant?.map Constant.uncommented = some c → c.line = l.1 := by
    intro l c hl
    obtain ⟨d, hd, rfl⟩ := Option.map_eq_some_iff.1 hl
    have hline : d.line = l.1 := line_of_alone_constant (Contribution.constant?_eq_some hd)
    exact hline
  rw [hmap, constantsAlone, map_filterMap_of_key hkey, constantLines]
  simp only [Option.isSome_map]

/-- Every declaration is a field or a constant, and not both. -/
theorem Mirrors.perm (h : Mirrors config metadata ls b) :
    (fieldLines config metadata ls ++ constantLines config metadata ls).Perm
      (ls.filter fun l => isDeclarationLine l.2) := by
  have hsplit := List.filter_append_perm (fun l => (alone config metadata l).field?.isSome)
    (ls.filter fun l => isDeclarationLine l.2)
  rw [List.filter_filter, List.filter_filter] at hsplit
  have hfield : ∀ l ∈ ls, ((alone config metadata l).field?.isSome && isDeclarationLine l.2) =
      (alone config metadata l).field?.isSome := by
    intro l hl
    have hdeclared := h.declared l hl
    cases hadds : alone config metadata l with
    | field f =>
      rw [hadds] at hdeclared
      simp [hdeclared, Contribution.field?]
    | constant c => rfl
    | nothing => rfl
  have hconstant : ∀ l ∈ ls, (!(alone config metadata l).field?.isSome && isDeclarationLine l.2) =
      (alone config metadata l).constant?.isSome := by
    intro l hl
    have hdeclared := h.declared l hl
    cases hadds : alone config metadata l with
    | field f => rfl
    | constant c =>
      rw [hadds] at hdeclared
      simp [hdeclared, Contribution.field?, Contribution.constant?]
    | nothing =>
      rw [hadds] at hdeclared
      simpa [Contribution.field?, Contribution.constant?] using hdeclared
  rw [List.filter_congr hfield, List.filter_congr hconstant] at hsplit
  exact hsplit

/-- Every field of the schema is a line's own. -/
theorem Mirrors.field_of_mem (h : Mirrors config metadata ls b) {f : Field} (hf : f ∈ b.schema.fields) :
    ∃ source g b', (f.line, source) ∈ ls ∧
      (start config metadata).read f.line source = .ok (.field g, b') ∧ f.uncommented = g.uncommented := by
  obtain ⟨⟨line, source⟩, hl, g, hg, huncommented⟩ := exists_of_map_eq_filterMap h.fields hf
  have hg := Contribution.field?_eq_some hg
  obtain ⟨b', hread⟩ := read_of_alone hg Contribution.noConfusion
  obtain rfl : f.line = line := calc
    f.line = g.line := (congrArg Field.line huncommented).symm
    _ = line := line_of_alone_field hg
  exact ⟨source, g, b', hl, hread, huncommented.symm⟩

/-- Every constant of the schema is a line's own. -/
theorem Mirrors.constant_of_mem (h : Mirrors config metadata ls b) {c : Constant}
    (hc : c ∈ b.schema.constants) :
    ∃ source d b', (c.line, source) ∈ ls ∧
      (start config metadata).read c.line source = .ok (.constant d, b') ∧
        c.uncommented = d.uncommented := by
  obtain ⟨⟨line, source⟩, hl, d, hd, huncommented⟩ := exists_of_map_eq_filterMap h.constants hc
  have hd := Contribution.constant?_eq_some hd
  obtain ⟨b', hread⟩ := read_of_alone hd Contribution.noConfusion
  obtain rfl : c.line = line := calc
    c.line = d.line := (congrArg Constant.line huncommented).symm
    _ = line := line_of_alone_constant hd
  exact ⟨source, d, b', hl, hread, huncommented.symm⟩

end Builder

/-- The numbers of the lines of a text that are neither blank nor comments. -/
def declarationLines (text : String) : List Nat :=
  ((numberedLines text).filter fun l => isDeclarationLine l.2).map (·.1)

/-- **Every declaration has its place, and none depends on the others.** The
fields of a message stand in the order of their lines, and so do its
constants; together they take every line that is neither blank nor a comment,
once each; and what stands on a line is, its comment aside, what the line
alone declares. -/
theorem Schema.ofText_places_declarations {config : Config} {metadata : Metadata} {text : String}
    {s : Schema} (h : Schema.ofText config metadata text = .ok s) :
    (s.fields.map (·.line)).Pairwise (· < ·) ∧
      (s.constants.map (·.line)).Pairwise (· < ·) ∧
      (s.fields.map (·.line) ++ s.constants.map (·.line)).Perm (declarationLines text) ∧
      (∀ f ∈ s.fields, ∃ source g b, (f.line, source) ∈ numberedLines text ∧
        (Builder.start config metadata).read f.line source = .ok (.field g, b) ∧
          f.uncommented = g.uncommented) ∧
      ∀ c ∈ s.constants, ∃ source d b, (c.line, source) ∈ numberedLines text ∧
        (Builder.start config metadata).read c.line source = .ok (.constant d, b) ∧
          c.uncommented = d.uncommented := by
  obtain ⟨b, hrun, rfl⟩ := Builder.feedAll_eq_ok_iff.1 h
  have hmirrors := hrun.mirrors
  refine ⟨?_, ?_, ?_, fun f hf => hmirrors.field_of_mem hf, fun c hc => hmirrors.constant_of_mem hc⟩
  · rw [hmirrors.fields_line]
    exact pairwise_filter_numberFrom _ 1 _
  · rw [hmirrors.constants_line]
    exact pairwise_filter_numberFrom _ 1 _
  · rw [hmirrors.fields_line, hmirrors.constants_line, ← List.map_append]
    exact hmirrors.perm.map _

/-- A constant between two fields, with comments and a blank line. -/
theorem Schema.ofText_places_constant_between :
    ∃ s, Schema.ofText .standard ⟨"p", "M", .message⟩
        "# above\nbool a # own\n\nint8 K=1\n  # b\nq/T b" = .ok s ∧
      s.fields.map (·.line) = [2, 6] ∧ s.constants.map (·.line) = [4] ∧
      [2, 6, 4].Perm (declarationLines "# above\nbool a # own\n\nint8 K=1\n  # b\nq/T b") ∧
      ∀ f ∈ s.fields, ∃ source g b,
        (Builder.start .standard ⟨"p", "M", .message⟩).read f.line source = .ok (.field g, b) ∧
          f.uncommented = g.uncommented := by
  obtain ⟨s, hread⟩ : ∃ s, Schema.ofText .standard ⟨"p", "M", .message⟩
      "# above\nbool a # own\n\nint8 K=1\n  # b\nq/T b" = .ok s := ⟨_, rfl⟩
  have hfields : s.fields.map (·.line) = [2, 6] := by
    cases hread
    rfl
  have hconstants : s.constants.map (·.line) = [4] := by
    cases hread
    rfl
  obtain ⟨-, -, hperm, halone, -⟩ := Schema.ofText_places_declarations hread
  rw [hfields, hconstants] at hperm
  refine ⟨s, hread, hfields, hconstants, hperm, ?_⟩
  intro f hf
  obtain ⟨source, g, b, -, hsource, huncommented⟩ := halone f hf
  exact ⟨source, g, b, hsource, huncommented⟩

end MessageSchema
