/-
Two texts with a blank line between them. The blank line drops the waiting
comments, so all that the second text finds of the first is its schema. A
builder never looks at the schema it adds to, save for its identity, so it
adds the same on top of another one (`feedAll_onto`): with a blank line
between them, texts are read one by one and the second schema follows the
first (`ofText_blank_between`).
-/
import MessageSchema.Proofs.Builder.Renumber
import MessageSchema.Proofs.Builder.Simulation
import MessageSchema.Proofs.Imports.Merge

namespace MessageSchema

open Text

namespace Schema

/-! ## One schema after another -/

/-- The declarations of `s` and after them those of `t`, which also names the
identity; of a package that both import, `t` names the alias. -/
def followedBy (s t : Schema) : Schema :=
  { t with
    fields := s.fields ++ t.fields
    constants := s.constants ++ t.constants
    imports := s.imports.merge t.imports }

variable (s t : Schema)

theorem followedBy_empty : s.followedBy (.empty s.metadata) = s := by
  simp [followedBy, empty]

theorem register_followedBy (r : ResolvedType) :
    (s.followedBy t).register r = s.followedBy (t.register r) := by
  unfold register
  split
  · simp only [followedBy, Imports.insert_merge]
  · rfl

theorem addField_followedBy (f : Field) : (s.followedBy t).addField f = s.followedBy (t.addField f) := by
  simp only [addField, register_followedBy]
  simp [followedBy]

theorem addConstant_followedBy (c : Constant) :
    (s.followedBy t).addConstant c = s.followedBy (t.addConstant c) := by
  simp [addConstant, followedBy]

end Schema

namespace Builder

/-! ## Building on top of a schema -/

/-- The builder with its schema on top of another one. -/
def onto (b : Builder) (s : Schema) : Builder :=
  { b with schema := s.followedBy b.schema }

/-- A line is read the same on top of any schema. -/
theorem feed_onto (b : Builder) (s : Schema) (line : Nat) (text : String) :
    (b.onto s).feed line text = ((b.feed line text).1.onto s, (b.feed line text).2) := by
  rw [feed_eq_feedContent, feed_eq_feedContent]
  generalize LineContent.of (trimmed text) = content
  cases content with
  | comment comment => rfl
  | blank => rfl
  | malformed => rfl
  | declaration decl =>
    cases decl with
    | constant decl =>
      have hconstant : (b.onto s).constant line decl = b.constant line decl := rfl
      have hadd : (b.onto s).schema.addConstant (b.constant line decl) =
          s.followedBy (b.schema.addConstant (b.constant line decl)) := s.addConstant_followedBy b.schema _
      simp only [feedContent, hconstant, hadd]
      rfl
    | field decl =>
      -- the schema counts for its identity alone, which is that of `b`
      have hfield : (b.onto s).field line (trimmed text) decl = b.field line (trimmed text) decl := rfl
      simp only [feedContent, hfield]
      cases b.field line (trimmed text) decl with
      | error e => rfl
      | ok f =>
        have hadd : (b.onto s).schema.addField f = s.followedBy (b.schema.addField f) :=
          s.addField_followedBy b.schema f
        simp only [hadd]
        rfl

/-- **Lines are read the same on top of any schema.** -/
theorem feedAll_onto (b : Builder) (s : Schema) (first : Nat) (ls : List String) :
    (b.onto s).feedAll (numberFrom first ls) =
      match b.feedAll (numberFrom first ls) with
      | .ok t => .ok (s.followedBy t)
      | .error failure => .error (failure.map s.followedBy) := by
  have hls : List.Forall₂ Eq ls ls := List.forall₂_same.2 fun _ _ => rfl
  have halike : Alike Eq (fun t t' => t = s.followedBy t') ((b.onto s).feedAll (numberFrom first ls))
      (b.feedAll (numberFrom first ls)) := by
    refine feedAll_alike (R := fun b b' => b = b'.onto s) ?step ?schema rfl hls first
    case step =>
      intro b b' line source source' hb hsource
      simp only [hb, hsource, feed_onto, optionRel_eq_iff, and_self]
    case schema =>
      intro b b' hb
      rw [hb]
      rfl
  rw [halike.eq_map]
  cases b.feedAll (numberFrom first ls) <;> rfl

/-! ## After a blank line -/

variable {config : Config} {metadata : Metadata} {b : Builder} {ls : List NumberedLine}

/-- After a blank line a builder is one that starts on top of what was read. -/
theorem Feeds.blank_eq_onto (h : Feeds (start config metadata) ls b) :
    b.withPending .empty = (start config metadata).onto b.schema := by
  have hconfig : b.config = config :=
    h.keeps (P := fun b => b.config = config) (fun b line text hb => (feed_config b line text).trans hb) rfl
  have hmetadata : b.schema.metadata = metadata :=
    h.keeps (P := fun b => b.schema.metadata = metadata)
      (fun b line text hb => (feed_metadata b line text).trans hb) rfl
  have hschema : b.schema.followedBy (.empty metadata) = b.schema := by
    rw [← hmetadata]
    exact b.schema.followedBy_empty
  simp only [withPending, onto, start, hschema, hconfig]

theorem Feeds.feedAll_blank (h : Feeds (start config metadata) ls b) (line : Nat) (ms : List NumberedLine) :
    b.feedAll ((line, "") :: ms) = ((start config metadata).onto b.schema).feedAll ms := by
  rw [← h.blank_eq_onto]
  rfl

end Builder

namespace Text

/-- Two texts with a blank line between them. -/
theorem lines_blank_between (t t' : String) : lines (t ++ "\n\n" ++ t') = lines t ++ "" :: lines t' := by
  have hline : lines "" = [""] := rfl
  rw [show "\n\n" = "\n" ++ "" ++ "\n" from rfl, lines_line_between hline]

theorem numberedLines_blank_between (t t' : String) :
    numberedLines (t ++ "\n\n" ++ t') =
      numberedLines t ++ ((lines t).length + 1, "") :: numberFrom ((lines t).length + 2) (lines t') := by
  rw [numberedLines, lines_blank_between, numberFrom_append, Nat.add_comm 1]
  rfl

end Text

/-- **Reading is compositional across a blank line.** A fault in the first
text is the fault of the whole. Otherwise the whole is read as far as the
second text is, and what was read of the second follows the schema of the
first, counted on from the blank line, as is its fault. -/
theorem Schema.ofText_blank_between (config : Config) (metadata : Metadata) (t t' : String) :
    ofText config metadata (t ++ "\n\n" ++ t') =
      match ofText config metadata t, ofText config metadata t' with
      | .error failure, _ => .error failure
      | .ok s, .ok s' => .ok (s.followedBy (s'.renumber (· + ((lines t).length + 1))))
      | .ok s, .error failure =>
        .error ((failure.map fun s' => s.followedBy (s'.renumber (· + ((lines t).length + 1)))).mapCause
          (.renumber (· + ((lines t).length + 1)))) := by
  have hwhole : ofText config metadata (t ++ "\n\n" ++ t') = (Builder.start config metadata).feedAll
      (numberedLines t ++ ((lines t).length + 1, "") :: numberFrom ((lines t).length + 2) (lines t')) := by
    rw [ofText, Builder.feedText, numberedLines_blank_between]
  rw [hwhole]
  cases hfirst : ofText config metadata t with
  | error failure => rw [Builder.feedAll_append_error hfirst]
  | ok s =>
    obtain ⟨b, hrun, rfl⟩ := Builder.feedAll_eq_ok_iff.1 hfirst
    rw [hrun.feedAll_append, hrun.feedAll_blank, Builder.feedAll_onto, Builder.feedAll_numberFrom]
    cases ofText config metadata t' with
    | ok s' => rfl
    | error failure =>
      obtain ⟨assembled, cause⟩ := failure
      cases assembled <;> rfl

end MessageSchema
