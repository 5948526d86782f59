/-
What is said about a declaration. While a section is read, comment lines are
pushed, dropped and handed out one by one; the source shows the result at a
glance. The comment of a declaration is the one on its own line and the block
of comment lines directly above it (`Documented.comments`). A block belongs to
one declaration at most, and to none when a blank line or the end of the
section comes after it.

The invariant that carries this ties the comments that wait, at any point of a
run, to the block that ends the lines read so far (`Documents.pending`).
-/
import MessageSchema.Proofs.Declaration.Content
import MessageSchema.Proofs.Service.Sections
import Mathlib.Data.List.DropRight

namespace MessageSchema

open Text

variable {ls : List String} {first : Nat} {s : Schema}

/-! ## Comments in the source -/

/-- The comment lines at the end of some lines. -/
def commentBlock (ls : List String) : List String :=
  ls.rtakeWhile isCommentLine

/-- What comment lines say, those that say nothing left out. -/
def commentTexts (ls : List String) : List String :=
  (ls.map lineComment).filter (· ≠ "")

/-- What is said directly above a line that comes after the given lines. -/
def commentAbove (before : List String) : String :=
  joinLines (commentTexts (commentBlock before))

/-- The comment on a line and the one above it, as one text. -/
def combine (own above : String) : String :=
  if own = "" then above
  else if above = "" then own
  else own ++ ". " ++ above

/-- Line `j` belongs to the comment block directly above line `i`. -/
def AttachedTo (ls : List String) (j i : Nat) : Prop :=
  i ≤ j + (commentBlock (ls.take i)).length ∧ j < i

theorem commentBlock_concat_comment {l : String} (h : isCommentLine l = true) :
    commentBlock (ls ++ [l]) = commentBlock ls ++ [l] :=
  List.rtakeWhile_concat_pos _ _ _ h

theorem commentBlock_concat {l : String} (h : isCommentLine l = false) : commentBlock (ls ++ [l]) = [] :=
  List.rtakeWhile_concat_neg _ _ _ (by rw [h]; exact Bool.false_ne_true)

theorem commentTexts_concat (ls : List String) (l : String) :
    commentTexts (ls ++ [l]) =
      if lineComment l = "" then commentTexts ls else commentTexts ls ++ [lineComment l] := by
  unfold commentTexts
  rw [List.map_append, List.filter_append]
  split
  · next h => simp [h]
  · next h => simp [h]

theorem ne_empty_of_mem_commentTexts {t : String} (h : t ∈ commentTexts ls) : t ≠ "" := by
  have hne := (List.mem_filter.1 h).2
  simpa using hne

/-- The block above a line reaches up to line `j` just when all lines from
there on are comments. -/
theorem le_add_length_commentBlock_iff {i j : Nat} (hi : i ≤ ls.length) (hj : j ≤ i) :
    i ≤ j + (commentBlock (ls.take i)).length ↔
      ∀ n, j ≤ n → n < i → ∃ l, ls[n]? = some l ∧ isCommentLine l = true := by
  induction i, hj using Nat.le_induction with
  | base =>
    refine iff_of_true (Nat.le_add_right _ _) ?_
    intro n hn hlt
    omega
  | succ i hj ih =>
    have hsplit : ls.take (i + 1) = ls.take i ++ [ls[i]] := List.take_succ_eq_append_getElem hi
    have hget : ls[i]? = some ls[i] := List.getElem?_eq_getElem hi
    rw [hsplit]
    cases hkind : isCommentLine ls[i] with
    | true =>
      rw [commentBlock_concat_comment hkind, List.length_append, List.length_singleton, ← Nat.add_assoc,
        Nat.add_le_add_iff_right, ih (by omega)]
      constructor
      · intro h n hn hlt
        rcases Nat.lt_succ_iff_lt_or_eq.1 hlt with hlt | rfl
        · exact h n hn hlt
        · exact ⟨_, hget, hkind⟩
      · intro h n hn hlt
        exact h n hn (by omega)
    | false =>
      rw [commentBlock_concat hkind, List.length_nil]
      refine iff_of_false (by omega) ?_
      intro h
      obtain ⟨l, hl, hcomment⟩ := h i hj (by omega)
      rw [hget] at hl
      cases hl
      rw [hkind] at hcomment
      cases hcomment

theorem attachedTo_iff {i j : Nat} (hi : i ≤ ls.length) :
    AttachedTo ls j i ↔
      j < i ∧ ∀ n, j ≤ n → n < i → ∃ l, ls[n]? = some l ∧ isCommentLine l = true := by
  constructor
  · intro h
    exact ⟨h.2, (le_add_length_commentBlock_iff hi h.2.le).1 h.1⟩
  · intro h
    exact ⟨(le_add_length_commentBlock_iff hi h.1.le).2 h.2, h.1⟩

/-! ## Comments that wait -/

theorem joinLines_ne_empty {t : String} {ts : List String} (h : t ≠ "") : joinLines (t :: ts) ≠ "" := by
  have hne : t.toList ≠ [] := by simpa using h
  have htext : (joinLines (t :: ts)).toList ≠ [] := by
    rw [joinLines, String.toList_intercalate]
    cases ts with
    | nil => simpa using hne
    | cons u us => simp [hne]
  simpa using htext

theorem joinLines_eq_empty_iff {ts : List String} (h : ∀ t ∈ ts, t ≠ "") : joinLines ts = "" ↔ ts = [] := by
  cases ts with
  | nil => exact iff_of_true rfl rfl
  | cons t ts =>
    exact iff_of_false (joinLines_ne_empty (h t List.mem_cons_self)) (List.cons_ne_nil _ _)

/-- Comments that wait, all with text, are joined and put after the own
comment of a declaration. -/
theorem PendingComment.attach_eq_combine {c : PendingComment} (h : ∀ t ∈ c.lines, t ≠ "")
    (own : Option String) : c.attach own = combine (own.getD "") (joinLines c.lines) := by
  by_cases hlines : c.lines = []
  · have hwaiting : c.isEmpty = true := List.isEmpty_iff.2 hlines
    have hjoined : joinLines c.lines = "" := (joinLines_eq_empty_iff h).2 hlines
    simp only [attach, if_pos hwaiting, combine, hjoined, if_true]
    split
    · assumption
    · rfl
  · have hwaiting : ¬ c.isEmpty = true := mt List.isEmpty_iff.1 hlines
    have hjoined : joinLines c.lines ≠ "" := mt (joinLines_eq_empty_iff h).1 hlines
    simp only [attach, if_neg hwaiting, combine, if_neg hjoined]
    rfl

/-! ## Comments in a schema -/

/-- The comments of all declarations, each with its line number. -/
def Schema.remarks (s : Schema) : List (Nat × String) :=
  s.fields.map (fun f => (f.line, f.comment)) ++ s.constants.map fun c => (c.line, c.comment)

theorem Schema.mem_remarks_addField {f : Field} {r : Nat × String} :
    r ∈ (s.addField f).remarks ↔ r ∈ s.remarks ∨ r = (f.line, f.comment) := by
  simp only [remarks, addField_fields, addField_constants, List.map_append, List.map_cons, List.map_nil,
    List.mem_append, List.mem_singleton]
  exact or_right_comm

theorem Schema.mem_remarks_addConstant {c : Constant} {r : Nat × String} :
    r ∈ (s.addConstant c).remarks ↔ r ∈ s.remarks ∨ r = (c.line, c.comment) := by
  simp only [remarks, addConstant_fields, addConstant_constants, List.map_append, List.map_cons,
    List.map_nil, List.mem_append, List.mem_singleton]
  exact (or_assoc).symm

namespace Builder

variable {config : Config} {metadata : Metadata} {b b' : Builder} {l : NumberedLine}
  {ls : List NumberedLine}

/-- A comment that stands where it should: on a declaration of the given
lines, made of what that line and the block above it say. -/
def Explained (ls : List NumberedLine) (r : Nat × String) : Prop :=
  ∃ before source after, ls = before ++ (r.1, source) :: after ∧ isDeclarationLine source = true ∧
    r.2 = combine (lineComment source) (commentAbove (before.map (·.2)))

/-- The builder has read the lines one by one: the block that ends them is
waiting, and the comments of the schema stand where they should. -/
structure Documents (ls : List NumberedLine) (b : Builder) : Prop where
  pending : b.pending.lines = commentTexts (commentBlock (ls.map (·.2)))
  remarks : ∀ r ∈ b.schema.remarks, Explained ls r

theorem Explained.concat {r : Nat × String} (h : Explained ls r) (l : NumberedLine) :
    Explained (ls ++ [l]) r := by
  obtain ⟨before, source, after, rfl, hdeclaration, hcomment⟩ := h
  exact ⟨before, source, after ++ [l], by simp, hdeclaration, hcomment⟩

/-- What a declaration is given is what stands on its line and above it. -/
theorem Documents.explained (h : Documents ls b) {d : Declaration}
    (content : LineContent.of (trimmed l.2) = .declaration d) :
    Explained (ls ++ [l]) (l.1, b.pending.attach d.comment) := by
  refine ⟨ls, l.2, [], rfl, isDeclarationLine_of_declaration content, ?_⟩
  have hne : ∀ t ∈ b.pending.lines, t ≠ "" := by
    intro t ht
    rw [h.pending] at ht
    exact ne_empty_of_mem_commentTexts ht
  rw [PendingComment.attach_eq_combine hne, comment_of_declaration content, h.pending, commentAbove]

theorem Documents.step (h : Documents ls b) (hfeed : b.feed l.1 l.2 = (b', none)) :
    Documents (ls ++ [l]) b' := by
  have hf := feed_cases b l.1 l.2
  rw [hfeed] at hf
  have hold : ∀ r ∈ b.schema.remarks, Explained (ls ++ [l]) r := fun r hr => (h.remarks r hr).concat l
  have hdropped : isCommentLine l.2 = false → commentTexts (commentBlock ((ls ++ [l]).map (·.2))) = [] := by
    intro hkind
    rw [List.map_append, List.map_cons, List.map_nil, commentBlock_concat hkind]
    rfl
  cases hf with
  | @comment t content =>
    refine ⟨?_, hold⟩
    rw [List.map_append, List.map_cons, List.map_nil,
      commentBlock_concat_comment (isCommentLine_of_comment content), commentTexts_concat, ← h.pending,
      ← lineComment_of_comment content, withPending, PendingComment.push]
    split <;> rfl
  | blank content => exact ⟨(hdropped (isCommentLine_of_blank content)).symm, hold⟩
  | @field decl f content built =>
    have hkind := isCommentLine_of_isDeclarationLine (isDeclarationLine_of_declaration content)
    obtain ⟨array, bound, -, -, rfl⟩ := field_eq_ok_iff.1 built
    refine ⟨(hdropped hkind).symm, ?_⟩
    intro r hr
    rcases Schema.mem_remarks_addField.1 hr with hr | rfl
    · exact hold r hr
    · exact h.explained content
  | @constant decl content known =>
    have hkind := isCommentLine_of_isDeclarationLine (isDeclarationLine_of_declaration content)
    refine ⟨(hdropped hkind).symm, ?_⟩
    intro r hr
    rcases Schema.mem_remarks_addConstant.1 hr with hr | rfl
    · exact hold r hr
    · exact h.explained content

theorem Feeds.documents (h : Feeds (start config metadata) ls b) : Documents ls b :=
  h.history (P := Documents) (fun _ _ _ _ hfeed hb => hb.step hfeed) ⟨rfl, List.forall_mem_nil _⟩

end Builder

/-! ## Comments and their lines -/

/-- How the comments of a schema come from the lines of its section, the
first of which has the number `first`. -/
structure Documented (first : Nat) (ls : List String) (s : Schema) : Prop where
  /-- The comment of a declaration is made of the one on its line and of the
  block directly above. -/
  comments : ∀ r ∈ s.remarks, ∃ i source, r.1 = first + i ∧ ls[i]? = some source ∧
    isDeclarationLine source = true ∧ r.2 = combine (lineComment source) (commentAbove (ls.take i))
  /-- No line belongs to the blocks of two declarations. -/
  once : ∀ r ∈ s.remarks, ∀ r' ∈ s.remarks, ∀ i i' j, r.1 = first + i → r'.1 = first + i' →
    AttachedTo ls j i → AttachedTo ls j i' → r.1 = r'.1
  /-- Comment lines before a blank line or the end belong to no declaration. -/
  lost : ∀ j m, j < m → (∀ n, j ≤ n → n < m → ∃ l, ls[n]? = some l ∧ isCommentLine l = true) →
    (∀ l, ls[m]? = some l → trimmed l = "") →
    ∀ r ∈ s.remarks, ∀ i, r.1 = first + i → ¬ AttachedTo ls j i

/-- A line with a declaration on it is no line of a comment block. -/
theorem not_isCommentLine_of_attachedTo {i i' j : Nat} {source : String} (hi' : i' ≤ ls.length)
    (hsource : ls[i]? = some source) (hdeclaration : isDeclarationLine source = true)
    (hattached : AttachedTo ls j i') : ¬ (j ≤ i ∧ i < i') := by
  intro hbetween
  obtain ⟨l, hl, hcomment⟩ := ((attachedTo_iff hi').1 hattached).2 i hbetween.1 hbetween.2
  rw [hsource] at hl
  cases hl
  rw [isCommentLine_of_isDeclarationLine hdeclaration] at hcomment
  cases hcomment

theorem documented_of_comments
    (comments : ∀ r ∈ s.remarks, ∃ i source, r.1 = first + i ∧ ls[i]? = some source ∧
      isDeclarationLine source = true ∧ r.2 = combine (lineComment source) (commentAbove (ls.take i))) :
    Documented first ls s := by
  have hdeclared : ∀ r ∈ s.remarks, ∀ i, r.1 = first + i →
      i ≤ ls.length ∧ ∃ source, ls[i]? = some source ∧ isDeclarationLine source = true := by
    intro r hr i hi
    obtain ⟨k, source, hk, hsource, hdeclaration, -⟩ := comments r hr
    obtain rfl : k = i := by omega
    exact ⟨(List.getElem?_eq_some_iff.1 hsource).1.le, source, hsource, hdeclaration⟩
  refine ⟨comments, ?_, ?_⟩
  · intro r hr r' hr' i i' j hi hi' hattached hattached'
    obtain ⟨hlen, source, hsource, hdeclaration⟩ := hdeclared r hr i hi
    obtain ⟨hlen', source', hsource', hdeclaration'⟩ := hdeclared r' hr' i' hi'
    -- the lower declaration would stand within the block of the other
    have hle := not_isCommentLine_of_attachedTo hlen' hsource hdeclaration hattached'
    have hge := not_isCommentLine_of_attachedTo hlen hsource' hdeclaration' hattached
    have hj := hattached.2
    have hj' := hattached'.2
    omega
  · intro j m hj hcomments hend r hr i hi hattached
    obtain ⟨hlen, source, hsource, hdeclaration⟩ := hdeclared r hr i hi
    have hblock := ((attachedTo_iff hlen).1 hattached)
    rcases Nat.lt_trichotomy i m with him | rfl | hmi
    · obtain ⟨l, hl, hcomment⟩ := hcomments i hblock.1.le him
      rw [hsource] at hl
      cases hl
      rw [isCommentLine_of_isDeclarationLine hdeclaration] at hcomment
      cases hcomment
    · exact trimmed_ne_of_isDeclarationLine hdeclaration (hend source hsource)
    · obtain ⟨l, hl, hcomment⟩ := hblock.2 m hj.le hmi
      rw [isCommentLine, hend l hl] at hcomment
      cases hcomment

/-- Sections that are read have their comments where they should be. -/
theorem Builder.documented {config : Config} {metadata : Metadata}
    (h : (start config metadata).feedAll (numberFrom first ls) = .ok s) : Documented first ls s := by
  obtain ⟨b, hrun, rfl⟩ := feedAll_eq_ok_iff.1 h
  refine documented_of_comments ?_
  intro r hr
  obtain ⟨before, source, after, hls, hdeclaration, hcomment⟩ := hrun.documents.remarks r hr
  obtain ⟨before, source', after, rfl, rfl, hr⟩ := numberFrom_eq_append_cons hls
  obtain ⟨hline, rfl⟩ := Prod.mk.inj hr
  refine ⟨before.length, source, hline, by simp, hdeclaration, ?_⟩
  rw [hcomment, map_snd_numberFrom, List.take_left]

/-- **Comments stay with their declarations.** In a message, and in either
half of a service within its own section, the comment of a declaration is made
of the one on its line and of the block of comment lines directly above it; no
comment line counts for two declarations, and none counts for any when its
block ends at a blank line or with the section. -/
theorem Schema.ofText_documented (config : Config) :
    (∀ metadata text s, Schema.ofText config metadata text = .ok s → Documented 1 (lines text) s) ∧
      ∀ package name text v, Service.ofText config package name text = .ok v →
        ∃ source, ServiceSource.Divides (lines text) source ∧
          Documented source.request.firstLine source.request.lines v.request ∧
          Documented source.response.firstLine source.response.lines v.response := by
  constructor
  · intro metadata text s h
    exact Builder.documented h
  · intro package name text v h
    obtain ⟨source, hsource, hrequest, hresponse⟩ := Service.ofText_eq_ok h
    exact ⟨source, ServiceSource.ofLines_eq_ok_iff.1 hsource, Builder.documented hrequest,
      Builder.documented hresponse⟩

/-- A block below a blank line, with an empty comment in it, and blocks on
both sides of a delimiter. -/
theorem Schema.ofText_documented_blocks :
    (∃ s, Schema.ofText .standard ⟨"p", "M", .message⟩
        "# lost\n\n# a\n#\n# b\nbool x # own\n# end" = .ok s ∧ s.remarks = [(6, "own. a\nb")] ∧
      Documented 1 (lines "# lost\n\n# a\n#\n# b\nbool x # own\n# end") s) ∧
    ∃ v source, Service.ofText .standard "p" "S" "# a\nbool x\n# lost\n---\n# b\nint8 K=1" = .ok v ∧
      v.request.remarks = [(2, "a")] ∧ v.response.remarks = [(6, "b")] ∧
      ServiceSource.Divides (lines "# a\nbool x\n# lost\n---\n# b\nint8 K=1") source ∧
      Documented source.request.firstLine source.request.lines v.request ∧
      Documented source.response.firstLine source.response.lines v.response := by
  obtain ⟨hmessage, hservice⟩ := Schema.ofText_documented .standard
  constructor
  · exact ⟨_, rfl, rfl, hmessage ⟨"p", "M", .message⟩ _ _ rfl⟩
  · obtain ⟨v, hread⟩ :
        ∃ v, Service.ofText .standard "p" "S" "# a\nbool x\n# lost\n---\n# b\nint8 K=1" = .ok v := ⟨_, rfl⟩
    obtain ⟨source, hdivides, hrequest, hresponse⟩ := hservice _ _ _ _ hread
    have hremarks : v.request.remarks = [(2, "a")] ∧ v.response.remarks = [(6, "b")] := by
      cases hread
      exact ⟨rfl, rfl⟩
    exact ⟨v, source, hread, hremarks.1, hremarks.2, hdivides, hrequest, hresponse⟩

end MessageSchema
