/-
What a line holds shows at its start: a comment starts with `#`, a blank line
has nothing to start with, and a declaration starts with a word. Whatever it
holds, its comment is the text after its first `#`, because no part of a
declaration but the comment can hold that sign (`comment_of_declaration`).
-/
import MessageSchema.Proofs.Declaration.Reading
import MessageSchema.Schema.Builder

namespace MessageSchema

open Text Declaration

/-! ## How a line starts -/

theorem commentText?_eq_none {line : String} (h : line.toList.head? ≠ some '#') :
    commentText? line = none := by
  unfold commentText?
  split
  · next heq => exact absurd (by rw [heq]; rfl) h
  · rfl

theorem commentText?_eq_some {line t : String} (h : commentText? line = some t) :
    ∃ cs, line.toList = '#' :: cs ∧ t = String.ofList (trimStart cs) := by
  unfold commentText? at h
  split at h
  · next cs heq =>
    simp only at h
    split at h
    · cases h
    · cases h
      exact ⟨cs, heq, rfl⟩
  · cases h

theorem DeclaredType.Valid.head?_chars {t : DeclaredType} (h : t.Valid) (rest : List Char) :
    ∃ c, (t.chars ++ rest).head? = some c ∧ isWordChar c = true := by
  have hword : ∀ {cs ds : List Char}, Word cs → ∃ c, (cs ++ ds).head? = some c ∧ isWordChar c = true := by
    intro cs ds hw
    rw [List.head?_append_of_ne_nil cs hw.1]
    exact ⟨cs.head hw.1, List.head?_eq_some_head hw.1, hw.2 _ (List.head_mem hw.1)⟩
  unfold chars
  cases hp : t.package with
  | none =>
    simp only [packageChars, List.nil_append, List.append_assoc]
    exact hword h.name
  | some p =>
    simp only [packageChars, List.append_assoc]
    exact hword (h.package p hp)

theorem Declaration.ConstantForm.head? {cs : List Char} {d : ConstantDecl} (h : ConstantForm cs d) :
    ∃ c, cs.head? = some c ∧ isWordChar c = true := by
  cases h with
  | intro htype hne hgap hname hgap' htail => exact htype.head?_chars _

theorem Declaration.FieldForm.head? {cs : List Char} {d : FieldDecl} (h : FieldForm cs d) :
    ∃ c, cs.head? = some c ∧ isWordChar c = true := by
  cases h with
  | intro htype hbound hne hgap hname hstop htail hblank => exact htype.head?_chars _

/-- Whether a line, trimmed, is a comment and nothing else. -/
def isCommentLine (source : String) : Bool :=
  (trimmed source).toList.head? == some '#'

/-- Whether a line, trimmed, is neither blank nor a comment. -/
def isDeclarationLine (source : String) : Bool :=
  (trimmed source) != "" && !isCommentLine source

namespace LineContent

theorem read?_of_declaration {line : String} {d : Declaration}
    (h : LineContent.of line = .declaration d) : read? line = some d := by
  unfold LineContent.of at h
  split at h
  · cases h
  · split at h
    · cases h
    · split at h
      · next hread =>
        cases h
        exact hread
      · cases h

theorem head?_of_declaration {line : String} {d : Declaration}
    (h : LineContent.of line = .declaration d) : ∃ c, line.toList.head? = some c ∧ isWordChar c = true := by
  have hread := read?_of_declaration h
  cases d with
  | constant d => exact (read?_constant_iff.1 hread).head?
  | field d => exact (read?_field_iff.1 hread).2.head?

theorem of_comment {line t : String} (h : LineContent.of line = .comment t) :
    ∃ cs, line.toList = '#' :: cs ∧ t = String.ofList (trimStart cs) := by
  unfold LineContent.of at h
  split at h
  · next text hcomment =>
    cases h
    exact commentText?_eq_some hcomment
  · split at h
    · cases h
    · split at h <;> cases h

theorem of_blank {line : String} (h : LineContent.of line = .blank) : line = "" := by
  unfold LineContent.of at h
  split at h
  · cases h
  · split at h
    · assumption
    · split at h <;> cases h

end LineContent

/-! ## The kinds of lines -/

section

variable {source t : String} {d : Declaration}

theorem isCommentLine_of_comment (h : LineContent.of (trimmed source) = .comment t) :
    isCommentLine source = true := by
  obtain ⟨cs, hcs, -⟩ := LineContent.of_comment h
  rw [isCommentLine, hcs]
  rfl

theorem isCommentLine_of_blank (h : LineContent.of (trimmed source) = .blank) :
    isCommentLine source = false := by
  rw [isCommentLine, LineContent.of_blank h]
  rfl

theorem isDeclarationLine_of_declaration (h : LineContent.of (trimmed source) = .declaration d) :
    isDeclarationLine source = true := by
  obtain ⟨c, hc, hw⟩ := LineContent.head?_of_declaration h
  have hne : trimmed source ≠ "" := by
    intro hempty
    rw [hempty] at hc
    cases hc
  have hhash : isCommentLine source = false := by
    rw [isCommentLine, hc]
    refine beq_eq_false_iff_ne.2 ?_
    intro heq
    cases heq
    exact absurd hw (by decide)
  simp only [isDeclarationLine, hhash, Bool.not_false, Bool.and_true, bne_iff_ne]
  exact hne

theorem isDeclarationLine_of_comment (h : LineContent.of (trimmed source) = .comment t) :
    isDeclarationLine source = false := by
  rw [isDeclarationLine, isCommentLine_of_comment h, Bool.not_true, Bool.and_false]

theorem isDeclarationLine_of_blank (h : LineContent.of (trimmed source) = .blank) :
    isDeclarationLine source = false := by
  rw [isDeclarationLine, LineContent.of_blank h]
  rfl

theorem isCommentLine_of_isDeclarationLine (h : isDeclarationLine source = true) :
    isCommentLine source = false := by
  simp only [isDeclarationLine, Bool.and_eq_true, Bool.not_eq_true'] at h
  exact h.2

theorem trimmed_ne_of_isDeclarationLine (h : isDeclarationLine source = true) : trimmed source ≠ "" := by
  simp only [isDeclarationLine, Bool.and_eq_true, bne_iff_ne] at h
  exact h.1

end

/-! ## The text after the first `#` -/

/-- What stands after the first `#` of a text; nothing when there is none. -/
def afterHash (cs : List Char) : List Char :=
  (cs.dropWhile (· ≠ '#')).drop 1

/-- The comment of a line: the text after its first `#`, trimmed. -/
def lineComment (source : String) : String :=
  String.ofList (trim (afterHash source.toList))

theorem dropWhile_ne_hash {cs : List Char} (h : '#' ∉ cs) (rest : List Char) :
    (cs ++ rest).dropWhile (· ≠ '#') = rest.dropWhile (· ≠ '#') := by
  refine List.dropWhile_append_of_pos ?_
  intro c hc
  simp only [decide_eq_true_eq]
  rintro rfl
  exact h hc

theorem afterHash_append {cs : List Char} (h : '#' ∉ cs) (rest : List Char) :
    afterHash (cs ++ rest) = afterHash rest := by
  rw [afterHash, dropWhile_ne_hash h, afterHash]

theorem afterHash_of_not_mem {cs : List Char} (h : '#' ∉ cs) : afterHash cs = [] := by
  have hnone := afterHash_append h []
  rwa [List.append_nil] at hnone

theorem afterHash_hash {cs : List Char} (h : '#' ∉ cs) (rest : List Char) :
    afterHash (cs ++ '#' :: rest) = rest := by
  rw [afterHash_append h, afterHash, List.dropWhile_cons_of_neg (by simp)]
  rfl

theorem Text.Blanks.hash {gap : List Char} (h : Blanks gap) : '#' ∉ gap := fun hmem =>
  absurd (h '#' hmem) (by decide)

theorem Text.Word.hash {cs : List Char} (h : Word cs) : '#' ∉ cs := fun hmem =>
  absurd (h.2 '#' hmem) (by decide)

theorem Text.Digits.hash {cs : List Char} (h : Digits cs) : '#' ∉ cs := fun hmem =>
  absurd (h '#' hmem) (by decide)

/-- Blanks around a text do not change the comment in it. -/
theorem trim_afterHash_trim (cs : List Char) : trim (afterHash (trim cs)) = trim (afterHash cs) := by
  obtain ⟨gap, gap', hgap, hgap', hcs⟩ := exists_trim cs
  have hstart : afterHash cs = afterHash (trim cs ++ gap') := by
    conv => lhs; rw [hcs, List.append_assoc, afterHash_append hgap.hash]
  rw [hstart]
  by_cases hhash : '#' ∈ trim cs
  · obtain ⟨before, after, hsplit, hbefore⟩ := List.eq_append_cons_of_mem hhash
    rw [hsplit, List.append_assoc, List.cons_append, afterHash_hash hbefore, afterHash_hash hbefore,
      trim_append_blanks hgap']
  · rw [afterHash_of_not_mem hhash, afterHash_append hhash, afterHash_of_not_mem hgap'.hash]

theorem lineComment_trimmed (source : String) : lineComment (trimmed source) = lineComment source := by
  rw [lineComment, lineComment, trimmed, String.toList_ofList, trim_afterHash_trim]

/-- The text of a comment line is its comment. -/
theorem lineComment_of_comment {source t : String} (h : LineContent.of (trimmed source) = .comment t) :
    t = lineComment source := by
  obtain ⟨cs, hcs, rfl⟩ := LineContent.of_comment h
  have hend : ∀ c, (trimStart cs).getLast? = some c → isBlank c = false := by
    intro c hc
    have hne : trimStart cs ≠ [] := by
      intro hnil
      rw [hnil] at hc
      cases hc
    have htrim : trim source.toList = ('#' :: cs.takeWhile isBlank) ++ trimStart cs := by
      rw [List.cons_append, trimStart, List.takeWhile_append_dropWhile, ← hcs, trimmed,
        String.toList_ofList]
    have hlast : (trim source.toList).getLast? = some c := by
      rw [htrim, List.getLast?_append_of_ne_nil _ hne, hc]
    exact getLast?_trim hlast
  have hafter : afterHash (trimmed source).toList = cs := by
    rw [hcs]
    exact afterHash_hash List.not_mem_nil cs
  rw [← lineComment_trimmed, lineComment, hafter, ← trim_trimStart,
    trim_eq_self (stops_trimStart cs) hend]

/-! ## The comment of a declaration -/

theorem DeclaredType.Valid.hash {t : DeclaredType} (h : t.Valid) : '#' ∉ t.chars := by
  have hpackage : '#' ∉ packageChars t.package := by
    unfold packageChars
    split
    · next p hp => simpa using (h.package p hp).hash
    · simp
  have hmarker : '#' ∉ ArrayMarker.optionalChars t.marker := by
    unfold ArrayMarker.optionalChars
    split
    · next m hm =>
      have hsize := (h.marker m hm).hash
      cases hb : m.bounded <;> simp [ArrayMarker.chars, hb, hsize]
    · simp
  simp only [chars, List.mem_append, not_or]
  exact ⟨hpackage, h.name.hash, hmarker⟩

theorem FieldDecl.hash_boundChars {bound : Option String}
    (h : ∀ digits, bound = some digits → Digits digits.toList) : '#' ∉ boundChars bound := by
  unfold boundChars
  split
  · next digits => simpa using (h digits rfl).hash
  · simp

/-- What follows the name of a declaration holds its comment. -/
theorem Declaration.Tail.comment {text rest : List Char} {comment : Option (List Char)}
    (h : Tail text comment rest) :
    (comment.bind nonBlank?).getD "" = String.ofList (trim (afterHash rest)) := by
  cases h with
  | bare hash =>
    rw [afterHash_of_not_mem hash]
    rfl
  | @commented after hash line =>
    rw [afterHash_hash hash, Option.bind_some, nonBlank?_eq_ite]
    split
    · next hnil =>
      rw [hnil]
      rfl
    · rfl

theorem Declaration.ConstantForm.comment {cs : List Char} {d : ConstantDecl} (h : ConstantForm cs d) :
    d.comment.getD "" = String.ofList (trim (afterHash cs)) := by
  cases h with
  | intro htype hne hgap hname hgap' htail =>
    rw [afterHash_append htype.hash, afterHash_append hgap.hash, afterHash_append hname.hash,
      afterHash_append hgap'.hash, ← List.singleton_append, afterHash_append (by simp)]
    exact htail.comment

theorem Declaration.FieldForm.comment {cs : List Char} {d : FieldDecl} (h : FieldForm cs d) :
    d.comment.getD "" = String.ofList (trim (afterHash cs)) := by
  cases h with
  | @intro type bound gap rest default name comment htype hbound hne hgap hname hstop htail hblank =>
    rw [afterHash_append htype.hash, afterHash_append (FieldDecl.hash_boundChars hbound),
      afterHash_append hgap.hash, afterHash_append hname.hash]
    exact htail.comment

/-- The comment that stands in a declaration. -/
def Declaration.comment : Declaration → Option String
  | .constant d => d.comment
  | .field d => d.comment

/-- **The comment of a declaration is the comment of its line.** -/
theorem comment_of_declaration {source : String} {d : Declaration}
    (h : LineContent.of (trimmed source) = .declaration d) : d.comment.getD "" = lineComment source := by
  have hread := LineContent.read?_of_declaration h
  rw [← lineComment_trimmed]
  cases d with
  | constant d => exact (read?_constant_iff.1 hread).comment
  | field d => exact (read?_field_iff.1 hread).2.comment

end MessageSchema
