/-
A line means what it says up to its first `#`. No part of a declaration but
the comment holds that sign, so whatever way a text is divided into the parts
of a declaration, a text with another comment divides in the same way
(`ConstantForm.recommented`, `FieldForm.recommented`), and neither becomes
anything that the other is not (`of_lineCode`).

The one thing a comment could break is its line. So line feeds are excluded
from here on; no line of a text has any.
-/
import MessageSchema.Proofs.Declaration.Content

namespace MessageSchema

open Text Declaration

/-! ## The text up to the first `#` -/

/-- A text up to its first `#`, that sign included; all of it when there is
none. -/
def throughHash : List Char → List Char
  | [] => []
  | c :: cs => if c = '#' then ['#'] else c :: throughHash cs

/-- The code of a line: all but its comment. -/
def lineCode (source : String) : String :=
  String.ofList (throughHash source.toList)

section

variable {cs cs' pre : List Char}

theorem throughHash_hash (cs : List Char) : throughHash ('#' :: cs) = ['#'] :=
  if_pos rfl

theorem throughHash_append (h : '#' ∉ pre) (cs : List Char) :
    throughHash (pre ++ cs) = pre ++ throughHash cs := by
  induction pre with
  | nil => rfl
  | cons c pre ih =>
    rw [List.mem_cons, not_or] at h
    rw [List.cons_append, throughHash, if_neg (Ne.symm h.1), ih h.2, List.cons_append]

/-- What stands before the first `#` of a text stands in every text with the
same code. -/
theorem exists_append_of_throughHash (h : throughHash (pre ++ cs) = throughHash cs') (hpre : '#' ∉ pre) :
    ∃ ds, cs' = pre ++ ds ∧ throughHash cs = throughHash ds := by
  induction pre generalizing cs' with
  | nil => exact ⟨cs', rfl, h⟩
  | cons c pre ih =>
    rw [throughHash_append hpre, List.cons_append] at h
    rw [List.mem_cons, not_or] at hpre
    cases cs' with
    | nil => cases h
    | cons d cs' =>
      rw [throughHash] at h
      split at h
      · exact absurd (List.cons.inj h).1.symm hpre.1
      · obtain ⟨rfl, htail⟩ := List.cons.inj h
        rw [← throughHash_append hpre.2] at htail
        obtain ⟨ds, rfl, hds⟩ := ih htail hpre.2
        exact ⟨ds, rfl, hds⟩

theorem head?_throughHash (cs : List Char) : (throughHash cs).head? = cs.head? := by
  cases cs with
  | nil => rfl
  | cons c cs =>
    rw [throughHash]
    split
    · next hc => rw [hc, List.head?_cons, List.head?_cons]
    · rfl

/-- Texts with the same code start alike. -/
theorem head?_eq_of_throughHash (h : throughHash cs = throughHash cs') : cs.head? = cs'.head? := by
  rw [← head?_throughHash, h, head?_throughHash]

theorem exists_hash_of_throughHash (h : throughHash ('#' :: cs) = throughHash cs') :
    ∃ ds, cs' = '#' :: ds :=
  List.head?_eq_some_iff.1 (head?_eq_of_throughHash h).symm

/-- A text without `#` is all code. -/
theorem eq_of_throughHash (h : throughHash cs = throughHash cs') (hhash : '#' ∉ cs) : cs' = cs := by
  rw [← List.append_nil cs] at h
  obtain ⟨ds, rfl, hds⟩ := exists_append_of_throughHash h hhash
  have hnil : ds = [] := List.head?_eq_none_iff.1 (head?_eq_of_throughHash hds).symm
  rw [hnil, List.append_nil]

/-- Texts with the same code have it after trimming. -/
theorem throughHash_trim (h : throughHash cs = throughHash cs') :
    throughHash (trim cs) = throughHash (trim cs') := by
  by_cases hhash : '#' ∈ cs
  · obtain ⟨before, after, rfl, hbefore⟩ := List.eq_append_cons_of_mem hhash
    obtain ⟨ds, rfl, hds⟩ := exists_append_of_throughHash h hbefore
    obtain ⟨after', rfl⟩ := exists_hash_of_throughHash hds
    have hstart : '#' ∉ trimStart before := not_mem_trimStart hbefore
    rw [trim_append_cons (by decide), trim_append_cons (by decide), throughHash_append hstart,
      throughHash_append hstart, throughHash_hash, throughHash_hash]
  · rw [eq_of_throughHash h hhash]

end

theorem throughHash_trimmed {source source' : String} (h : lineCode source = lineCode source') :
    throughHash (trimmed source).toList = throughHash (trimmed source').toList := by
  rw [trimmed, trimmed, String.toList_ofList, String.toList_ofList]
  exact throughHash_trim (String.ofList_injective h)

theorem newline_not_mem_trimmed {source : String} (h : '\n' ∉ source.toList) :
    '\n' ∉ (trimmed source).toList := by
  rw [trimmed, String.toList_ofList]
  exact fun hmem => h ((trim_sublist _).subset hmem)

/-! ## Declarations with another comment -/

/-- The constant without its comment. -/
def ConstantDecl.uncommented (d : ConstantDecl) : ConstantDecl :=
  { d with comment := none }

/-- The field without its comment. -/
def FieldDecl.uncommented (d : FieldDecl) : FieldDecl :=
  { d with comment := none }

/-- The declaration without its comment. -/
def Declaration.uncommented : Declaration → Declaration
  | constant d => constant d.uncommented
  | field d => field d.uncommented

namespace Declaration

variable {cs cs' : List Char}

theorem Tail.recommented {text rest rest' : List Char} {comment : Option (List Char)}
    (h : Tail text comment rest) (hcode : throughHash rest = throughHash rest') (hline : '\n' ∉ rest') :
    ∃ comment', Tail text comment' rest' ∧ (comment' = none ↔ comment = none) := by
  cases h with
  | bare hash =>
    rw [eq_of_throughHash hcode hash]
    exact ⟨none, .bare hash, Iff.rfl⟩
  | @commented after hash line =>
    obtain ⟨ds, rfl, hds⟩ := exists_append_of_throughHash hcode hash
    obtain ⟨after', rfl⟩ := exists_hash_of_throughHash hds
    have hafter : '\n' ∉ after' := fun hmem =>
      hline (List.mem_append_right text (List.mem_cons_of_mem '#' hmem))
    exact ⟨some after', .commented hash (not_mem_trimStart hafter), by simp⟩

/-- A text that writes a constant writes it with any other comment. -/
theorem ConstantForm.recommented {d : ConstantDecl} (h : ConstantForm cs d)
    (hcode : throughHash cs = throughHash cs') (hline : '\n' ∉ cs') :
    ∃ d', ConstantForm cs' d' ∧ d'.uncommented = d.uncommented := by
  cases h with
  | @intro type gap gap' rest value name comment htype hne hgap hname hgap' htail =>
    -- each part lacks the sign, so it stands in the other text as well
    obtain ⟨ds₁, rfl, h₁⟩ := exists_append_of_throughHash hcode htype.hash
    obtain ⟨ds₂, rfl, h₂⟩ := exists_append_of_throughHash h₁ hgap.hash
    obtain ⟨ds₃, rfl, h₃⟩ := exists_append_of_throughHash h₂ hname.hash
    obtain ⟨ds₄, rfl, h₄⟩ := exists_append_of_throughHash h₃ hgap'.hash
    have hequals : throughHash (['='] ++ rest) = throughHash ds₄ := h₄
    obtain ⟨rest', rfl, hrest⟩ := exists_append_of_throughHash hequals (by decide)
    have hrestLine : '\n' ∉ rest' := fun hmem => hline (by simp [hmem])
    obtain ⟨comment', htail', -⟩ := htail.recommented hrest hrestLine
    exact ⟨_, .intro htype hne hgap hname hgap' htail', rfl⟩

/-- A text that writes a field writes it with any other comment. -/
theorem FieldForm.recommented {d : FieldDecl} (h : FieldForm cs d)
    (hcode : throughHash cs = throughHash cs') (hline : '\n' ∉ cs') :
    ∃ d', FieldForm cs' d' ∧ d'.uncommented = d.uncommented := by
  cases h with
  | @intro type bound gap rest default name comment htype hbound hne hgap hname hstop htail hblank =>
    obtain ⟨ds₁, rfl, h₁⟩ := exists_append_of_throughHash hcode htype.hash
    obtain ⟨ds₂, rfl, h₂⟩ := exists_append_of_throughHash h₁ (FieldDecl.hash_boundChars hbound)
    obtain ⟨ds₃, rfl, h₃⟩ := exists_append_of_throughHash h₂ hgap.hash
    obtain ⟨rest', rfl, hrest⟩ := exists_append_of_throughHash h₃ hname.hash
    have hrestLine : '\n' ∉ rest' := fun hmem => hline (by simp [hmem])
    obtain ⟨comment', htail', hnone⟩ := htail.recommented hrest hrestLine
    have hstop' : Stops isWordChar rest' := by
      rw [Stops, ← head?_eq_of_throughHash hrest]
      exact hstop
    exact ⟨_, .intro htype hbound hne hgap hname hstop' htail' fun hc => hblank fun h => hc (hnone.2 h), rfl⟩

/-! ## Reading with another comment -/

/-- A reader that takes a text with any other comment finds the same in two
texts with the same code, comments aside. -/
theorem map_eq_of_recommented {δ : Type} {read : List Char → Option δ} {strip : δ → δ}
    (hread : ∀ {cs cs' d}, read cs = some d → throughHash cs = throughHash cs' → '\n' ∉ cs' →
      ∃ d', read cs' = some d' ∧ strip d' = strip d)
    (hcode : throughHash cs = throughHash cs') (hcs : '\n' ∉ cs) (hcs' : '\n' ∉ cs') :
    (read cs).map strip = (read cs').map strip := by
  cases hd : read cs with
  | some d =>
    obtain ⟨d', hd', heq⟩ := hread hd hcode hcs'
    rw [hd', Option.map_some, Option.map_some, heq]
  | none =>
    cases hd' : read cs' with
    | none => rfl
    | some d' =>
      obtain ⟨d, hsome, -⟩ := hread hd' hcode.symm hcs
      rw [hd] at hsome
      cases hsome

theorem readConstant?_recommented (hcode : throughHash cs = throughHash cs') (hcs : '\n' ∉ cs)
    (hcs' : '\n' ∉ cs') :
    (readConstant? cs).map ConstantDecl.uncommented = (readConstant? cs').map ConstantDecl.uncommented := by
  refine map_eq_of_recommented ?_ hcode hcs hcs'
  intro cs cs' d hd hcode hline
  obtain ⟨d', hform, hd'⟩ := (ConstantForm.of_readConstant? hd).recommented hcode hline
  exact ⟨d', hform.read, hd'⟩

theorem readField?_recommented (hcode : throughHash cs = throughHash cs') (hcs : '\n' ∉ cs)
    (hcs' : '\n' ∉ cs') :
    (readField? cs).map FieldDecl.uncommented = (readField? cs').map FieldDecl.uncommented := by
  refine map_eq_of_recommented ?_ hcode hcs hcs'
  intro cs cs' d hd hcode hline
  obtain ⟨d', hform, hd'⟩ := (FieldForm.of_readField? hd).recommented hcode hline
  exact ⟨d', hform.read, hd'⟩

end Declaration

/-! ## Lines with another comment -/

theorem Declaration.read?_recommented {line line' : String}
    (hcode : throughHash line.toList = throughHash line'.toList) (hline : '\n' ∉ line.toList)
    (hline' : '\n' ∉ line'.toList) :
    (read? line).map Declaration.uncommented = (read? line').map Declaration.uncommented := by
  have hconstant := readConstant?_recommented hcode hline hline'
  have hfield := readField?_recommented hcode hline hline'
  unfold read?
  cases hread : readConstant? line.toList with
  | some d =>
    rw [hread, Option.map_some] at hconstant
    obtain ⟨d', hread', hd⟩ := Option.map_eq_some_iff.1 hconstant.symm
    rw [hread']
    exact congrArg (some ∘ constant) hd.symm
  | none =>
    rw [hread, Option.map_none] at hconstant
    rw [Option.map_eq_none_iff.1 hconstant.symm]
    have hmap := congrArg (Option.map field) hfield
    rw [Option.map_map, Option.map_map] at hmap
    simp only [Option.map_map]
    exact hmap

/-- What a line holds, without comments. -/
def LineContent.uncommented : LineContent → LineContent
  | .comment _ => .comment ""
  | .blank => .blank
  | .declaration d => .declaration d.uncommented
  | .malformed => .malformed

namespace LineContent

theorem of_hash {line : String} {cs : List Char} (h : line.toList = '#' :: cs) (hline : '\n' ∉ line.toList) :
    LineContent.of line = .comment (String.ofList (trimStart cs)) := by
  rw [h, List.mem_cons, not_or] at hline
  have hcomment : commentText? line = some (String.ofList (trimStart cs)) := by
    simp only [commentText?, h, if_neg (not_mem_trimStart hline.2)]
  rw [LineContent.of, hcomment]

/-- **The code of a line is all that tells what it holds**, comments aside. -/
theorem of_lineCode {source source' : String} (h : lineCode source = lineCode source')
    (hsource : '\n' ∉ source.toList) (hsource' : '\n' ∉ source'.toList) :
    (LineContent.of (trimmed source)).uncommented = (LineContent.of (trimmed source')).uncommented := by
  have hcode := throughHash_trimmed h
  have hline := newline_not_mem_trimmed hsource
  have hline' := newline_not_mem_trimmed hsource'
  generalize trimmed source = line at hcode hline
  generalize trimmed source' = line' at hcode hline'
  have hhead := head?_eq_of_throughHash hcode
  by_cases hhash : line.toList.head? = some '#'
  · obtain ⟨cs, hcs⟩ := List.head?_eq_some_iff.1 hhash
    obtain ⟨cs', hcs'⟩ := List.head?_eq_some_iff.1 (hhead ▸ hhash)
    rw [of_hash hcs hline, of_hash hcs' hline']
    rfl
  · have hread := Declaration.read?_recommented hcode hline hline'
    have hempty : line = "" ↔ line' = "" := by
      rw [← String.toList_inj, ← String.toList_inj, String.toList_empty, ← List.head?_eq_none_iff, hhead,
        List.head?_eq_none_iff]
    unfold LineContent.of
    rw [commentText?_eq_none hhash, commentText?_eq_none (hhead ▸ hhash)]
    simp only [hempty]
    split
    · rfl
    · cases hd : read? line with
      | some d =>
        rw [hd, Option.map_some] at hread
        obtain ⟨d', hd', heq⟩ := Option.map_eq_some_iff.1 hread.symm
        rw [hd']
        exact congrArg declaration heq.symm
      | none =>
        rw [hd, Option.map_none] at hread
        rw [Option.map_eq_none_iff.1 hread.symm]

end LineContent

end MessageSchema
