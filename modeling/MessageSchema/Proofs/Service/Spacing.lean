/-
Blanks at the ends of lines mean nothing. A line is trimmed before anything is
made of it, when the sections of a service are told apart as well as when a
declaration is read, so indented text, trailing blanks and lines that end in a
carriage return are read as the bare text is, faults included
(`ofText_spaced`).
-/
import MessageSchema.Proofs.Service.Simulation
import MessageSchema.Proofs.Text.Blank
import MessageSchema.Proofs.Text.Lines

namespace MessageSchema

open Text

namespace Text

/-! ## Blanks around lines -/

/-- The second line is the first with blanks at its ends, which do not break
it. -/
def Padded (l l' : String) : Prop :=
  ∃ gap gap' : List Char, Blanks gap ∧ Blanks gap' ∧ '\n' ∉ gap ∧ '\n' ∉ gap' ∧
    l'.toList = gap ++ l.toList ++ gap'

/-- The second text is the first with blanks at the ends of its lines. -/
def Spaced (text text' : String) : Prop :=
  ∃ ls', List.Forall₂ Padded (lines text) ls' ∧ text' = joinLines ls'

theorem trimmed_of_padded {l l' : String} (h : Padded l l') : trimmed l' = trimmed l := by
  obtain ⟨gap, gap', hgap, hgap', -, -, hl'⟩ := h
  rw [trimmed, trimmed, hl', trim_append_blanks hgap', trim_blanks_append hgap]

theorem newline_not_mem_of_padded {l l' : String} (h : Padded l l') (hl : '\n' ∉ l.toList) :
    '\n' ∉ l'.toList := by
  obtain ⟨gap, gap', -, -, hgap, hgap', hl'⟩ := h
  rw [hl', List.mem_append, List.mem_append, not_or, not_or]
  exact ⟨⟨hgap, hl⟩, hgap'⟩

theorem forall_newline_not_mem_of_padded {ls ls' : List String} (h : List.Forall₂ Padded ls ls')
    (hls : ∀ l ∈ ls, '\n' ∉ l.toList) : ∀ l ∈ ls', '\n' ∉ l.toList := by
  induction h with
  | nil => exact hls
  | cons hl _ ih =>
    rw [List.forall_mem_cons] at hls ⊢
    exact ⟨newline_not_mem_of_padded hl hls.1, ih hls.2⟩

/-- Blanks that do not break lines leave a text its lines. -/
theorem Spaced.lines {text text' : String} (h : Spaced text text') :
    List.Forall₂ Padded (lines text) (lines text') := by
  obtain ⟨ls', hls', rfl⟩ := h
  have hne : ls' ≠ [] := by
    rintro rfl
    exact lines_ne_nil text (List.forall₂_nil_right_iff.1 hls')
  rw [lines_joinLines hne (forall_newline_not_mem_of_padded hls' fun _ => newline_not_mem_of_mem_lines)]
  exact hls'

/-! ## Line ends -/

/-- The character, after a carriage return if it is a line feed. -/
def returned (c : Char) : List Char :=
  if c = '\n' then ['\r', '\n'] else [c]

/-- The text with a carriage return before every line feed. -/
def withReturns (text : String) : String :=
  String.ofList (text.toList.flatMap returned)

/-- Carriage returns before line feeds stand at the ends of lines. -/
theorem forall₂_splitOn_returned (cs : List Char) :
    List.Forall₂ (fun l l' => l' = l ∨ l' = l ++ ['\r']) (cs.splitOn '\n')
      ((cs.flatMap returned).splitOn '\n') := by
  induction cs with
  | nil => exact .cons (.inl rfl) .nil
  | cons c cs ih =>
    by_cases hc : c = '\n'
    · subst hc
      have hleft : ('\n' :: cs).splitOn '\n' = [] :: cs.splitOn '\n' :=
        List.splitOn_append_cons_self [] cs
      have hright : (('\n' :: cs).flatMap returned).splitOn '\n' =
          ['\r'] :: (cs.flatMap returned).splitOn '\n' :=
        List.splitOn_append_cons_self ['\r'] (cs.flatMap returned)
      rw [hleft, hright]
      exact .cons (.inr rfl) ih
    · have hreturned : (c :: cs).flatMap returned = c :: cs.flatMap returned := by
        rw [List.flatMap_cons, returned, if_neg hc, List.singleton_append]
      have hne : ¬ (c == '\n') = true := by simpa using hc
      rw [hreturned, List.splitOn_cons_eq_if_modifyHead, List.splitOn_cons_eq_if_modifyHead, if_neg hne,
        if_neg hne]
      generalize cs.splitOn '\n' = ls at ih ⊢
      generalize (cs.flatMap returned).splitOn '\n' = ls' at ih ⊢
      cases ih with
      | nil => exact .nil
      | cons hl hls =>
        refine .cons ?_ hls
        rcases hl with rfl | rfl
        · exact .inl rfl
        · exact .inr rfl

theorem spaced_withReturns (text : String) : Spaced text (withReturns text) := by
  refine ⟨lines (withReturns text), ?_, (joinLines_lines _).symm⟩
  rw [lines, lines, withReturns, String.toList_ofList, List.forall₂_map_left_iff,
    List.forall₂_map_right_iff]
  refine (forall₂_splitOn_returned text.toList).imp ?_
  intro l l' hl
  have hreturn : Blanks ['\r'] ∧ '\n' ∉ ['\r'] := by decide
  have hnone : Blanks [] ∧ '\n' ∉ ([] : List Char) := by decide
  rcases hl with rfl | rfl
  · exact ⟨[], [], hnone.1, hnone.1, hnone.2, hnone.2, by simp⟩
  · exact ⟨[], ['\r'], hnone.1, hreturn.1, hnone.2, hreturn.2, by simp⟩

end Text

/-! ## Reading spaced text -/

theorem isDelimiter_of_trimmed {l l' : String} (h : trimmed l = trimmed l') :
    isDelimiter l = isDelimiter l' := by
  rw [isDelimiter, isDelimiter, h]

/-- Lines that are trimmed to the same do the same. -/
theorem Builder.feed_of_trimmed (b : Builder) (line : Nat) {source source' : String}
    (h : trimmed source = trimmed source') : b.feed line source = b.feed line source' := by
  rw [feed_eq_feedContent, feed_eq_feedContent, h]

theorem Builder.feedAll_of_trimmed (b : Builder) (first : Nat) {ls ls' : List String}
    (h : List.Forall₂ (fun l l' => trimmed l = trimmed l') ls ls') :
    Alike Eq Eq (b.feedAll (numberFrom first ls)) (b.feedAll (numberFrom first ls')) := by
  refine feedAll_alike (R := Eq) ?_ (fun h => congrArg schema h) rfl h first
  intro b b' line source source' hb hsource
  rw [← hb, b.feed_of_trimmed line hsource]
  exact ⟨rfl, optionRel_eq_iff.2 rfl⟩

/-- **Blanks at the ends of lines change nothing.** A text whose lines have
more blanks around them is read, as a message and as a service, just as the
text without them; and line feeds may have carriage returns before them. -/
theorem ofText_spaced (text : String) :
    (∀ text', Spaced text text' →
      (∀ config metadata, Schema.ofText config metadata text' = Schema.ofText config metadata text) ∧
      ∀ config package name,
        Service.ofText config package name text' = Service.ofText config package name text) ∧
    Spaced text (withReturns text) := by
  refine ⟨fun text' h => ?_, spaced_withReturns text⟩
  have hlines : List.Forall₂ (fun l l' => trimmed l = trimmed l') (lines text) (lines text') :=
    h.lines.imp fun _ _ hl => (trimmed_of_padded hl).symm
  constructor
  · intro config metadata
    exact ((Builder.start config metadata).feedAll_of_trimmed 1 hlines).eq.symm
  · intro config package name
    have hservice := Service.ofText_alike (fun _ _ => isDelimiter_of_trimmed) (fun _ => rfl)
      (fun metadata first _ _ hls => (Builder.start config metadata).feedAll_of_trimmed first hls)
      hlines package name
    exact (hservice.imp fun _ _ hv => hv.eq).eq.symm

/-- Indented lines of a service that end in carriage returns, with a wide
blank before the line at fault. -/
theorem ofText_spaced_delimiter :
    Spaced "bool a # b\n---\n?" "\tbool a # b \r\n --- \r\n\u3000?" ∧
    Service.ofText .standard "p" "S" "\tbool a # b \r\n --- \r\n\u3000?" =
      Service.ofText .standard "p" "S" "bool a # b\n---\n?" ∧
    Schema.ofText .standard (.message "p" "M") "\tbool a # b \r\n --- \r\n\u3000?" =
      Schema.ofText .standard (.message "p" "M") "bool a # b\n---\n?" := by
  have hspaced : Spaced "bool a # b\n---\n?" "\tbool a # b \r\n --- \r\n\u3000?" := by
    refine ⟨["\tbool a # b \r", " --- \r", "\u3000?"], ?_, by decide⟩
    refine .cons ⟨['\t'], [' ', '\r'], ?_⟩ (.cons ⟨[' '], [' ', '\r'], ?_⟩ (.cons ⟨['\u3000'], [], ?_⟩ .nil))
    · decide
    · decide
    · decide
  obtain ⟨hread, -⟩ := ofText_spaced "bool a # b\n---\n?"
  obtain ⟨hmessage, hservice⟩ := hread _ hspaced
  exact ⟨hspaced, hservice .standard "p" "S", hmessage .standard (.message "p" "M")⟩

end MessageSchema
