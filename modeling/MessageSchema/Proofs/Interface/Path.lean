/-
The parts of a path. `Written` says of a path and a list of parts, from left to
right, that the one is written with the other: a slash behind anything and a dot
behind a slash count for nothing, two dots and names do, and so do a slash and a
dot in front. Every path has one list of parts (`written_iff`), and what stands
behind a slash adds its own parts, whatever stands in front of it
(`ofChars_slash`). Only the first part can be a top or a dot (`Written.shape`).
-/
import MessageSchema.Interface.Path
import MessageSchema.Proofs.Text.Lines
import MessageSchema.Proofs.Text.Blank

namespace MessageSchema

open Text (Stops)

namespace PathPart

/-! ## The parts of a path -/

/-- A name that a part may have. -/
structure Ordinary (piece : List Char) : Prop where
  ne_nil : piece ≠ []
  slash : '/' ∉ piece
  ne_here : piece ≠ ['.']
  ne_parent : piece ≠ ['.', '.']

/-- The parts that a path is written with. -/
inductive Written : List Char → List PathPart → Prop where
  | nothing : Written [] []
  | top : Written ['/'] [.top]
  | here : Written ['.'] [.here]
  | parent : Written ['.', '.'] [.parent]
  | name {piece : List Char} (ordinary : Ordinary piece) : Written piece [.name (String.ofList piece)]
  | slash {path : List Char} {parts : List PathPart} (written : Written path parts) (more : path ≠ []) :
      Written (path ++ ['/']) parts
  | dotBehind {path : List Char} {parts : List PathPart} (written : Written (path ++ ['/']) parts) :
      Written (path ++ ['/', '.']) parts
  | parentBehind {path : List Char} {parts : List PathPart} (written : Written (path ++ ['/']) parts) :
      Written (path ++ ['/', '.', '.']) (parts ++ [.parent])
  | nameBehind {path piece : List Char} {parts : List PathPart}
      (written : Written (path ++ ['/']) parts) (ordinary : Ordinary piece) :
      Written (path ++ '/' :: piece) (parts ++ [.name (String.ofList piece)])

/-! ## What the reader finds -/

/-- The part for the front of a path, given by its pieces between slashes. -/
def front : List (List Char) → List PathPart
  | [] => []
  | first :: pieces =>
    if first = [] ∧ pieces ≠ [] then [.top]
    else if first = ['.'] then [.here]
    else []

/-- The parts of what stands behind a slash. -/
def behind (cs : List Char) : List PathPart :=
  (cs.splitOn '/').filterMap ofPiece?

/-- The parts of a path, character by character. -/
def ofChars (cs : List Char) : List PathPart :=
  front (cs.splitOn '/') ++ behind cs

theorem ofPath_eq (path : String) : ofPath path = ofChars path.toList := by
  unfold ofPath ofChars behind
  split
  · next hnil => exact absurd hnil (List.splitOn_ne_nil '/' _)
  · next first pieces hpieces =>
    rw [hpieces, front]
    by_cases hnil : first = []
    · by_cases hpieces : pieces = []
      · simp [hnil, hpieces, ofPiece?]
      · simp [hnil, hpieces, ofPiece?]
    · by_cases hdot : first = ['.']
      · simp [hdot, ofPiece?]
      · cases hpiece : ofPiece? first with
        | none => simp [hnil, hdot, hpiece]
        | some part => simp [hnil, hdot, hpiece]

theorem front_cases (pieces : List (List Char)) :
    front pieces = [] ∨ front pieces = [.top] ∨ front pieces = [.here] := by
  unfold front
  split
  · simp
  · split_ifs <;> simp

/-- No name is in front. -/
theorem length_behind_of_names {cs : List Char} {names : List String}
    (h : (names.map PathPart.name).Sublist (ofChars cs)) : names.length ≤ (behind cs).length := by
  have hbehind : (names.map PathPart.name).Sublist (behind cs) := by
    have hother : ∀ part, part = .top ∨ part = .here → ∀ more,
        (names.map PathPart.name).Sublist (part :: more) → (names.map PathPart.name).Sublist more := by
      intro part hpart more hsub
      rcases List.sublist_cons_iff.1 hsub with hmore | ⟨rest, hcons, -⟩
      · exact hmore
      · have hmem : part ∈ names.map PathPart.name := by simp [hcons]
        obtain ⟨name, -, rfl⟩ := List.mem_map.1 hmem
        simp at hpart
    rw [ofChars] at h
    rcases front_cases (cs.splitOn '/') with hfront | hfront | hfront
    · rwa [hfront] at h
    · rw [hfront] at h
      exact hother .top (.inl rfl) _ h
    · rw [hfront] at h
      exact hother .here (.inr rfl) _ h
  simpa using hbehind.length_le

theorem front_append {pieces more : List (List Char)} (h : pieces ≠ []) (hmore : more ≠ []) :
    front (pieces ++ more) = front (pieces ++ [[]]) := by
  obtain ⟨first, pieces, rfl⟩ := List.exists_cons_of_ne_nil h
  simp [front, hmore]

theorem behind_slash (a b : List Char) : behind (a ++ '/' :: b) = behind a ++ behind b := by
  simp only [behind, List.splitOn_append_cons_self, List.filterMap_append]

theorem behind_nil : behind [] = [] := by decide

theorem behind_dot : behind ['.'] = [] := by decide

theorem behind_dots : behind ['.', '.'] = [.parent] := by decide

theorem behind_name {piece : List Char} (h : Ordinary piece) :
    behind piece = [.name (String.ofList piece)] := by
  simp [behind, List.splitOn_eq_singleton, h.slash, ofPiece?, h.ne_nil, h.ne_here, h.ne_parent]

/-- **What stands behind a slash adds its own parts.** -/
theorem ofChars_slash (a b : List Char) : ofChars (a ++ '/' :: b) = ofChars (a ++ ['/']) ++ behind b := by
  have hfront : front ((a ++ '/' :: b).splitOn '/') = front ((a ++ ['/']).splitOn '/') := by
    rw [List.splitOn_append_cons_self, List.splitOn_append_cons_self, List.splitOn_nil,
      front_append (List.splitOn_ne_nil '/' a) (List.splitOn_ne_nil '/' b)]
  rw [ofChars, ofChars, hfront, behind_slash, behind_slash, behind_nil, List.append_nil, List.append_assoc]

/-- What adds no parts makes no difference between two slashes. -/
theorem ofChars_between {piece : List Char} (h : behind piece = []) (a b : List Char) :
    ofChars (a ++ '/' :: (piece ++ '/' :: b)) = ofChars (a ++ '/' :: b) := by
  rw [ofChars_slash, behind_slash, h, List.nil_append, ← ofChars_slash]

/-- A slash behind something counts for nothing. -/
theorem ofChars_trailing {a : List Char} (h : a ≠ []) : ofChars (a ++ ['/']) = ofChars a := by
  obtain ⟨first, pieces, hpieces⟩ := List.exists_cons_of_ne_nil (List.splitOn_ne_nil '/' a)
  have hfirst : pieces = [] → first ≠ [] := by
    rintro rfl rfl
    have ha : ['/'].intercalate (a.splitOn '/') = a := List.intercalate_splitOn '/'
    rw [hpieces] at ha
    exact h ha.symm
  have hfront : front ((a ++ ['/']).splitOn '/') = front (a.splitOn '/') := by
    rw [List.splitOn_append_cons_self, List.splitOn_nil, hpieces]
    by_cases hnil : pieces = []
    · simp [front, hfirst hnil]
    · simp [front, hnil]
  rw [ofChars, ofChars, hfront, behind_slash, behind_nil, List.append_nil]

variable {cs : List Char} {parts : List PathPart}

/-- The reader finds the parts that a path is written with. -/
theorem Written.ofChars_eq (h : Written cs parts) : ofChars cs = parts := by
  induction h with
  | nothing => decide
  | top => decide
  | here => decide
  | parent => decide
  | @name piece ordinary =>
    have hfront : front (piece.splitOn '/') = [] := by
      simp [front, List.splitOn_eq_singleton, ordinary.slash, ordinary.ne_nil, ordinary.ne_here]
    rw [ofChars, hfront, behind_name ordinary, List.nil_append]
  | slash written more ih => rw [ofChars_trailing more, ih]
  | dotBehind written ih => rw [ofChars_slash, behind_dot, List.append_nil, ih]
  | parentBehind written ih => rw [ofChars_slash, behind_dots, ih]
  | nameBehind written ordinary ih => rw [ofChars_slash, behind_name ordinary, ih]

/-! ## Every path has parts -/

theorem piece_cases {piece : List Char} (h : '/' ∉ piece) :
    piece = [] ∨ piece = ['.'] ∨ piece = ['.', '.'] ∨ Ordinary piece := by
  by_cases hnil : piece = []
  · exact .inl hnil
  · by_cases hhere : piece = ['.']
    · exact .inr (.inl hhere)
    · by_cases hparent : piece = ['.', '.']
      · exact .inr (.inr (.inl hparent))
      · exact .inr (.inr (.inr ⟨hnil, h, hhere, hparent⟩))

theorem exists_written_piece {piece : List Char} (h : '/' ∉ piece) : ∃ parts, Written piece parts := by
  rcases piece_cases h with rfl | rfl | rfl | ordinary
  · exact ⟨_, .nothing⟩
  · exact ⟨_, .here⟩
  · exact ⟨_, .parent⟩
  · exact ⟨_, .name ordinary⟩

theorem Written.exists_piece (h : Written (cs ++ ['/']) parts) {piece : List Char} (hpiece : '/' ∉ piece) :
    ∃ parts, Written (cs ++ '/' :: piece) parts := by
  rcases piece_cases hpiece with rfl | rfl | rfl | ordinary
  · exact ⟨_, h⟩
  · exact ⟨_, h.dotBehind⟩
  · exact ⟨_, h.parentBehind⟩
  · exact ⟨_, h.nameBehind ordinary⟩

theorem Written.exists_pieces {pieces : List (List Char)} (hne : pieces ≠ [])
    (hpieces : ∀ piece ∈ pieces, '/' ∉ piece) (h : Written (cs ++ ['/']) parts) :
    ∃ parts, Written (cs ++ '/' :: ['/'].intercalate pieces) parts := by
  induction pieces generalizing cs parts with
  | nil => exact absurd rfl hne
  | cons piece pieces ih =>
    obtain ⟨parts', hpiece⟩ := h.exists_piece (hpieces piece (by simp))
    cases pieces with
    | nil => exact ⟨parts', by rwa [List.intercalate_singleton]⟩
    | cons next pieces =>
      have hmore := hpiece.slash (by simp)
      obtain ⟨parts'', hall⟩ := ih (by simp) (fun p hp => hpieces p (List.mem_cons_of_mem _ hp)) hmore
      exact ⟨parts'', by simpa [List.intercalate_cons_cons] using hall⟩

theorem exists_written (cs : List Char) : ∃ parts, Written cs parts := by
  obtain ⟨first, pieces, hpieces⟩ := List.exists_cons_of_ne_nil (List.splitOn_ne_nil '/' cs)
  have hslash : ∀ piece ∈ first :: pieces, '/' ∉ piece := fun piece hmem =>
    Text.not_mem_of_mem_splitOn (hpieces ▸ hmem)
  have hcs : ['/'].intercalate (first :: pieces) = cs := by
    rw [← hpieces]
    exact List.intercalate_splitOn '/'
  obtain ⟨parts, hfirst⟩ := exists_written_piece (hslash first (by simp))
  cases pieces with
  | nil => exact ⟨parts, by rwa [← hcs, List.intercalate_singleton]⟩
  | cons next pieces =>
    obtain ⟨parts, hmore⟩ : ∃ parts, Written (first ++ ['/']) parts := by
      rcases eq_or_ne first [] with rfl | hne
      · exact ⟨_, .top⟩
      · exact ⟨_, hfirst.slash hne⟩
    obtain ⟨parts', hall⟩ := hmore.exists_pieces (by simp) fun p hp => hslash p (List.mem_cons_of_mem _ hp)
    exact ⟨parts', by simpa [← hcs, List.intercalate_cons_cons] using hall⟩

/-- **A path is written with the parts that the reader finds, and with no
others.** -/
theorem written_iff {path : String} : Written path.toList parts ↔ ofPath path = parts := by
  rw [ofPath_eq]
  refine ⟨fun h => h.ofChars_eq, ?_⟩
  rintro rfl
  obtain ⟨parts, h⟩ := exists_written path.toList
  rwa [h.ofChars_eq]

/-- Behind the front of a path stand names and pairs of dots only. -/
theorem Written.shape (h : Written cs parts) :
    ∃ first more, parts = first ++ more ∧ (first = [] ∨ first = [.top] ∨ first = [.here]) ∧
      ∀ part ∈ more, part = .parent ∨ ∃ piece, Ordinary piece ∧ part = .name (String.ofList piece) := by
  induction h with
  | nothing => exact ⟨[], [], by simp⟩
  | top => exact ⟨[.top], [], by simp⟩
  | here => exact ⟨[.here], [], by simp⟩
  | parent => exact ⟨[], [.parent], by simp⟩
  | name ordinary => exact ⟨[], [_], rfl, by simp, by simpa using ⟨_, ordinary, rfl⟩⟩
  | slash written more ih => exact ih
  | dotBehind written ih => exact ih
  | parentBehind written ih =>
    obtain ⟨first, more, rfl, hfirst, hmore⟩ := ih
    refine ⟨first, more ++ [.parent], by rw [List.append_assoc], hfirst, ?_⟩
    simpa [or_imp, forall_and] using hmore
  | nameBehind written ordinary ih =>
    obtain ⟨first, more, rfl, hfirst, hmore⟩ := ih
    refine ⟨first, more ++ [_], by rw [List.append_assoc], hfirst, fun part hpart => ?_⟩
    rcases List.mem_append.1 hpart with hpart | hpart
    · exact hmore part hpart
    · exact .inr ⟨_, ordinary, List.mem_singleton.1 hpart⟩

/-- The top and the dot are only in front. -/
theorem Written.part_cases {lead more : List PathPart} {part : PathPart}
    (h : Written cs (lead ++ part :: more)) :
    (part = .top ∨ part = .here) ∧ lead = [] ∨ part = .parent ∨
      ∃ piece, Ordinary piece ∧ part = .name (String.ofList piece) := by
  obtain ⟨first, rest, hparts, hfirst, hrest⟩ := h.shape
  cases lead with
  | nil =>
    rcases hfirst with rfl | rfl | rfl
    · have hbehind : part :: more = rest := hparts
      exact .inr (hrest part (by simp [← hbehind]))
    · exact .inl ⟨.inl (List.cons.inj hparts).1, rfl⟩
    · exact .inl ⟨.inr (List.cons.inj hparts).1, rfl⟩
  | cons start lead =>
    refine .inr (hrest part ?_)
    rcases hfirst with rfl | rfl | rfl
    · have hbehind : start :: lead ++ part :: more = rest := hparts
      simp [← hbehind]
    · have hbehind : lead ++ part :: more = rest := (List.cons.inj hparts).2
      simp [← hbehind]
    · have hbehind : lead ++ part :: more = rest := (List.cons.inj hparts).2
      simp [← hbehind]

end PathPart

end MessageSchema
