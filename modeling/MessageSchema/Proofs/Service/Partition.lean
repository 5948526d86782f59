/-
Dividing a service source loses and changes nothing. With their numbers the
lines of the request, the delimiter and the lines of the response are the
lines of the source again, in this order; so the numbers that the sections
count for themselves are those of the whole source. `Layout` says where the
delimiters may stand, and everything is read off its three cases.
-/
import MessageSchema.Proofs.Service.Sections

namespace MessageSchema.ServiceSource

open Text

/-- The delimiters among numbered lines. -/
def delimitersIn (ls : List NumberedLine) : List NumberedLine :=
  ls.filter fun l => isDelimiter l.2

/-- The delimiters of a text with their numbers. -/
def delimiters (text : String) : List NumberedLine :=
  delimitersIn (numberedLines text)

variable {ls ls' : List String} {d : String}

theorem delimitersIn_numberFrom (h : ∀ l ∈ ls, isDelimiter l = false) (first : Nat) :
    delimitersIn (numberFrom first ls) = [] := by
  refine List.filter_eq_nil_iff.2 fun l hl => ?_
  have hmem : l.2 ∈ (numberFrom first ls).map (·.2) := List.mem_map_of_mem hl
  rw [map_snd_numberFrom] at hmem
  rw [h l.2 hmem]
  exact Bool.false_ne_true

/-- The first delimiter comes first, under the number of its line. -/
theorem delimitersIn_first (h : ∀ l ∈ ls, isDelimiter l = false) (hd : isDelimiter d = true)
    (first : Nat) : delimitersIn (numberFrom first (ls ++ d :: ls')) =
      (first + ls.length, d) :: delimitersIn (numberFrom (first + ls.length + 1) ls') := by
  have hbefore := delimitersIn_numberFrom h first
  unfold delimitersIn at hbefore ⊢
  rw [numberFrom_append, List.filter_append, hbefore, List.nil_append, numberFrom]
  exact List.filter_cons_of_pos hd

/-- Of the lines around a line, those with smaller numbers stand before it. -/
theorem filter_lt_numberFrom (ls ls' : List String) (d : String) (first : Nat) :
    (numberFrom first (ls ++ d :: ls')).filter (fun l => l.1 < first + ls.length) = numberFrom first ls := by
  rw [numberFrom_append, List.filter_append, List.filter_eq_self.2, List.filter_eq_nil_iff.2, List.append_nil]
  · intro l hl
    have hle := (bounds_of_mem_numberFrom hl).1
    simpa using hle
  · intro l hl
    have hlt := (bounds_of_mem_numberFrom hl).2
    simpa using hlt

/-- Those with greater numbers stand behind it. -/
theorem filter_gt_numberFrom (ls ls' : List String) (d : String) (first : Nat) :
    (numberFrom first (ls ++ d :: ls')).filter (fun l => first + ls.length < l.1) =
      numberFrom (first + ls.length + 1) ls' := by
  rw [numberFrom_append, List.filter_append, List.filter_eq_nil_iff.2, List.nil_append, numberFrom,
    List.filter_cons, if_neg (by simp), List.filter_eq_self.2]
  · intro l hl
    have hle := (bounds_of_mem_numberFrom hl).1
    simpa using Nat.lt_of_succ_le hle
  · intro l hl
    have hlt := (bounds_of_mem_numberFrom hl).2
    simpa using Nat.le_of_lt hlt

/-- **The sections and the delimiter are the source.** Only a second delimiter
is a fault, and it is reported on its line. Otherwise the request holds the
lines before the delimiter and the response those behind it, or the request
holds all of them, and each line keeps its text and its number. -/
theorem ofText_partition (text : String) :
    match ofText text with
    | .error e => ∃ d, (delimiters text)[1]? = some d ∧ e = .tooManyDelimiters d.1
    | .ok source =>
      (delimiters text).length ≤ 1 ∧
      source.request.numbered ++ (delimiters text ++ source.response.numbered) = numberedLines text ∧
      source.request.numbered = (numberedLines text).filter (fun l => ∀ d ∈ delimiters text, l.1 < d.1) ∧
      source.response.numbered = (numberedLines text).filter (fun l => ∃ d ∈ delimiters text, d.1 < l.1) ∧
      source.request.firstLine = 1 ∧
      source.response.firstLine = ((delimiters text).head?.map (·.1)).getD (lines text).length + 1 := by
  unfold ofText delimiters numberedLines
  generalize lines text = ls
  cases layout ls with
  | whole h =>
    rw [ofLines_of_none h, delimitersIn_numberFrom h]
    refine ⟨Nat.zero_le 1, ?_, ?_, ?_, rfl, rfl⟩
    · simp [SourceSection.numbered, numberFrom]
    · simp [SourceSection.numbered]
    · simp [SourceSection.numbered, numberFrom]
  | @delimited ls ls' d h hd h' =>
    have hnumber : ls.length + 2 = 1 + ls.length + 1 := by omega
    rw [ofLines_of_one h hd h', delimitersIn_first h hd, delimitersIn_numberFrom h', hnumber]
    refine ⟨Nat.le_refl 1, ?_, ?_, ?_, rfl, rfl⟩
    · rw [numberFrom_append]
      rfl
    · simpa [SourceSection.numbered] using (filter_lt_numberFrom ls ls' d 1).symm
    · simpa [SourceSection.numbered] using (filter_gt_numberFrom ls ls' d 1).symm
  | @overfull ls ls' rest d d' h hd h' hd' =>
    have hnumber : ls.length + 2 + ls'.length = 1 + ls.length + 1 + ls'.length := by omega
    rw [ofLines_of_two h hd h' hd', delimitersIn_first h hd, delimitersIn_first h' hd', hnumber]
    exact ⟨_, rfl, rfl⟩

example : ofText "int8 a\n ---\n\nint8 b" = .ok ⟨⟨1, ["int8 a"]⟩, ⟨3, ["", "int8 b"]⟩⟩ := by rfl

end MessageSchema.ServiceSource
