/-
Lines of a text. A line ends at a line feed and nowhere else, so a carriage
return belongs to its line, and a text that ends in a line feed has an
empty last line. Lines are counted from one.
-/

namespace MessageSchema.Text

/-- A line with its number. -/
abbrev NumberedLine := Nat × String

/-- The lines of a text; there is always at least one. -/
def lines (text : String) : List String :=
  (text.toList.splitOn '\n').map String.ofList

/-- Numbers consecutive lines, the first of them `first`. -/
def numberFrom (first : Nat) : List String → List NumberedLine
  | [] => []
  | line :: rest => (first, line) :: numberFrom (first + 1) rest

theorem numberFrom_append (first : Nat) (ls ms : List String) :
    numberFrom first (ls ++ ms) = numberFrom first ls ++ numberFrom (first + ls.length) ms := by
  induction ls generalizing first with
  | nil => rfl
  | cons l ls ih =>
    simp only [List.cons_append, numberFrom, ih, List.length_cons]
    rw [Nat.add_right_comm, Nat.add_assoc]

/-- The lines of a text, counted from one. -/
def numberedLines (text : String) : List NumberedLine :=
  numberFrom 1 (lines text)

end MessageSchema.Text
