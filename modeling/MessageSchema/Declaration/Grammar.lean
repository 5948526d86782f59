/-
The line grammar. A line is read from left to right, and every part takes
as many characters as it can; the parts are such that no shorter reading
would let more lines through. A line is a constant when an equals sign
follows its name, else a field.

The comment of a declaration starts at the first `#` after its name. After
the name of a field that sign needs a blank before it; and in a text of
several lines the comment has to be on the last one.
-/
import MessageSchema.Declaration
import MessageSchema.Text.Blank
import MessageSchema.Text.Numeric

namespace MessageSchema.Declaration

open Text

/-- A word at the start of a text, and the text after it. -/
def readWord? (cs : List Char) : Option (String × List Char) :=
  match cs.takeWhile isWordChar with
  | [] => none
  | word => some (String.ofList word, cs.dropWhile isWordChar)

/-- Digits of any script at the start of a text, perhaps none, and the text
after them. -/
def readDigits (cs : List Char) : String × List Char :=
  (String.ofList (cs.takeWhile isDecimalDigit), cs.dropWhile isDecimalDigit)

/-- The digits and the closing bracket of an array marker. -/
def closeMarker? (bounded : Bool) (cs : List Char) : Option (Option ArrayMarker × List Char) :=
  match readDigits cs with
  | (size, ']' :: rest) => some (some ⟨bounded, size⟩, rest)
  | _ => none

/-- An array marker, if one starts here. An opening bracket that starts no
marker is refused. -/
def readMarker? : List Char → Option (Option ArrayMarker × List Char)
  | '[' :: '<' :: '=' :: cs => closeMarker? true cs
  | '[' :: cs => closeMarker? false cs
  | cs => some (none, cs)

/-- The type at the start of a declaration. -/
def readType? (cs : List Char) : Option (DeclaredType × List Char) := do
  let (word, rest) ← readWord? cs
  match rest with
  | '/' :: rest =>
    let (name, rest) ← readWord? rest
    let (marker, rest) ← readMarker? rest
    return (⟨some word, name, marker⟩, rest)
  | rest =>
    let (marker, rest) ← readMarker? rest
    return (⟨none, word, marker⟩, rest)

/-- The blanks after the type and the declared name. -/
def readName? : List Char → Option (String × List Char)
  | [] => none
  | c :: cs => if isBlank c then readWord? (trimStart cs) else none

/-- What stands after the name: the text before the first `#` and the text
after it without its leading blanks, if there is a `#`. Refused when the
comment goes on over the end of a line. -/
def splitComment? (cs : List Char) : Option (List Char × Option (List Char)) :=
  let before := cs.takeWhile (· ≠ '#')
  match cs.dropWhile (· ≠ '#') with
  | [] => some (before, none)
  | _ :: after =>
    let comment := trimStart after
    if '\n' ∈ comment then none else some (before, some comment)

/-- Reads a constant. -/
def readConstant? (cs : List Char) : Option ConstantDecl := do
  let (type, rest) ← readType? cs
  let (name, rest) ← readName? rest
  match trimStart rest with
  | '=' :: rest =>
    let (value, comment) ← splitComment? rest
    return ⟨type, name, String.ofList (trim value), comment.bind nonBlank?⟩
  | _ => none

/-- The bound of a bounded text, if one is written here. -/
def readBound : List Char → Option String × List Char
  | '<' :: '=' :: cs => let (digits, rest) := readDigits cs; (some digits, rest)
  | cs => (none, cs)

/-- Reads a field. -/
def readField? (cs : List Char) : Option FieldDecl := do
  let (type, rest) ← readType? cs
  let (bound, rest) := readBound rest
  let (name, rest) ← readName? rest
  let (default, comment) ← splitComment? rest
  if comment.isSome ∧ default.getLast?.any isBlank = false then none
  else return ⟨type, bound, name, nonBlank? default, comment.bind nonBlank?⟩

/-- Reads a line that holds a declaration. -/
def read? (line : String) : Option Declaration :=
  match readConstant? line.toList with
  | some decl => some (constant decl)
  | none => (readField? line.toList).map field

/-- The text of a line that holds only a comment, without the blanks after
the `#`. -/
def commentText? (line : String) : Option String :=
  match line.toList with
  | '#' :: cs =>
    let text := trimStart cs
    if '\n' ∈ text then none else some (String.ofList text)
  | _ => none

end MessageSchema.Declaration
