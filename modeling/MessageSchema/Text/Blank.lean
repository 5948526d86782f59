/-
Blank characters and the words between them. Blank means the White_Space
property: the ASCII blanks, the next-line control, and the spaces and
separators of the other blocks. A zero-width space is not blank.
-/

namespace MessageSchema.Text

/-- Whether a character has the White_Space property. -/
def isBlank (c : Char) : Bool :=
  let n := c.toNat
  (decide (0x09 ≤ n) && decide (n ≤ 0x0D)) || n == 0x20 || n == 0x85 || n == 0xA0 || n == 0x1680 ||
    (decide (0x2000 ≤ n) && decide (n ≤ 0x200A)) || n == 0x2028 || n == 0x2029 || n == 0x202F ||
    n == 0x205F || n == 0x3000

/-- Whether a character may stand in an identifier: an ASCII letter, an
ASCII digit or an underscore. -/
def isWordChar (c : Char) : Bool :=
  c.isAlphanum || c == '_'

/-- The text without its leading blanks. -/
def trimStart (cs : List Char) : List Char :=
  cs.dropWhile isBlank

/-- The text without its trailing blanks. -/
def trimEnd (cs : List Char) : List Char :=
  (cs.reverse.dropWhile isBlank).reverse

/-- The text without the blanks around it. -/
def trim (cs : List Char) : List Char :=
  trimEnd (trimStart cs)

/-- Trims a string. -/
def trimmed (s : String) : String :=
  String.ofList (trim s.toList)

/-- The trimmed text, or nothing when only blanks are left. -/
def nonBlank? (cs : List Char) : Option String :=
  match trim cs with
  | [] => none
  | cs => some (String.ofList cs)

end MessageSchema.Text
