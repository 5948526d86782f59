/-
Comments above a declaration. The comment lines directly above it are kept
until the declaration comes, and then stand after the comment on its own
line. A blank line ends the block, and the comments before it are lost.
-/

namespace MessageSchema

/-- The comment lines read since the last declaration or blank line, those
without text left out. -/
structure PendingComment where
  lines : List String
deriving DecidableEq, Repr

namespace PendingComment

/-- No comment. -/
def empty : PendingComment := ⟨[]⟩

instance : Inhabited PendingComment := ⟨empty⟩

/-- Whether no comment is waiting. -/
def isEmpty (c : PendingComment) : Bool :=
  c.lines.isEmpty

/-- The waiting lines as one text. -/
def text (c : PendingComment) : String :=
  "\n".intercalate c.lines

/-- Adds the text of a comment line. -/
def push (c : PendingComment) (line : String) : PendingComment :=
  if line = "" then c else ⟨c.lines ++ [line]⟩

/-- The comment of a declaration that carries a comment of its own or none:
its own comment, then the waiting ones. -/
def attach (c : PendingComment) (own : Option String) : String :=
  let first := own.getD ""
  if c.isEmpty then first
  else if first = "" then c.text
  else first ++ ". " ++ c.text

end PendingComment

end MessageSchema
