/-
JSON documents, and their indented form: two spaces for each level, one
element or member on a line, a colon and a space after each key. An empty
list or object is a pair of brackets.
-/
import MessageSchema.Text.Quoted

namespace MessageSchema

/-- A JSON value. Its numbers are the natural ones; the members of an object
keep their order. -/
inductive Json where
  | null
  | bool (value : Bool)
  | number (value : Nat)
  | text (value : String)
  | list (elements : List Json)
  | object (members : List (String × Json))

namespace Json

/-- A text, or null. -/
def optional (value : Option String) : Json :=
  match value with
  | some s => text s
  | none => null

/-- A list of texts. -/
def texts (values : List String) : Json :=
  list (values.map text)

/-- The start of a line at a level. -/
def newline (level : Nat) : List Char :=
  '\n' :: List.replicate (2 * level) ' '

/-- Puts items between brackets, each on a line of its own one level
deeper. -/
def enclose (level : Nat) (left right : Char) (items : List (List Char)) : List Char :=
  match items with
  | [] => [left, right]
  | items =>
    left :: ([','].intercalate (items.map (newline (level + 1) ++ ·)) ++ newline level ++ [right])

/-- Writes a member, its value already written. -/
def member (key : String) (value : List Char) : List Char :=
  Text.quoteChars key.toList ++ ':' :: ' ' :: value

mutual

/-- Writes a value; `level` is the level of the line on which it starts. -/
def write (level : Nat) : Json → List Char
  | null => "null".toList
  | bool b => (if b then "true" else "false").toList
  | number n => Nat.toDigits 10 n
  | text s => Text.quoteChars s.toList
  | list vs => enclose level '[' ']' (writeElements (level + 1) vs)
  | object ms => enclose level '\x7b' '\x7d' (writeMembers (level + 1) ms)

/-- Writes the elements of a list. -/
def writeElements (level : Nat) : List Json → List (List Char)
  | [] => []
  | v :: vs => write level v :: writeElements level vs

/-- Writes the members of an object. -/
def writeMembers (level : Nat) : List (String × Json) → List (List Char)
  | [] => []
  | (key, v) :: ms => member key (write level v) :: writeMembers level ms

end

/-- The indented form of a document. -/
def pretty (v : Json) : String :=
  String.ofList (v.write 0)

end Json

end MessageSchema
