/-
Default values. A scalar default is one literal, an array default a list of
literals in brackets. Literals of text types are quoted in one canonical
way; all others are kept as written.

The list is split like one record of comma-separated values: blanks before
an element are dropped, an element that starts with a double quote runs to
the next double quote in front of a comma or at the end, two double quotes
inside it stand for one, and any other double quote stands for itself.
-/
import MessageSchema.Primitive
import MessageSchema.Text.Blank

namespace MessageSchema

/-- The default of a field. -/
inductive DefaultValue where
  | scalar (literal : String)
  | list (literals : List String)
deriving DecidableEq, Repr

namespace DefaultValue

open Text

/-! ## Edges -/

/-- Drops one `c` at the start. -/
def dropLeading (c : Char) : List Char → List Char
  | [] => []
  | d :: cs => if d = c then cs else d :: cs

/-- Drops one `c` at the end. -/
def dropTrailing (c : Char) (cs : List Char) : List Char :=
  if cs.getLast? = some c then cs.dropLast else cs

/-- Drops one `[` at the start and one `]` at the end. -/
def stripBrackets (cs : List Char) : List Char :=
  dropTrailing ']' (dropLeading '[' cs)

/-! ## Text literals -/

/-- Puts a backslash before every double quote that has none. -/
def escapeDouble : List Char → List Char
  | [] => []
  | '\\' :: '"' :: cs => '\\' :: '"' :: escapeDouble cs
  | c :: cs => if c = '"' then '\\' :: '"' :: escapeDouble cs else c :: escapeDouble cs

/-- Takes away the backslash before every single quote that has one. -/
def unescapeSingle : List Char → List Char
  | [] => []
  | '\\' :: '\'' :: cs => '\'' :: unescapeSingle cs
  | c :: cs => c :: unescapeSingle cs

/-- The canonical literal of a text whose outer double quotes are gone: a
pair of outer single quotes is dropped too, and the double quotes inside
are escaped. -/
def canonical (cs : List Char) : List Char :=
  if cs = [] then ['"', '"']
  else
    let body := dropTrailing '\'' (dropLeading '\'' cs)
    '"' :: (unescapeSingle (escapeDouble body) ++ ['"'])

/-- The canonical form of a scalar default of the named type. -/
def normalizeChars (typeName : String) (cs : List Char) : List Char :=
  if isTextualName typeName then canonical (dropTrailing '"' (dropLeading '"' cs)) else cs

/-! ## Lists of literals -/

/-- Reads up to a comma: what stands before it, and the text after it if
there is a comma. -/
def readBare : List Char → List Char × Option (List Char)
  | [] => ([], none)
  | c :: cs =>
    if c = ',' then ([], some cs)
    else
      let (value, rest) := readBare cs
      (c :: value, rest)

/-- Reads an element after its opening double quote, up to the quote that
closes it and the comma after that. -/
def readQuoted : List Char → List Char × Option (List Char)
  | [] => ([], none)
  | ['"'] => ([], none)
  | '"' :: '"' :: cs =>
    let (value, rest) := readQuoted cs
    ('"' :: value, rest)
  | '"' :: ',' :: cs => ([], some cs)
  | c :: cs =>
    let (value, rest) := readQuoted cs
    (c :: value, rest)

/-- Reads one element that starts here. -/
def readElement : List Char → List Char × Option (List Char)
  | '"' :: cs => readQuoted cs
  | cs => readBare cs

theorem readBare_shorter (cs : List Char) {rest : List Char} (h : (readBare cs).2 = some rest) :
    rest.length < cs.length := by
  induction cs with
  | nil => simp [readBare] at h
  | cons c cs ih =>
    simp only [readBare] at h
    split at h
    · simp only [Option.some.injEq] at h
      subst h
      simp
    · have := ih h
      simp only [List.length_cons]
      omega

theorem readQuoted_shorter (cs : List Char) {rest : List Char} (h : (readQuoted cs).2 = some rest) :
    rest.length < cs.length := by
  fun_induction readQuoted cs with
  | case1 => simp at h
  | case2 => simp at h
  | case3 cs value rest' hq ih =>
    have := ih (by simpa [hq] using h)
    simp only [List.length_cons]
    omega
  | case4 cs =>
    simp only [Option.some.injEq] at h
    subst h
    simp only [List.length_cons]
    omega
  | case5 c cs _ _ _ value rest' hq ih =>
    have := ih (by simpa [hq] using h)
    simp only [List.length_cons]
    omega

theorem readElement_shorter (cs : List Char) {rest : List Char} (h : (readElement cs).2 = some rest) :
    rest.length < cs.length := by
  unfold readElement at h
  split at h
  · have := readQuoted_shorter _ h
    simp only [List.length_cons]
    omega
  · exact readBare_shorter _ h

/-- The elements from here on, at least one. -/
def elements (cs : List Char) : List (List Char) :=
  (readElement (trimStart cs)).1 ::
    match _h : (readElement (trimStart cs)).2 with
    | none => []
    | some rest => elements rest
termination_by cs.length
decreasing_by
  have := readElement_shorter _ _h
  have : (trimStart cs).length ≤ cs.length := (List.dropWhile_sublist _).length_le
  omega

/-- The elements of a record; a blank record has none. -/
def splitRecord (cs : List Char) : List (List Char) :=
  if cs.all isBlank then [] else elements cs

/-- The literals of an array default of the named type. -/
def splitChars (typeName : String) (cs : List Char) : List (List Char) :=
  let values := splitRecord (stripBrackets cs)
  if isTextualName typeName then values.map canonical else values

/-! ## On strings -/

/-- The text without its outer brackets. -/
def unbracketed (text : String) : String :=
  String.ofList (stripBrackets text.toList)

/-- The literal of a scalar default of the named type. -/
def normalize (typeName text : String) : String :=
  String.ofList (normalizeChars typeName text.toList)

/-- The literals of an array default of the named type. -/
def split (typeName text : String) : List String :=
  (splitChars typeName text.toList).map String.ofList

end DefaultValue

end MessageSchema
