/-
The tokens of a JSON text. Every text has a list of tokens; it ends where
the text ends, or with a token that says what is wrong there. A token that
breaks off tells two faults: the one met when its value is wanted, and the
one met when it is passed over.
-/
import MessageSchema.Json.Number
import MessageSchema.Json.TextLiteral

namespace MessageSchema.Json

/-- A token. -/
inductive Token where
  | openList
  | closeList
  | openObject
  | closeObject
  | colon
  | comma
  | null
  | bool (value : Bool)
  | number (value : NumberText)
  /-- A complete text; its units may fail to pair up. -/
  | text (value : Except Fault String)
  /-- A text that breaks off. -/
  | cutText (wanted passed : Fault)
  /-- A literal or number that breaks off. -/
  | cutScalar (wanted passed : Fault)
  /-- A character that starts no token. -/
  | stray

namespace Token

/-- Whether a character may stand between tokens. -/
def isSpace (c : Char) : Bool :=
  c == ' ' || c == '\n' || c == '\t' || c == '\r'

/-- Takes a word off the front. -/
def readWord : List Char → List Char → Except Fault (List Char)
  | [], cs => .ok cs
  | _ :: _, [] => .error .endOfInput
  | w :: ws, c :: cs => if w = c then readWord ws cs else .error .malformed

/-- The token of a literal after its first letter, and the text after it. -/
def readLiteral (token : Token) (word : String) (cs : List Char) : Token × Option (List Char) :=
  match readWord word.toList cs with
  | .ok rest => (token, some rest)
  | .error f => (cutScalar f f, none)

/-- The token of a text after its opening quote, and what follows. -/
def readText (cs : List Char) : Token × Option (List Char) :=
  let scan := TextScan.scan cs
  match scan.ending with
  | .ok rest => (text scan.value, some rest)
  | .error f =>
    match scan.value with
    | .ok _ => (cutText f f, none)
    | .error g => (cutText g f, none)

/-- The token of a number, and the text after it. A number that is passed
over and breaks off breaks the grammar, even at the end of the text. -/
def readNumber (cs : List Char) : Token × Option (List Char) :=
  match NumberText.read cs with
  | .ok (n, rest) => (number n, some rest)
  | .error f => (cutScalar f .malformed, none)

/-- The tokens of one character. -/
def ofMark? : Char → Option Token
  | '[' => some openList
  | ']' => some closeList
  | '\x7b' => some openObject
  | '\x7d' => some closeObject
  | ':' => some colon
  | ',' => some comma
  | _ => none

/-- The literal with a given first letter, and its other letters. -/
def ofLetter? : Char → Option (Token × String)
  | 'n' => some (null, "ull")
  | 't' => some (bool true, "rue")
  | 'f' => some (bool false, "alse")
  | _ => none

/-- The token that starts with `c`, and the text after it unless reading ends
there. -/
def read (c : Char) (cs : List Char) : Token × Option (List Char) :=
  match ofMark? c with
  | some t => (t, some cs)
  | none =>
    match ofLetter? c with
    | some (token, word) => readLiteral token word cs
    | none =>
      if c = '"' then readText cs
      else if c = '-' ∨ c.isDigit = true then readNumber (c :: cs)
      else (stray, none)

theorem readWord_shorter {word cs rest : List Char} (h : readWord word cs = .ok rest) :
    rest.length ≤ cs.length := by
  fun_induction readWord word cs with
  | case1 cs =>
    simp only [Except.ok.injEq] at h
    simp [h]
  | case2 => cases h
  | case3 w ws cs ih =>
    have := ih h
    simp only [List.length_cons]
    omega
  | case4 => cases h

theorem readLiteral_shorter {token : Token} {word : String} {cs rest : List Char}
    (h : (readLiteral token word cs).2 = some rest) : rest.length ≤ cs.length := by
  unfold readLiteral at h
  split at h
  · rename_i hw
    simp only [Option.some.injEq] at h
    exact h ▸ readWord_shorter hw
  · cases h

theorem readText_shorter {cs rest : List Char} (h : (readText cs).2 = some rest) :
    rest.length ≤ cs.length := by
  simp only [readText] at h
  split at h
  · rename_i hs
    simp only [Option.some.injEq] at h
    exact h ▸ Nat.le_of_lt (TextScan.scan_shorter cs hs)
  · split at h <;> cases h

theorem readNumber_shorter {c : Char} {cs rest : List Char}
    (h : (readNumber (c :: cs)).2 = some rest) : rest.length ≤ cs.length := by
  unfold readNumber at h
  split at h
  · rename_i hn
    simp only [Option.some.injEq] at h
    have := NumberText.read_shorter hn
    simp only [List.length_cons] at this
    rw [← h]
    omega
  · cases h

theorem read_shorter {c : Char} {cs rest : List Char} (h : (read c cs).2 = some rest) :
    rest.length ≤ cs.length := by
  unfold read at h
  split at h
  · exact Nat.le_of_eq (congrArg List.length (Option.some.inj h)).symm
  · split at h
    · exact readLiteral_shorter h
    · split at h
      · exact readText_shorter h
      · split at h
        · exact readNumber_shorter h
        · cases h

/-- The tokens of a text. -/
def ofChars (cs : List Char) : List Token :=
  match _hs : cs.dropWhile isSpace with
  | [] => []
  | c :: body =>
    (read c body).1 ::
      match _hr : (read c body).2 with
      | none => []
      | some rest => ofChars rest
termination_by cs.length
decreasing_by
  have := read_shorter _hr
  have hle := (List.dropWhile_sublist isSpace (l := cs)).length_le
  rw [_hs, List.length_cons] at hle
  omega

/-- The tokens of a string. -/
def ofString (s : String) : List Token :=
  ofChars s.toList

/-- The fault of a token that stands where a value of another type is
wanted. -/
def mistyped : Token → Fault
  | openList => .mistyped
  | openObject => .mistyped
  | null => .mistyped
  | bool _ => .mistyped
  | number n => if n.tooLarge then .malformed else .mistyped
  | text (.ok _) => .mistyped
  | text (.error f) => f
  | cutText f _ => f
  | cutScalar f _ => f
  | _ => .malformed

end Token

end MessageSchema.Json
