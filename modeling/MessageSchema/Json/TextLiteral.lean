/-
Texts in a JSON document. Between the quotes stand characters and escapes;
an escape of four hexadecimal digits stands for a UTF-16 unit, and two such
units in a row for one character beyond the first plane.

Whether a text is complete does not depend on how its units pair up. So it
is first scanned for its units and its end, and the units are paired only
where the text itself is wanted.
-/
import MessageSchema.Json.Fault

namespace MessageSchema.Json

/-- A piece of a text: a character, or a UTF-16 unit given by number. -/
inductive TextUnit where
  | char (c : Char)
  | unit (n : Nat)
deriving DecidableEq, Repr

/-- A scanned text: its units, and the rest of the document after the closing
quote or the fault that came before it. -/
structure TextScan where
  units : List TextUnit
  ending : Except Fault (List Char)

namespace TextScan

/-- The value of a hexadecimal digit. -/
def hexValue? (c : Char) : Option Nat :=
  if '0' ≤ c ∧ c ≤ '9' then some (c.toNat - '0'.toNat)
  else if 'a' ≤ c ∧ c ≤ 'f' then some (c.toNat - 'a'.toNat + 10)
  else if 'A' ≤ c ∧ c ≤ 'F' then some (c.toNat - 'A'.toNat + 10)
  else none

/-- The number that four hexadecimal digits write. -/
def unitOfHex? (a b c d : Char) : Option Nat := do
  let a ← hexValue? a
  let b ← hexValue? b
  let c ← hexValue? c
  let d ← hexValue? d
  return ((a * 16 + b) * 16 + c) * 16 + d

/-- The character that a short escape stands for. -/
def unescape? (c : Char) : Option Char :=
  if c = '"' ∨ c = '\\' ∨ c = '/' then some c
  else if c = 'b' then some '\x08'
  else if c = 'f' then some '\x0c'
  else if c = 'n' then some '\n'
  else if c = 'r' then some '\r'
  else if c = 't' then some '\t'
  else none

/-- The scan that stops here. -/
def stop (f : Fault) : TextScan := ⟨[], .error f⟩

/-- Puts a unit in front. -/
def cons (u : TextUnit) (s : TextScan) : TextScan := ⟨u :: s.units, s.ending⟩

/-- The number of bytes of a text in UTF-8. -/
def byteCount : List Char → Nat
  | [] => 0
  | c :: cs => c.utf8Size + byteCount cs

/-- Scans a text after its opening quote. An escape that is cut off by the
end of the document counts as an early end only if fewer than four bytes
are left. -/
def scan : List Char → TextScan
  | [] => stop .endOfInput
  | '"' :: cs => ⟨[], .ok cs⟩
  | ['\\'] => stop .endOfInput
  | '\\' :: 'u' :: a :: b :: c :: d :: cs =>
    match unitOfHex? a b c d with
    | some n => cons (.unit n) (scan cs)
    | none => stop .malformed
  | '\\' :: c :: cs =>
    if c = 'u' then stop (if byteCount cs < 4 then .endOfInput else .malformed)
    else
      match unescape? c with
      | some e => cons (.char e) (scan cs)
      | none => stop .malformed
  | c :: cs => if c.toNat < 0x20 then stop .malformed else cons (.char c) (scan cs)

theorem scan_shorter (cs : List Char) {rest : List Char} (h : (scan cs).ending = .ok rest) :
    rest.length < cs.length := by
  fun_induction scan cs with
  | case1 => simp [stop] at h
  | case2 cs =>
    simp only [Except.ok.injEq] at h
    subst h
    simp
  | case3 => simp [stop] at h
  | case4 a b c d cs n _ ih =>
    have := ih h
    simp only [List.length_cons]
    omega
  | case5 => simp [stop] at h
  | case6 => simp [stop] at h
  | case7 c cs _ _ _ _ ih =>
    have := ih h
    simp only [List.length_cons]
    omega
  | case8 => simp [stop] at h
  | case9 => simp [stop] at h
  | case10 c cs _ _ _ _ _ ih =>
    have := ih h
    simp only [List.length_cons]
    omega

/-- Whether a unit is the first of a pair. -/
def isLeading (n : Nat) : Bool := decide (0xD800 ≤ n) && decide (n < 0xDC00)

/-- Whether a unit is the second of a pair. -/
def isTrailing (n : Nat) : Bool := decide (0xDC00 ≤ n) && decide (n < 0xE000)

/-- The characters of a run of units that ends as `stopped` says. A first
unit with no second at the very end is at fault only for where the text
stops. -/
def decode (stopped : Option Fault) : List TextUnit → Except Fault (List Char)
  | [] =>
    match stopped with
    | none => .ok []
    | some f => .error f
  | .char c :: us => (decode stopped us).map (c :: ·)
  | .unit n :: us =>
    if isTrailing n then .error .malformed
    else if isLeading n then
      match us with
      | .unit m :: us =>
        if isTrailing m then
          (decode stopped us).map
            (Char.ofNat (0x10000 + (n - 0xD800) * 0x400 + (m - 0xDC00)) :: ·)
        else .error .malformed
      | .char _ :: _ => .error .malformed
      | [] => .error (stopped.getD .malformed)
    else (decode stopped us).map (Char.ofNat n :: ·)

/-- The text itself. -/
def value (s : TextScan) : Except Fault String :=
  (match s.ending with
    | .ok _ => decode none s.units
    | .error f => decode (some f) s.units).map String.ofList

end TextScan

end MessageSchema.Json
