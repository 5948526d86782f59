/-
Numbers in a JSON text. A number has whole digits without a needless
leading zero, perhaps a fraction, and perhaps an exponent.

A number too large for a double is at fault where its value is wanted. Its
magnitude is found as follows: the leading digits, as many as make a number
of sixty-four bits, are rounded to a double and then multiplied by the
double nearest to the power of ten that the other digits and the exponent
leave.
-/
import MessageSchema.Json.Fault

namespace MessageSchema.Json

/-- A number as written. -/
structure NumberText where
  negative : Bool
  whole : List Char
  fraction : List Char
  exponent : Int
deriving DecidableEq, Repr

namespace NumberText

/-! ## Reading -/

/-- The digits here, at least one, and the text after them. -/
def readDigits (cs : List Char) : Except Fault (List Char × List Char) :=
  match cs.takeWhile Char.isDigit with
  | [] => .error (if cs = [] then .endOfInput else .malformed)
  | ds => .ok (ds, cs.dropWhile Char.isDigit)

/-- The fraction after a point, if there is one. -/
def readFraction : List Char → Except Fault (List Char × List Char)
  | '.' :: cs => readDigits cs
  | cs => .ok ([], cs)

/-- The digits of an exponent after its sign. -/
def readPower (negative : Bool) (cs : List Char) : Except Fault (Int × List Char) :=
  match readDigits cs with
  | .ok (ds, cs) =>
    let n : Int := Nat.ofDigitChars 10 ds 0
    .ok (if negative then -n else n, cs)
  | .error f => .error f

/-- The exponent after an `e`, if there is one. -/
def readExponent : List Char → Except Fault (Int × List Char)
  | [] => .ok (0, [])
  | c :: cs =>
    if c = 'e' ∨ c = 'E' then
      match cs with
      | '+' :: cs => readPower false cs
      | '-' :: cs => readPower true cs
      | cs => readPower false cs
    else .ok (0, c :: cs)

/-- Reads a number after its sign. -/
def readUnsigned (negative : Bool) (cs : List Char) : Except Fault (NumberText × List Char) := do
  let (whole, cs) ← readDigits cs
  if whole.head? = some '0' ∧ whole ≠ ['0'] then throw .malformed
  let (fraction, cs) ← readFraction cs
  let (exponent, cs) ← readExponent cs
  return (⟨negative, whole, fraction, exponent⟩, cs)

/-- Reads a number. -/
def read : List Char → Except Fault (NumberText × List Char)
  | '-' :: cs => readUnsigned true cs
  | cs => readUnsigned false cs

theorem readDigits_shorter {cs ds rest : List Char} (h : readDigits cs = .ok (ds, rest)) :
    rest.length < cs.length := by
  unfold readDigits at h
  split at h
  · cases h
  · rename_i hne
    simp only [Except.ok.injEq, Prod.mk.injEq] at h
    obtain ⟨rfl, rfl⟩ := h
    have hsum := congrArg List.length (List.takeWhile_append_dropWhile (p := Char.isDigit) (l := cs))
    have hpos : (cs.takeWhile Char.isDigit).length ≠ 0 := fun h0 => hne (List.length_eq_zero_iff.1 h0)
    simp only [List.length_append] at hsum
    omega

theorem readFraction_shorter {cs ds rest : List Char} (h : readFraction cs = .ok (ds, rest)) :
    rest.length ≤ cs.length := by
  unfold readFraction at h
  split at h
  · have := readDigits_shorter h
    simp only [List.length_cons]
    omega
  · simp only [Except.ok.injEq, Prod.mk.injEq] at h
    exact Nat.le_of_eq (congrArg List.length h.2.symm)

theorem readPower_shorter {negative : Bool} {cs rest : List Char} {n : Int}
    (h : readPower negative cs = .ok (n, rest)) : rest.length < cs.length := by
  unfold readPower at h
  split at h
  · rename_i hd
    simp only [Except.ok.injEq, Prod.mk.injEq] at h
    exact h.2 ▸ readDigits_shorter hd
  · cases h

theorem readExponent_shorter {cs rest : List Char} {n : Int} (h : readExponent cs = .ok (n, rest)) :
    rest.length ≤ cs.length := by
  unfold readExponent at h
  split at h
  · simp only [Except.ok.injEq, Prod.mk.injEq] at h
    exact Nat.le_of_eq (congrArg List.length h.2.symm)
  · split at h
    · split at h
      all_goals
        have := readPower_shorter h
        simp only [List.length_cons]
        omega
    · simp only [Except.ok.injEq, Prod.mk.injEq] at h
      exact Nat.le_of_eq (congrArg List.length h.2.symm)

theorem readUnsigned_shorter {negative : Bool} {cs rest : List Char} {n : NumberText}
    (h : readUnsigned negative cs = .ok (n, rest)) : rest.length < cs.length := by
  simp only [readUnsigned, bind, Except.bind, pure, Except.pure] at h
  split at h
  · cases h
  · rename_i hw
    have h1 := readDigits_shorter hw
    split at h
    · cases h
    · split at h
      · cases h
      · rename_i hf
        have h2 := readFraction_shorter hf
        split at h
        · cases h
        · rename_i he
          have h3 := readExponent_shorter he
          simp only [Except.ok.injEq, Prod.mk.injEq] at h
          rw [← h.2]
          omega

theorem read_shorter {cs rest : List Char} {n : NumberText} (h : read cs = .ok (n, rest)) :
    rest.length < cs.length := by
  unfold read at h
  split at h
  · have := readUnsigned_shorter h
    simp only [List.length_cons]
    omega
  · exact readUnsigned_shorter h

/-! ## Magnitude -/

/-- Two to the power sixty-four. -/
def wordLimit : Nat := 18446744073709551616

/-- Appends digits to a number for as long as it stays below sixty-four bits,
and leaves the others. -/
def appendDigits (n : Nat) : List Char → Nat × List Char
  | [] => (n, [])
  | d :: ds =>
    let m := 10 * n + (d.toNat - '0'.toNat)
    if m < wordLimit then appendDigits m ds else (n, d :: ds)

/-- Rounds a natural number to the nearest one that fifty-three bits and a
power of two can write; a tie goes to the even one. -/
def roundToDouble (n : Nat) : Nat :=
  if n.log2 < 53 then n
  else
    let unit := Nat.pow 2 (n.log2 - 52)
    let q := n / unit
    let r := n % unit
    if 2 * r > unit ∨ (2 * r = unit ∧ q % 2 = 1) then (q + 1) * unit else q * unit

/-- Whether the number exceeds every double. -/
def tooLarge (n : NumberText) : Bool :=
  let (whole, left) := appendDigits 0 n.whole
  let (significand, dropped) := appendDigits whole n.fraction
  let power := n.exponent + left.length - (n.fraction.length - dropped.length : Nat)
  match power with
  | .negSucc _ => false
  | .ofNat p =>
    significand != 0 &&
      (decide (308 < p) ||
        decide (Nat.pow 2 1024 ≤
          roundToDouble (roundToDouble significand * roundToDouble (Nat.pow 10 p))))

end NumberText

end MessageSchema.Json
