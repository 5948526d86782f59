/-
How numbers are written in a JSON document, and that the reader finds each of
them (`read_form`), provided that what follows cannot go on with the number.
Natural numbers are written by their digits (`form_ofNat`).
-/
import MessageSchema.Json.Number
import MessageSchema.Proofs.Text.Blank

namespace MessageSchema.Json.NumberText

open Text (Stops)

/-! ## The grammar -/

/-- Decimal digits, at least one. -/
def Decimal (ds : List Char) : Prop := ds ≠ [] ∧ ∀ c ∈ ds, c.isDigit = true

/-- A fraction with the point before it, or none. -/
inductive FractionForm : List Char → List Char → Prop where
  | absent : FractionForm [] []
  | present {ds : List Char} (digits : Decimal ds) : FractionForm ('.' :: ds) ds

/-- An exponent behind its letter and sign, or none. -/
inductive ExponentForm : List Char → Int → Prop where
  | absent : ExponentForm [] 0
  | bare {e : Char} {ds : List Char} (letter : e = 'e' ∨ e = 'E') (digits : Decimal ds) :
      ExponentForm (e :: ds) (Nat.ofDigitChars 10 ds 0)
  | plus {e : Char} {ds : List Char} (letter : e = 'e' ∨ e = 'E') (digits : Decimal ds) :
      ExponentForm (e :: '+' :: ds) (Nat.ofDigitChars 10 ds 0)
  | minus {e : Char} {ds : List Char} (letter : e = 'e' ∨ e = 'E') (digits : Decimal ds) :
      ExponentForm (e :: '-' :: ds) (-(Nat.ofDigitChars 10 ds 0))

/-- The texts that write a number. A leading zero stands alone. -/
inductive Form : List Char → NumberText → Prop where
  | intro {negative : Bool} {whole fracText fraction expText : List Char} {exponent : Int}
      (digits : Decimal whole) (zero : whole.head? = some '0' → whole = ['0'])
      (frac : FractionForm fracText fraction) (exp : ExponentForm expText exponent) :
      Form ((if negative then ['-'] else []) ++ (whole ++ (fracText ++ expText)))
        ⟨negative, whole, fraction, exponent⟩

/-- Whether a number may go on with a character. -/
def goesOn (c : Char) : Bool :=
  c.isDigit || c == '.' || c == 'e' || c == 'E'

/-! ## Reading -/

theorem readDigits_append {ds rest : List Char} (h : Decimal ds) (hstop : Stops Char.isDigit rest) :
    readDigits (ds ++ rest) = .ok (ds, rest) := by
  obtain ⟨htake, hdrop⟩ := Text.span_eq_iff.2 ⟨rfl, h.2, hstop⟩
  unfold readDigits
  split
  · next hnil => exact absurd (htake.symm.trans hnil) h.1
  · rw [htake, hdrop]

theorem readFraction_append {text ds rest : List Char} (h : FractionForm text ds)
    (hdigit : Stops Char.isDigit rest) (hpoint : rest.head? ≠ some '.') :
    readFraction (text ++ rest) = .ok (ds, rest) := by
  cases h with
  | absent =>
    rw [List.nil_append]
    unfold readFraction
    split
    · next cs => exact absurd rfl hpoint
    · rfl
  | present digits => exact readDigits_append digits hdigit

theorem readPower_append {negative : Bool} {ds rest : List Char} (h : Decimal ds)
    (hdigit : Stops Char.isDigit rest) :
    readPower negative (ds ++ rest) =
      .ok (if negative then -(Nat.ofDigitChars 10 ds 0 : Int) else Nat.ofDigitChars 10 ds 0, rest) := by
  rw [readPower, readDigits_append h hdigit]

theorem Decimal.ne_sign {c : Char} {ds : List Char} (h : Decimal (c :: ds)) : c ≠ '+' ∧ c ≠ '-' := by
  have hc := h.2 c (by simp)
  constructor
  all_goals
    rintro rfl
    exact absurd hc (by decide)

theorem readExponent_append {text rest : List Char} {n : Int} (h : ExponentForm text n)
    (hstop : Stops goesOn rest) : readExponent (text ++ rest) = .ok (n, rest) := by
  have hdigit : Stops Char.isDigit rest := hstop.imp fun c hc => by simp_all [goesOn]
  cases h with
  | absent =>
    cases rest with
    | nil => rfl
    | cons c rest =>
      have hc := hstop c rfl
      have hletter : ¬ (c = 'e' ∨ c = 'E') := by simp_all [goesOn]
      rw [List.nil_append, readExponent.eq_def]
      exact if_neg hletter
  | @bare e ds letter digits =>
    obtain ⟨d, ds, rfl⟩ := List.exists_cons_of_ne_nil digits.1
    obtain ⟨hplus, hminus⟩ := digits.ne_sign
    rw [List.cons_append, readExponent, if_pos letter]
    · exact readPower_append digits hdigit
    · rintro cs heq
      exact hplus (List.cons.inj heq).1
    · rintro cs heq
      exact hminus (List.cons.inj heq).1
  | plus letter digits =>
    rw [List.cons_append, List.cons_append, readExponent.eq_def]
    simp only [if_pos letter]
    exact readPower_append digits hdigit
  | minus letter digits =>
    rw [List.cons_append, List.cons_append, readExponent.eq_def]
    simp only [if_pos letter]
    exact readPower_append digits hdigit

/-- Where a fraction and an exponent stand, or nothing, no whole digit can. -/
theorem stops_exponent {text rest : List Char} {n : Int} (h : ExponentForm text n)
    (hstop : Stops goesOn rest) : Stops (fun c => c.isDigit || c == '.') (text ++ rest) := by
  have hletter : ∀ e, e = 'e' ∨ e = 'E' → (e.isDigit || e == '.') = false := by
    rintro e (rfl | rfl)
    · decide
    · decide
  cases h with
  | absent => exact hstop.imp fun c hc => by simp_all [goesOn]
  | bare letter digits => exact .cons (hletter _ letter)
  | plus letter digits => exact .cons (hletter _ letter)
  | minus letter digits => exact .cons (hletter _ letter)

theorem stops_fraction {text ds rest : List Char} (h : FractionForm text ds)
    (hstop : Stops Char.isDigit rest) : Stops Char.isDigit (text ++ rest) := by
  cases h with
  | absent => exact hstop
  | present digits => exact .cons (by decide)

theorem readUnsigned_append {negative : Bool} {whole fracText fraction expText rest : List Char}
    {exponent : Int} (digits : Decimal whole) (zero : whole.head? = some '0' → whole = ['0'])
    (frac : FractionForm fracText fraction) (exp : ExponentForm expText exponent)
    (hstop : Stops goesOn rest) :
    readUnsigned negative (whole ++ (fracText ++ (expText ++ rest))) =
      .ok (⟨negative, whole, fraction, exponent⟩, rest) := by
  have hpoint := stops_exponent exp hstop
  have hdigit : Stops Char.isDigit (expText ++ rest) := hpoint.imp fun c hc => by simp_all
  have hnopoint : (expText ++ rest).head? ≠ some '.' := fun hhead => absurd (hpoint '.' hhead) (by decide)
  have hzero : ¬ (whole.head? = some '0' ∧ whole ≠ ['0']) := fun h => h.2 (zero h.1)
  simp only [readUnsigned, bind, Except.bind, readDigits_append digits (stops_fraction frac hdigit),
    if_neg hzero, readFraction_append frac hdigit hnopoint, readExponent_append exp hstop]
  rfl

/-- **A number is read from every way to write it.** -/
theorem read_form {cs : List Char} {n : NumberText} (h : Form cs n) {rest : List Char}
    (hstop : Stops goesOn rest) : read (cs ++ rest) = .ok (n, rest) := by
  cases h with
  | @intro negative whole fracText fraction expText exponent digits zero frac exp =>
    simp only [List.append_assoc]
    cases negative with
    | true => exact readUnsigned_append digits zero frac exp hstop
    | false =>
      rw [if_neg (by decide), List.nil_append]
      unfold read
      split
      · next heq =>
        obtain ⟨d, ds, rfl⟩ := List.exists_cons_of_ne_nil digits.1
        cases heq
        exact absurd rfl digits.ne_sign.2
      · exact readUnsigned_append digits zero frac exp hstop

theorem Form.head {cs : List Char} {n : NumberText} (h : Form cs n) :
    ∃ c body, cs = c :: body ∧ (c = '-' ∨ c.isDigit = true) := by
  cases h with
  | @intro negative whole fracText fraction expText exponent digits =>
    obtain ⟨d, ds, rfl⟩ := List.exists_cons_of_ne_nil digits.1
    cases negative with
    | true => exact ⟨'-', _, rfl, .inl rfl⟩
    | false => exact ⟨d, _, rfl, .inr (digits.2 d (by simp))⟩

/-! ## Natural numbers -/

/-- A natural number, as its digits. -/
def ofNat (n : Nat) : NumberText := ⟨false, Nat.toDigits 10 n, [], 0⟩

theorem ofNat_injective {n m : Nat} (h : ofNat n = ofNat m) : n = m := by
  have hdigits : Nat.toDigits 10 n = Nat.toDigits 10 m := congrArg whole h
  rw [← Nat.ofDigitChars_ten_toDigits (n := n), hdigits, Nat.ofDigitChars_ten_toDigits]

theorem decimal_toDigits (n : Nat) : Decimal (Nat.toDigits 10 n) :=
  ⟨Nat.toDigits_ne_nil, fun _ hc => Nat.isDigit_of_mem_toDigits (by decide) (by decide) hc⟩

/-- Only zero starts with a zero. -/
theorem head?_toDigits {n : Nat} (h : n ≠ 0) : (Nat.toDigits 10 n).head? ≠ some '0' := by
  induction n using Nat.strongRecOn with
  | ind n ih =>
    by_cases hn : n < 10
    · have hdigit : ∀ m < 10, m ≠ 0 → m.digitChar ≠ '0' := by decide
      rw [Nat.toDigits_of_lt_base hn]
      simpa using hdigit n hn h
    · rw [Nat.toDigits_of_base_le (by decide) (by omega), List.head?_append_of_ne_nil _ Nat.toDigits_ne_nil]
      exact ih (n / 10) (by omega) (by omega)

theorem form_ofNat (n : Nat) : Form (Nat.toDigits 10 n) (ofNat n) := by
  have hzero : (Nat.toDigits 10 n).head? = some '0' → Nat.toDigits 10 n = ['0'] := by
    intro hhead
    by_cases hn : n = 0
    · subst hn
      rfl
    · exact absurd hhead (head?_toDigits hn)
  have hform := @Form.intro false _ _ _ _ _ (decimal_toDigits n) hzero .absent .absent
  simpa [ofNat] using hform

end MessageSchema.Json.NumberText
