/-
Letters and digits of ASCII under the tables of Unicode. All that the tables
list lies beyond ASCII, but for the ten digits; so on ASCII the properties
and the case maps are those of the core library, and what holds of every
ASCII character is found by looking at each of them (`of_ascii`).
-/
import MessageSchema.Text.CaseMapping
import MessageSchema.Text.Numeric
import MessageSchema.Text.Uppercase

namespace MessageSchema.Text

/-- Letters and digits of ASCII, perhaps none. -/
def Alphanumeric (cs : List Char) : Prop := ∀ c ∈ cs, c.isAlphanum = true

instance (cs : List Char) : Decidable (Alphanumeric cs) :=
  decidable_of_iff (cs.all Char.isAlphanum = true) List.all_eq_true

/-- There are few ASCII characters, so what holds of each of them holds of an
ASCII character. -/
theorem of_ascii {P : Char → Prop} {c : Char} (h : c.toNat < 0x80)
    (hcodes : ∀ n < 0x80, P (Char.ofNat n)) : P c := by
  have hc := hcodes c.toNat h
  rw [Char.ofNat_toNat] at hc
  exact hc

theorem isUpper_iff {c : Char} : c.isUpper = true ↔ 65 ≤ c.toNat ∧ c.toNat ≤ 90 :=
  decide_eq_true_iff

theorem isLower_iff {c : Char} : c.isLower = true ↔ 97 ≤ c.toNat ∧ c.toNat ≤ 122 :=
  Bool.and_eq_true_iff.trans (and_congr decide_eq_true_iff decide_eq_true_iff)

theorem isDigit_iff {c : Char} : c.isDigit = true ↔ 48 ≤ c.toNat ∧ c.toNat ≤ 57 :=
  Bool.and_eq_true_iff.trans (and_congr decide_eq_true_iff decide_eq_true_iff)

theorem isAlphanum_iff {c : Char} :
    c.isAlphanum = true ↔ (c.isUpper = true ∨ c.isLower = true) ∨ c.isDigit = true :=
  Bool.or_eq_true_iff.trans (or_congr_left Bool.or_eq_true_iff)

theorem toNat_lt_of_isAlphanum {c : Char} (h : c.isAlphanum = true) : c.toNat < 0x80 := by
  rw [isAlphanum_iff, isUpper_iff, isLower_iff, isDigit_iff] at h
  omega

/-! ## Properties -/

section

variable {c : Char} (h : c.isAlphanum = true)

include h

theorem isUppercase_ascii : isUppercase c = c.isUpper :=
  if_pos (toNat_lt_of_isAlphanum h)

theorem isDecimalDigit_ascii : isDecimalDigit c = c.isDigit := by
  have hcode := toNat_lt_of_isAlphanum h
  have hbeyond : ∀ z ∈ decimalZeros.tail, 0x80 ≤ z := by decide
  have htail : decimalZeros.tail.any (fun z => decide (z ≤ c.toNat) && decide (c.toNat < z + 10)) = false := by
    rw [List.any_eq_false]
    intro z hz hdigit
    have hz := hbeyond z hz
    simp only [Bool.and_eq_true, decide_eq_true_eq] at hdigit
    omega
  rw [isDecimalDigit, show decimalZeros = 48 :: decimalZeros.tail from rfl, List.any_cons, htail,
    Bool.or_false, Bool.eq_iff_iff, isDigit_iff]
  simp only [Bool.and_eq_true, decide_eq_true_eq]
  omega

theorem isNumeric_ascii : isNumeric c = c.isDigit := by
  have hcode := toNat_lt_of_isAlphanum h
  have hbeyond : ∀ r ∈ otherNumbers, 0x80 ≤ r.first := by decide
  have hother : otherNumbers.any (·.holds c.toNat) = false := by
    rw [List.any_eq_false]
    intro r hr hholds
    have hr := hbeyond r hr
    simp only [CodeRun.holds, Bool.and_eq_true, decide_eq_true_eq] at hholds
    omega
  rw [isNumeric, hother, isDecimalDigit_ascii h, Bool.or_false]

theorem isLower_ascii : c.isLower = (!c.isUpper && !c.isDigit) :=
  of_ascii (P := fun c => c.isAlphanum = true → c.isLower = (!c.isUpper && !c.isDigit))
    (toNat_lt_of_isAlphanum h) (by decide) h

/-! ## Case -/

theorem upper_ascii : upper c = [c.toUpper] :=
  if_pos (toNat_lt_of_isAlphanum h)

theorem lower_ascii : lower c = [c.toLower] :=
  if_pos (toNat_lt_of_isAlphanum h)

theorem toLower_ascii : c.toLower.isLower = true ∨ c.toLower.isDigit = true :=
  of_ascii (P := fun c => c.isAlphanum = true → c.toLower.isLower = true ∨ c.toLower.isDigit = true)
    (toNat_lt_of_isAlphanum h) (by decide) h

end

section

variable {c : Char}

theorem isAlphanum_of_isUpper (h : c.isUpper = true) : c.isAlphanum = true :=
  isAlphanum_iff.2 (.inl (.inl h))

theorem isAlphanum_of_isLower (h : c.isLower = true) : c.isAlphanum = true :=
  isAlphanum_iff.2 (.inl (.inr h))

theorem isAlphanum_of_isDigit (h : c.isDigit = true) : c.isAlphanum = true :=
  isAlphanum_iff.2 (.inr h)

theorem isUpper_toUpper (h : c.isLower = true) : c.toUpper.isUpper = true :=
  of_ascii (P := fun c => c.isLower = true → c.toUpper.isUpper = true)
    (toNat_lt_of_isAlphanum (isAlphanum_of_isLower h)) (by decide) h

theorem toLower_toUpper (h : c.isLower = true) : c.toUpper.toLower = c :=
  of_ascii (P := fun c => c.isLower = true → c.toUpper.toLower = c)
    (toNat_lt_of_isAlphanum (isAlphanum_of_isLower h)) (by decide) h

theorem toLower_of_not_isUpper (h : c.isUpper = false) : c.toLower = c :=
  dif_neg (of_decide_eq_false h)

end

end MessageSchema.Text
