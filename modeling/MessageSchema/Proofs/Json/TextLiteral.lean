/-
The ways to write a text between the quotes of a JSON document, and that the
reader finds the text in each of them (`scan_escaped`). A quoted text is one of
these ways (`escaped_flatMap_escape`).
-/
import MessageSchema.Json.TextLiteral
import MessageSchema.Text.Quoted
import Mathlib.Tactic.SplitIfs

namespace MessageSchema.Json

open TextScan

/-- The characters between the quotes stand for the text: a character for
itself, a short escape for its character, an escape of four digits for the
character with that code, and two of them for one beyond the first plane. -/
inductive Escaped : List Char → List Char → Prop where
  | nil : Escaped [] []
  | plain {c : Char} {cs text : List Char} (printable : 0x20 ≤ c.toNat) (quote : c ≠ '"')
      (backslash : c ≠ '\\') (rest : Escaped cs text) : Escaped (c :: cs) (c :: text)
  | short {e c : Char} {cs text : List Char} (escape : unescape? e = some c) (rest : Escaped cs text) :
      Escaped ('\\' :: e :: cs) (c :: text)
  | unit {a b c d : Char} {n : Nat} {cs text : List Char} (digits : unitOfHex? a b c d = some n)
      (plane : isLeading n = false ∧ isTrailing n = false) (rest : Escaped cs text) :
      Escaped ('\\' :: 'u' :: a :: b :: c :: d :: cs) (Char.ofNat n :: text)
  | pair {a b c d a' b' c' d' : Char} {n m : Nat} {cs text : List Char}
      (digits : unitOfHex? a b c d = some n) (digits' : unitOfHex? a' b' c' d' = some m)
      (leading : isLeading n = true) (trailing : isTrailing m = true) (rest : Escaped cs text) :
      Escaped ('\\' :: 'u' :: a :: b :: c :: d :: '\\' :: 'u' :: a' :: b' :: c' :: d' :: cs)
        (Char.ofNat (0x10000 + (n - 0xD800) * 0x400 + (m - 0xDC00)) :: text)

theorem Escaped.append {cs ds text more : List Char} (h : Escaped cs text) (hmore : Escaped ds more) :
    Escaped (cs ++ ds) (text ++ more) := by
  induction h with
  | nil => exact hmore
  | plain printable quote backslash _ ih => exact .plain printable quote backslash ih
  | short escape _ ih => exact .short escape ih
  | unit digits plane _ ih => exact .unit digits plane ih
  | pair digits digits' leading trailing _ ih => exact .pair digits digits' leading trailing ih

/-! ## Reading -/

theorem scan_plain {c : Char} (printable : 0x20 ≤ c.toNat) (quote : c ≠ '"') (backslash : c ≠ '\\')
    (cs : List Char) : scan (c :: cs) = cons (.char c) (scan cs) := by
  have hcontrol : ¬ c.toNat < 0x20 := by omega
  rw [scan, if_neg hcontrol]
  · exact quote
  · exact fun h _ => backslash h
  · exact fun _ _ _ _ _ h _ => backslash h
  · exact fun _ _ h _ => backslash h

theorem scan_short {e c : Char} (escape : unescape? e = some c) (cs : List Char) :
    scan ('\\' :: e :: cs) = cons (.char c) (scan cs) := by
  have hu : e ≠ 'u' := by
    intro he
    rw [he, show unescape? 'u' = none by decide] at escape
    cases escape
  rw [scan, if_neg hu, escape]
  intro a b c d cs' he
  exact absurd he hu

theorem scan_unit {a b c d : Char} {n : Nat} (digits : unitOfHex? a b c d = some n) (cs : List Char) :
    scan ('\\' :: 'u' :: a :: b :: c :: d :: cs) = cons (.unit n) (scan cs) := by
  rw [scan, digits]

theorem decode_char {stopped : Option Fault} {us : List TextUnit} {text : List Char}
    (h : decode stopped us = .ok text) (c : Char) : decode stopped (.char c :: us) = .ok (c :: text) := by
  rw [decode, h]
  rfl

theorem decode_unit {stopped : Option Fault} {us : List TextUnit} {text : List Char}
    (h : decode stopped us = .ok text) {n : Nat} (plane : isLeading n = false ∧ isTrailing n = false) :
    decode stopped (.unit n :: us) = .ok (Char.ofNat n :: text) := by
  rw [decode.eq_def]
  simp only [plane, h, Bool.false_eq_true, if_false]
  rfl

theorem decode_pair {stopped : Option Fault} {us : List TextUnit} {text : List Char}
    (h : decode stopped us = .ok text) {n m : Nat} (leading : isLeading n = true)
    (trailing : isTrailing m = true) :
    decode stopped (.unit n :: .unit m :: us) =
      .ok (Char.ofNat (0x10000 + (n - 0xD800) * 0x400 + (m - 0xDC00)) :: text) := by
  have hn : isTrailing n = false := by
    simp only [isLeading, isTrailing, Bool.and_eq_true, Bool.and_eq_false_iff, decide_eq_true_eq,
      decide_eq_false_iff_not] at leading ⊢
    omega
  rw [decode.eq_def]
  simp only [hn, leading, trailing, h, Bool.false_eq_true, if_false, if_true]
  rfl

/-- **A text is read from every way to write it**, up to the closing quote. -/
theorem scan_escaped {cs text : List Char} (h : Escaped cs text) (rest : List Char) :
    ∃ units, scan (cs ++ '"' :: rest) = ⟨units, .ok rest⟩ ∧ decode none units = .ok text := by
  induction h with
  | nil => exact ⟨[], rfl, rfl⟩
  | plain printable quote backslash h ih =>
    obtain ⟨units, hscan, hdecode⟩ := ih
    exact ⟨_, by rw [List.cons_append, scan_plain printable quote backslash, hscan, cons],
      decode_char hdecode _⟩
  | short escape h ih =>
    obtain ⟨units, hscan, hdecode⟩ := ih
    exact ⟨_, by rw [List.cons_append, List.cons_append, scan_short escape, hscan, cons],
      decode_char hdecode _⟩
  | unit digits plane h ih =>
    obtain ⟨units, hscan, hdecode⟩ := ih
    exact ⟨_, by simp only [List.cons_append, scan_unit digits, hscan, cons], decode_unit hdecode plane⟩
  | pair digits digits' leading trailing h ih =>
    obtain ⟨units, hscan, hdecode⟩ := ih
    exact ⟨_, by simp only [List.cons_append, scan_unit digits, scan_unit digits', hscan, cons],
      decode_pair hdecode leading trailing⟩

/-! ## Writing -/

/-- A control character is written by its code. -/
theorem unitOfHex?_control {n : Nat} (h : n < 0x20) :
    unitOfHex? '0' '0' (Text.hexDigit (n / 16)) (Text.hexDigit (n % 16)) = some n :=
  (by decide : ∀ n < 0x20,
    unitOfHex? '0' '0' (Text.hexDigit (n / 16)) (Text.hexDigit (n % 16)) = some n) n h

theorem escaped_escape (c : Char) {cs text : List Char} (h : Escaped cs text) :
    Escaped (Text.escape c ++ cs) (c :: text) := by
  unfold Text.escape
  split_ifs with hquote hbackslash hback hform hline hreturn htab hcontrol
  case pos => subst hquote; exact .short (by decide) h
  case pos => subst hbackslash; exact .short (by decide) h
  case pos => subst hback; exact .short (by decide) h
  case pos => subst hform; exact .short (by decide) h
  case pos => subst hline; exact .short (by decide) h
  case pos => subst hreturn; exact .short (by decide) h
  case pos => subst htab; exact .short (by decide) h
  case pos =>
    have hplane : isLeading c.toNat = false ∧ isTrailing c.toNat = false := by
      simp only [isLeading, isTrailing, Bool.and_eq_false_iff, decide_eq_false_iff_not]
      omega
    have hunit := Escaped.unit (unitOfHex?_control hcontrol) hplane h
    rwa [Char.ofNat_toNat] at hunit
  case neg => exact .plain (by omega) hquote hbackslash h

/-- What stands between the quotes of a quoted text. -/
theorem escaped_flatMap_escape (text : List Char) : Escaped (text.flatMap Text.escape) text := by
  induction text with
  | nil => exact .nil
  | cons c text ih =>
    rw [List.flatMap_cons]
    exact escaped_escape c ih

end MessageSchema.Json
