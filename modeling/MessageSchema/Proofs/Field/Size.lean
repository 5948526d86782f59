/-
Sizes as they are read and written. A text writes a size when it is a numeral
in ASCII digits of a number below the limit, leading zeros aside, and these
are the texts that are read as one (`readSize?_eq_some_iff`). The array kinds
that a marker stands for follow from that; each is given again by the marker
it is written with.
-/
import MessageSchema.Proofs.Text.Ascii
import MessageSchema.Proofs.Text.Blank
import MessageSchema.Schema.Builder
import Mathlib.Data.Nat.Digits.Defs

namespace MessageSchema

open Text

/-! ## Numerals -/

theorem isDecimalDigit_of_isDigit {c : Char} (h : c.isDigit = true) : isDecimalDigit c = true :=
  (isDecimalDigit_ascii (isAlphanum_of_isDigit h)).trans h

theorem digits_repr (n : Nat) : Digits n.repr.toList := by
  intro c hc
  rw [Nat.toList_repr] at hc
  exact isDecimalDigit_of_isDigit (Nat.isDigit_of_mem_toDigits (by decide) (by decide) hc)

theorem repr_ne_empty (n : Nat) : n.repr ≠ "" := by
  intro h
  have hnil : n.repr.toList = [] := by rw [h]; rfl
  rw [Nat.toList_repr] at hnil
  exact Nat.toDigits_ne_nil hnil

/-- The number that ASCII digits write: the last counts ones, the one before
it tens, and so on. -/
def decimalValue (cs : List Char) : Nat :=
  Nat.ofDigits 10 (cs.reverse.map fun c => c.toNat - '0'.toNat)

theorem ofDigitChars_eq_decimalValue (cs : List Char) : Nat.ofDigitChars 10 cs 0 = decimalValue cs := by
  induction cs using List.reverseRecOn with
  | nil => rfl
  | append_singleton cs c ih =>
    rw [Nat.ofDigitChars_append, ih, Nat.ofDigitChars_cons, Nat.ofDigitChars_nil, decimalValue, decimalValue,
      List.reverse_append, List.reverse_singleton, List.singleton_append, List.map_cons, Nat.ofDigits_cons,
      Nat.add_comm]

/-! ## Sizes -/

/-- The text is a numeral of the size: ASCII digits, at least one, for a number
below the limit. -/
structure WritesSize (digits : String) (n : Nat) : Prop where
  nonempty : digits ≠ ""
  ascii : ∀ c ∈ digits.toList, c.isDigit = true
  value : decimalValue digits.toList = n
  limit : n < sizeLimit

/-- **The numerals of sizes are what is read as a size.** -/
theorem readSize?_eq_some_iff {digits : String} {n : Nat} :
    readSize? digits = some n ↔ WritesSize digits n := by
  have hempty : digits.toList ≠ [] ↔ digits ≠ "" := not_congr String.toList_eq_nil_iff
  simp only [readSize?, ofDigitChars_eq_decimalValue, hempty, List.all_eq_true]
  constructor
  · intro h
    split at h
    · next hdigits =>
      split at h
      · next hlimit =>
        cases h
        exact ⟨hdigits.1, hdigits.2, rfl, hlimit⟩
      · cases h
    · cases h
  · intro h
    obtain ⟨hne, hascii, rfl, hlimit⟩ := h
    rw [if_pos ⟨hne, hascii⟩, if_pos hlimit]

theorem readSize?_eq_none_iff {digits : String} : readSize? digits = none ↔ ¬ ∃ n, WritesSize digits n := by
  simp only [← readSize?_eq_some_iff, Option.eq_none_iff_forall_ne_some, not_exists, ne_eq]

theorem writesSize_repr {n : Nat} (h : n < sizeLimit) : WritesSize n.repr n where
  nonempty := repr_ne_empty n
  ascii c hc := by
    rw [Nat.toList_repr] at hc
    exact Nat.isDigit_of_mem_toDigits (by decide) (by decide) hc
  value := by rw [Nat.toList_repr, ← ofDigitChars_eq_decimalValue, Nat.ofDigitChars_ten_toDigits]
  limit := h

theorem readSize_eq_ok_iff {line n : Nat} {digits : String} :
    readSize line digits = .ok n ↔ WritesSize digits n := by
  rw [← readSize?_eq_some_iff, readSize]
  cases readSize? digits <;> simp

theorem map_readSize_eq_ok_iff {α : Type} {k : Nat → α} {line : Nat} {digits : String} {a : α} :
    (readSize line digits).map k = .ok a ↔ ∃ n, WritesSize digits n ∧ k n = a := by
  have hread (n : Nat) : WritesSize digits n ↔ readSize line digits = .ok n := readSize_eq_ok_iff.symm
  simp only [hread]
  cases readSize line digits <;> simp [Except.map]

/-! ## Markers -/

namespace ArrayKind

/-- The marker with which the kind is written. -/
def marker : ArrayKind → Option ArrayMarker
  | scalar => none
  | fixed n => some ⟨false, n.repr⟩
  | unbounded => some ⟨false, ""⟩
  | bounded n => some ⟨true, n.repr⟩

/-- The size in the kind is one that can be read. -/
def Sized : ArrayKind → Prop
  | fixed n => n < sizeLimit
  | bounded n => n < sizeLimit
  | _ => True

/-- The kinds that markers stand for. -/
inductive Marked : Option ArrayMarker → ArrayKind → Prop where
  | scalar : Marked none scalar
  | unbounded : Marked (some ⟨false, ""⟩) unbounded
  | fixed {digits : String} {n : Nat} (size : WritesSize digits n) : Marked (some ⟨false, digits⟩) (fixed n)
  | bounded {digits : String} {n : Nat} (size : WritesSize digits n) :
      Marked (some ⟨true, digits⟩) (bounded n)

theorem digits_marker (a : ArrayKind) : ∀ m, a.marker = some m → Digits m.size.toList := by
  intro m h
  cases a with
  | scalar => cases h
  | unbounded =>
    cases h
    exact List.forall_mem_nil _
  | fixed n =>
    cases h
    exact digits_repr n
  | bounded n =>
    cases h
    exact digits_repr n

theorem ofMarker_eq_ok_iff {line : Nat} {marker : Option ArrayMarker} {a : ArrayKind} :
    ofMarker line marker = .ok a ↔ Marked marker a := by
  constructor
  · intro h
    cases marker with
    | none =>
      cases h
      exact .scalar
    | some m =>
      obtain ⟨isBounded, size⟩ := m
      cases isBounded with
      | true =>
        obtain ⟨n, hn, rfl⟩ := map_readSize_eq_ok_iff.1 h
        exact .bounded hn
      | false =>
        simp only [ofMarker, Bool.false_eq_true, if_false] at h
        split at h
        · next hsize =>
          cases h
          rw [hsize]
          exact .unbounded
        · obtain ⟨n, hn, rfl⟩ := map_readSize_eq_ok_iff.1 h
          exact .fixed hn
  · intro h
    cases h with
    | scalar => rfl
    | unbounded => rfl
    | fixed size =>
      simp only [ofMarker, Bool.false_eq_true, if_false, if_neg size.nonempty]
      exact map_readSize_eq_ok_iff.2 ⟨_, size, rfl⟩
    | bounded size => exact map_readSize_eq_ok_iff.2 ⟨_, size, rfl⟩

theorem Marked.sized {marker : Option ArrayMarker} {a : ArrayKind} (h : Marked marker a) : a.Sized := by
  cases h with
  | scalar => trivial
  | unbounded => trivial
  | fixed size => exact size.limit
  | bounded size => exact size.limit

/-- The marker of a kind stands for that kind. -/
theorem marked_marker {a : ArrayKind} (h : a.Sized) : Marked a.marker a := by
  cases a with
  | scalar => exact .scalar
  | unbounded => exact .unbounded
  | fixed n => exact .fixed (writesSize_repr h)
  | bounded n => exact .bounded (writesSize_repr h)

end ArrayKind

/-! ## Bounds -/

/-- The bounds that may stand after a type: a numeral of a size, on a type with
the name of a text. -/
theorem Builder.stringBound_eq_ok_iff {line : Nat} {text : String} {decl : FieldDecl} {bound : Option Nat} :
    stringBound line text decl = .ok bound ↔
      Option.Rel WritesSize decl.stringBound bound ∧
        (decl.stringBound ≠ none → isTextualName decl.type.name = true) := by
  unfold stringBound
  cases decl.stringBound with
  | none =>
    constructor
    · intro h
      cases h
      exact ⟨.none, fun hne => absurd rfl hne⟩
    · intro h
      obtain ⟨⟨⟩, -⟩ := h
      rfl
  | some digits =>
    by_cases htextual : isTextualName decl.type.name = true
    · simp only [if_pos htextual, map_readSize_eq_ok_iff]
      constructor
      · intro h
        obtain ⟨n, size, rfl⟩ := h
        exact ⟨.some size, fun _ => htextual⟩
      · intro h
        obtain ⟨⟨size⟩, -⟩ := h
        exact ⟨_, size, rfl⟩
    · simp only [if_neg htextual, reduceCtorEq, false_iff]
      exact fun h => htextual (h.2 (Option.some_ne_none digits))

end MessageSchema
