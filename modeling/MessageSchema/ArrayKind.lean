/-
Array kinds, and the sizes that sources write in them. A size is a
sixty-four bit number in ASCII digits; leading zeros are allowed, digits of
other scripts and greater numbers are not.
-/

namespace MessageSchema

/-- Sizes and bounds are below two to the power sixty-four. -/
def sizeLimit : Nat := 18446744073709551616

/-- The number that a run of digits writes, if it is a size. -/
def readSize? (digits : String) : Option Nat :=
  let cs := digits.toList
  if cs ≠ [] ∧ cs.all Char.isDigit = true then
    let n := Nat.ofDigitChars 10 cs 0
    if n < sizeLimit then some n else none
  else none

/-- How many values a field holds. -/
inductive ArrayKind where
  | scalar
  /-- An array with a number of elements. -/
  | fixed (size : Nat)
  | unbounded
  /-- A sequence with at most a number of elements. -/
  | bounded (size : Nat)
deriving DecidableEq, Repr

namespace ArrayKind

/-- Whether the field holds more than one value. -/
def isArray : ArrayKind → Bool
  | scalar => false
  | _ => true

/-- The element count of a fixed array. -/
def size? : ArrayKind → Option Nat
  | fixed n => some n
  | _ => none

/-- The greatest element count of a bounded sequence. -/
def bound? : ArrayKind → Option Nat
  | bounded n => some n
  | _ => none

/-- The name of the kind. -/
def label : ArrayKind → String
  | scalar => "scalar"
  | fixed _ => "fixed"
  | unbounded => "unbounded"
  | bounded _ => "bounded"

/-- The marker that a source writes after the type. -/
def text : ArrayKind → String
  | scalar => ""
  | fixed n => "[" ++ n.repr ++ "]"
  | unbounded => "[]"
  | bounded n => "[<=" ++ n.repr ++ "]"

end ArrayKind

end MessageSchema
