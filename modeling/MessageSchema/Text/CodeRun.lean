/-
Evenly spaced runs of code points. The character properties and case maps
of this library are data of the Unicode standard (version 17), and most of
it comes in such runs: a block of capitals is a run of step one, an
alphabet that alternates capitals and small letters a run of step two.
-/

namespace MessageSchema.Text

/-- The code points `first`, `first + step`, … up to `last`. -/
structure CodeRun where
  first : Nat
  last : Nat
  step : Nat

/-- Whether a code point lies in the run. -/
def CodeRun.holds (r : CodeRun) (n : Nat) : Bool :=
  decide (r.first ≤ n) && decide (n ≤ r.last) && (n - r.first) % r.step == 0

/-- A run whose members are sent, in order and spacing, to the run that
starts at `image`. -/
structure CodeShift extends CodeRun where
  image : Nat

/-- The image of a code point, if it lies in the run. -/
def CodeShift.imageOf? (s : CodeShift) (n : Nat) : Option Nat :=
  if s.holds n then some (s.image + (n - s.first)) else none

end MessageSchema.Text
