/-!
# Tables of code points

Character properties are given as data: a sorted list of inclusive ranges for a
set of characters, a sorted list of shifts for a map between characters. Both
are walked from the front and given up as soon as the code point is passed, so
an ASCII character costs a step or two.
-/

namespace CommentSieve.Text

/-! ## Sets -/

/-- Whether `n` lies in one of the inclusive ranges, which ascend. -/
def inRanges (n : Nat) : List (Nat × Nat) → Bool
  | [] => false
  | (first, last) :: more =>
    if n < first then false else if n ≤ last then true else inRanges n more

/-! ## Maps -/

/-- The code points `first`, `first + step`, … up to `last`, all moved by the
same distance, which takes `first` to `image`. -/
structure Shift where
  first : Nat
  last : Nat
  step : Nat
  image : Nat
  deriving Repr, DecidableEq

/-- The image of a code point the shift moves. -/
def Shift.apply? (s : Shift) (n : Nat) : Option Nat :=
  if s.first ≤ n ∧ n ≤ s.last ∧ (n - s.first) % s.step = 0 then
    some (n + s.image - s.first)
  else none

/-- The code point a shift moves to `n`, if there is one. -/
def Shift.source? (s : Shift) (n : Nat) : Option Nat :=
  if s.image ≤ n ∧ n - s.image ≤ s.last - s.first ∧ (n - s.image) % s.step = 0 then
    some (n + s.first - s.image)
  else none

/-- The image of `n` under the first shift that moves it; the shifts ascend by
their first code point. -/
def shifted? (n : Nat) : List Shift → Option Nat
  | [] => none
  | s :: more =>
    if n < s.first then none
    else match s.apply? n with
      | some m => some m
      | none => shifted? n more

end CommentSieve.Text
