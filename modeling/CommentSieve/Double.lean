/-!
# Rounding to doubles

Some numbers are compared as doubles. Those that occur are natural numbers, for which a
double is a number of 53 binary digits followed by zeros.
-/

namespace CommentSieve.Double

/-- The double next to a number: its leading 53 binary digits, a half going to the even
neighbour. -/
def round (n : Nat) : Nat :=
  let unit := Nat.pow 2 (n.log2 + 1 - 53)
  let kept := n / unit
  let lost := n % unit
  if 2 * lost > unit ∨ (2 * lost = unit ∧ kept % 2 = 1) then (kept + 1) * unit else kept * unit

/-- The least number that is rounded to infinity: it lies half way between the greatest
double and the next power of two. -/
def infinite : Nat := Nat.pow 2 1024 - Nat.pow 2 970

end CommentSieve.Double
