/-!
# Sets of characters as intervals

A set of characters is listed by intervals of *ordinals*: characters are numbered
without the gap that the surrogates leave, so that two intervals touch exactly if no
character lies between them. The intervals ascend and no two of them touch, so that
equal sets have equal lists.
-/

namespace CommentSieve.Text

/-- The number of characters before the one with a code point. -/
def ordinal (code : Nat) : Nat := if code < 0xE000 then code else code - 0x800

/-- The code point of the character with an ordinal. -/
def codeOf (ordinal : Nat) : Nat := if ordinal < 0xD800 then ordinal else ordinal + 0x800

/-- The ordinal of the last character. -/
def lastOrdinal : Nat := 0x10F7FF

/-- Ascending intervals of ordinals that do not touch. -/
abbrev Intervals := List (Nat × Nat)

namespace Intervals

/-- Adds an interval. -/
def insert (first last : Nat) : Intervals → Intervals
  | [] => [(first, last)]
  | (low, high) :: more =>
    if last + 1 < low then (first, last) :: (low, high) :: more
    else if high + 1 < first then (low, high) :: insert first last more
    else insert (Nat.min first low) (Nat.max last high) more

/-- The set of the code points in a list of ranges. -/
def ofRanges (ranges : List (Nat × Nat)) : Intervals :=
  ranges.foldr (fun r => insert (ordinal r.1) (ordinal r.2)) []

/-- The set of the characters in a list. -/
def ofChars (cs : List Char) : Intervals := ofRanges (cs.map fun c => (c.toNat, c.toNat))

/-- Union. -/
def union (a b : Intervals) : Intervals := a.foldr (fun r => insert r.1 r.2) b

/-- The union of many sets. -/
def unions (sets : List Intervals) : Intervals := sets.foldl union []

/-- All characters from an ordinal on that are not in a set. -/
def complFrom (first : Nat) : Intervals → Intervals
  | [] => if first ≤ lastOrdinal then [(first, lastOrdinal)] else []
  | (low, high) :: more =>
    if first < low then (first, low - 1) :: complFrom (high + 1) more
    else complFrom (high + 1) more

/-- Complement. -/
def compl (a : Intervals) : Intervals := complFrom 0 a

/-- Intersection. -/
def inter (a b : Intervals) : Intervals := compl (union (compl a) (compl b))

/-- Difference. -/
def diff (a b : Intervals) : Intervals := inter a (compl b)

/-- Symmetric difference. -/
def symmDiff (a b : Intervals) : Intervals := union (diff a b) (diff b a)

/-- The set as ranges of code points, none of which contains surrogates. -/
def toRanges (a : Intervals) : List (Nat × Nat) :=
  a.flatMap fun (first, last) =>
    if first < 0xD800 ∧ 0xD800 ≤ last then [(first, 0xD7FF), (0xE000, codeOf last)]
    else [(codeOf first, codeOf last)]

/-- Whether the set has ASCII characters only. -/
def isAscii (a : Intervals) : Bool := a.all fun r => r.2 < 0x80

end Intervals

end CommentSieve.Text
