/-!
# Ranges of characters as ranges of bytes

In UTF-8 the characters of a range do not have bytes that range independently of
each other, unless the range is cut first: where the number of bytes changes, and
where a continuation byte starts over. Each piece is then one range per byte.
-/

namespace CommentSieve.Text

/-- The bytes of a code point. -/
def utf8Bytes (code : Nat) : List Nat :=
  if code < 0x80 then [code]
  else if code < 0x800 then [0xC0 + code / 0x40, 0x80 + code % 0x40]
  else if code < 0x10000 then
    [0xE0 + code / 0x1000, 0x80 + code / 0x40 % 0x40, 0x80 + code % 0x40]
  else
    [0xF0 + code / 0x40000, 0x80 + code / 0x1000 % 0x40, 0x80 + code / 0x40 % 0x40,
      0x80 + code % 0x40]

/-- The last code point before a cut that makes a range start or end with a full
block, if the range spans several blocks of this size. -/
def blockCut? (size first last : Nat) : Option Nat :=
  if first / size = last / size then none
  else if first % size ≠ 0 then some ((first / size + 1) * size - 1)
  else if last % size ≠ size - 1 then some (last / size * size - 1)
  else none

/-- The last code point before the first cut that a range needs. -/
def rangeCut? (first last : Nat) : Option Nat :=
  match [0x7F, 0x7FF, 0xFFFF].find? fun limit => first ≤ limit ∧ limit < last with
  | some limit => some limit
  | none => if last < 0x80 then none else [0x40, 0x1000, 0x40000].findSome? (blockCut? · first last)

/-- Cuts a range until no piece needs a cut. No range needs more than thirty cuts one
inside the other. -/
def cutRange : (fuel : Nat) → (first last : Nat) → List (Nat × Nat)
  | 0, first, last => [(first, last)]
  | fuel + 1, first, last =>
    match rangeCut? first last with
    | some limit => cutRange fuel first limit ++ cutRange fuel (limit + 1) last
    | none => [(first, last)]

/-- The ranges of bytes of the characters from one code point through another. -/
def byteRanges (first last : Nat) : List (List (Nat × Nat)) :=
  (cutRange 30 first last).map fun (first, last) => (utf8Bytes first).zip (utf8Bytes last)

end CommentSieve.Text
