import CommentSieve.Text.Ranges

/-!
# Blank characters

The characters with the Unicode property `White_Space`: the five ASCII blanks
and the vertical tab, the next-line control, and the space separators. The
zero-width space and the byte order mark are not among them.
-/

namespace CommentSieve.Text

/-- The ranges of the property `White_Space`. -/
def blankRanges : List (Nat × Nat) := [
  (0x9, 0xD), (0x20, 0x20), (0x85, 0x85), (0xA0, 0xA0), (0x1680, 0x1680), (0x2000, 0x200A),
  (0x2028, 0x2029), (0x202F, 0x202F), (0x205F, 0x205F), (0x3000, 0x3000)]

/-- Spaces, tabs and line ends of any script. -/
def isBlank (c : Char) : Bool := inRanges c.toNat blankRanges

end CommentSieve.Text
