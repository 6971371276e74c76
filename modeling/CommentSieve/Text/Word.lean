import CommentSieve.Text.Alphabetic
import CommentSieve.Text.Mark
import CommentSieve.Text.Number

/-!
# Word characters

Two notions of "part of a word" are used. Patterns count letters, marks, decimal
digits, connecting punctuation such as the underscore, and the two joiners, all as
of the edition of the standard before the newest. The look-back before a slash and
the names of groups ask only whether a character is a letter or a number, by the
newest edition.
-/

namespace CommentSieve.Text

/-- The ranges of general category `Pc`. -/
def connectorRanges : List (Nat × Nat) := [
  (0x5F, 0x5F), (0x203F, 0x2040), (0x2054, 0x2054), (0xFE33, 0xFE34), (0xFE4D, 0xFE4F),
  (0xFF3F, 0xFF3F)]

/-- The ranges of the property `Join_Control`. -/
def joinerRanges : List (Nat × Nat) := [
  (0x200C, 0x200D)]

/-- The alphabetic characters that came with the newest edition of the standard. -/
def recentRanges : List (Nat × Nat) := [
  (0x88F, 0x88F), (0xC5C, 0xC5C), (0xCDC, 0xCDC), (0xA7CE, 0xA7CF), (0xA7D2, 0xA7D2),
  (0xA7D4, 0xA7D4), (0xA7F1, 0xA7F1), (0x10940, 0x10959), (0x10EC5, 0x10EC7), (0x10EFA, 0x10EFB),
  (0x11B60, 0x11B67), (0x11DB0, 0x11DDB), (0x16EA0, 0x16EB8), (0x16EBB, 0x16ED3),
  (0x16FF2, 0x16FF6), (0x187F8, 0x187FF), (0x18D09, 0x18D1E), (0x18D80, 0x18DF2),
  (0x1E6C0, 0x1E6DE), (0x1E6E0, 0x1E6F5), (0x1E6FE, 0x1E6FF), (0x2B73A, 0x2B73F),
  (0x2CEA2, 0x2CEAD), (0x323B0, 0x33479)]

/-- Word characters of a pattern. -/
def isWord (c : Char) : Bool :=
  (isAlphabetic c && !inRanges c.toNat recentRanges) || isDecimal c || isMark c ||
    inRanges c.toNat connectorRanges || inRanges c.toNat joinerRanges

/-- Letters and numbers. -/
def isAlphanumeric (c : Char) : Bool := isAlphabetic c || isNumber c

end CommentSieve.Text
