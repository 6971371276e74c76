import CommentSieve.Text.Blank
import CommentSieve.Text.CaseFold
import CommentSieve.Text.Intervals
import CommentSieve.Text.Word

/-!
# Sets of characters

The sets a pattern can ask a character to be in, as expressions: ranges, the
Unicode classes, sets that are listed, Boolean combinations, and closure under case.
-/

namespace CommentSieve

/-- An expression for a set of characters. -/
inductive CharSet
  | none
  /-- From the first through the last character. -/
  | range (first last : Char)
  /-- Everything that agrees with a character up to case. -/
  | alike (c : Char)
  | digit
  | blank
  | word
  /-- The members of a list of intervals. -/
  | listed (s : Text.Intervals)
  | union (a b : CharSet)
  | inter (a b : CharSet)
  | diff (a b : CharSet)
  | symmDiff (a b : CharSet)
  | compl (a : CharSet)
  /-- Everything that agrees with a member up to case. -/
  | folded (a : CharSet)
  /-- Everything that agrees with a member up to the case of ASCII letters. -/
  | foldedAscii (a : CharSet)
  deriving Repr, DecidableEq

namespace CharSet

open Text

/-- Membership. -/
def mem : CharSet → Char → Bool
  | none, _ => false
  | range first last, c => first ≤ c && c ≤ last
  | alike d, c => Text.sameFold d c
  | digit, c => Text.isDecimal c
  | blank, c => Text.isBlank c
  | word, c => Text.isWord c
  | listed s, c => Text.inRanges (ordinal c.toNat) s
  | union a b, c => a.mem c || b.mem c
  | inter a b, c => a.mem c && b.mem c
  | diff a b, c => a.mem c && !b.mem c
  | symmDiff a b, c => a.mem c != b.mem c
  | compl a, c => !a.mem c
  | folded a, c => (Text.caseVariants c).any a.mem
  | foldedAscii a, c => (Text.asciiVariants c).any a.mem

/-- The set of one character. -/
def single (c : Char) : CharSet := range c c

/-- The union of many sets. -/
def unions : List CharSet → CharSet
  | [] => none
  | [a] => a
  | a :: more => union a (unions more)

/-- All ASCII characters. -/
def asciiChars : List Char := (List.range 0x80).map Char.ofNat

/-- ASCII digits. -/
def asciiDigit : CharSet := range '0' '9'

/-- ASCII letters. -/
def asciiAlpha : CharSet := union (range 'A' 'Z') (range 'a' 'z')

/-- ASCII blanks, the vertical tab included. -/
def asciiBlank : CharSet := unions [range '\t' '\x0d', single ' ']

/-- ASCII letters and digits and the underscore. -/
def asciiWord : CharSet := unions [asciiDigit, asciiAlpha, single '_']

/-- The classes that are called by name inside brackets, all of them ASCII. -/
def ofName? : String → Option CharSet
  | "alnum" => some (union asciiDigit asciiAlpha)
  | "alpha" => some asciiAlpha
  | "ascii" => some (range '\x00' '\x7f')
  | "blank" => some (union (single '\t') (single ' '))
  | "cntrl" => some (union (range '\x00' '\x1f') (single '\x7f'))
  | "digit" => some asciiDigit
  | "graph" => some (range '!' '~')
  | "lower" => some (range 'a' 'z')
  | "print" => some (range ' ' '~')
  | "punct" => some (unions [range '!' '/', range ':' '@', range '[' '`', range '{' '~'])
  | "space" => some asciiBlank
  | "upper" => some (range 'A' 'Z')
  | "word" => some asciiWord
  | "xdigit" => some (unions [asciiDigit, range 'A' 'F', range 'a' 'f'])
  | _ => Option.none

/-! ## Extension

Two expressions can stand for the same set. Its list of intervals decides that, and
how many members it has. -/

/-- The word characters of a pattern. -/
def wordIntervals : Intervals :=
  [decimalRanges, markRanges, connectorRanges, joinerRanges].foldl
    (fun s ranges => s.union (.ofRanges ranges))
    (Intervals.diff (.ofRanges alphabeticRanges) (.ofRanges recentRanges))

/-- The members, as intervals. -/
def intervals : CharSet → Intervals
  | none => []
  | range first last =>
    if first ≤ last then [(ordinal first.toNat, ordinal last.toNat)] else []
  | alike c => .ofChars (caseVariants c)
  | digit => .ofRanges decimalRanges
  | blank => .ofRanges blankRanges
  | word => wordIntervals
  | listed s => s
  | union a b => a.intervals.union b.intervals
  | inter a b => a.intervals.inter b.intervals
  | diff a b => a.intervals.diff b.intervals
  | symmDiff a b => a.intervals.symmDiff b.intervals
  | compl a => a.intervals.compl
  | folded a =>
    (Intervals.ofChars ((casedChars.filter a.mem).flatMap caseVariants)).union a.intervals
  | foldedAscii a =>
    (Intervals.ofChars ((asciiChars.filter a.mem).flatMap asciiVariants)).union a.intervals

/-- What is known of a set with few members. -/
inductive Few
  | none
  | one (c : Char)
  | many
  deriving Repr, DecidableEq

/-- The members of a union. -/
def Few.union : Few → Few → Few
  | none, b => b
  | a, none => a
  | one c, one d => if c = d then one c else many
  | _, _ => many

/-- Adds what agrees with a member. -/
def Few.close (variants : Char → List Char) : Few → Few
  | one c => if (variants c).all (· == c) then one c else many
  | a => a

/-- The only member of a set that has one. Two ASCII members settle most cases
before the intervals are needed. -/
def few : CharSet → Few
  | none => .none
  | range first last => if first = last then .one first else if first < last then .many else .none
  | alike c => (Few.one c).close caseVariants
  | digit | blank | word => .many
  | union a b => a.few.union b.few
  | folded a => a.few.close caseVariants
  | foldedAscii a => a.few.close asciiVariants
  | s =>
    if 2 ≤ (asciiChars.filter s.mem).length then .many
    else match s.intervals with
      | [] => .none
      | [(first, last)] => if first = last then .one (Char.ofNat (codeOf first)) else .many
      | _ => .many

/-- Whether two expressions stand for the same set. -/
def same (a b : CharSet) : Bool :=
  a == b || (asciiChars.all (fun c => a.mem c == b.mem c) && a.intervals == b.intervals)

end CharSet

end CommentSieve
