import CommentSieve.Fallback.Dialect
import CommentSieve.Pattern.Search
import CommentSieve.Token.Comment

/-!
# The patterns of the dialects

The pattern of a dialect is written as a text. Here is what that text means, put together
from four shapes: text in quotes, text in back-ticks, a comment that runs through a
terminator, and one that runs to the end of the line. Everything that is proved about the
patterns is proved about these shapes.

Main results:

* `Dialect.pattern_eq` — the pattern that is read from the text is made of these shapes.
* `Dialect.searcher_pattern` — the patterns are looked for from place to place.
* `Dialect.nullable_pattern` — they find no empty runs.
-/

namespace CommentSieve.Dialect

open Pattern

/-- Every character. -/
def anything : CharSet := .union .blank (.compl .blank)

/-- A backslash and the character that it hides. -/
def escaped : Pattern := .seq (.chars ['\\']) (.set anything)

/-- Text between two signs: characters other than the `stops`, and escapes. -/
def enclosed (sign : Char) (stops : CharSet) : Pattern :=
  .seq (.chars [sign])
    (.seq (.rep (.alt (.set (.compl stops)) escaped) 0 none true) (.chars [sign]))

/-- What ends a quoted text or cannot stand in it as it is. -/
def quotedStops (quote : Char) : CharSet :=
  .union (.single quote) (.union (.single '\\') (.single '\n'))

/-- The same for back-ticks, where lines may end. -/
def tickedStops : CharSet := .union (.single '`') (.single '\\')

/-- From an opening through the nearest terminator. -/
def through (opening terminator : List Char) : Pattern :=
  .seq (.chars opening) (.seq (.rep (.set anything) 0 none false) (.chars terminator))

/-- From an opening to the end of the line. -/
def toLineEnd (opening : List Char) : Pattern :=
  .seq (.chars opening) (.rep (.set (.compl (.single '\n'))) 0 none true)

/-- The texts that a dialect leaves alone. -/
def enclosedPattern : Dialect → Pattern
  | cStyle | markup =>
    .alt (enclosed '"' (quotedStops '"'))
      (.alt (enclosed '\'' (quotedStops '\'')) (enclosed '`' tickedStops))
  | hash => .alt (enclosed '"' (quotedStops '"')) (enclosed '\'' (quotedStops '\''))

/-- A comment of a style with a terminator. -/
def delimited (style : Comment.Style) : Pattern := through style.opening style.terminator

/-- The comments of a dialect. -/
def commentPattern : Dialect → Pattern
  | cStyle => .alt (delimited .block) (toLineEnd Comment.lineOpening)
  | markup => .alt (delimited .html) (.alt (delimited .block) (toLineEnd Comment.lineOpening))
  | hash => toLineEnd ['#']

/-- The pattern of a dialect is made of these shapes. -/
theorem pattern_eq (d : Dialect) :
    d.pattern =
      .alt (.group 1 (some "string") d.enclosedPattern)
        (.group 2 (some "comment") d.commentPattern) := by
  cases d <;> decide +kernel

theorem nullable_pattern (d : Dialect) : d.pattern.nullable = false := by
  rw [pattern_eq]
  cases d <;> rfl

/-- The patterns are looked for from place to place. -/
theorem searcher_pattern (d : Dialect) : d.pattern.searcher = .direct d.pattern := by
  have hDirect : (d.pattern.hasPlainLoops && !d.pattern.opensWithLoop) = true := by
    rw [pattern_eq]
    cases d <;> rfl
  rw [searcher, if_pos hDirect]

end CommentSieve.Dialect
