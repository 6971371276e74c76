import CommentSieve.Fallback.Dialect
import CommentSieve.Pattern.Search
import CommentSieve.Rule.Engine
import CommentSieve.Text.Search

/-!
# Stripping by pattern

Every comment that the pattern of a dialect finds is kept or dropped as the engine
says; everything else is copied. In the hash dialect an interpreter line at the very
start of a text is kept too.
-/

namespace CommentSieve.Fallback

open Pattern (Segment Found)

/-- A stripped text, with the number of comments dropped and kept. -/
structure Stripped where
  content : List Char := []
  removed : Nat := 0
  preserved : Nat := 0
  deriving Repr, DecidableEq

/-- Whether a comment that starts at an index is an interpreter line. -/
def isInterpreterLine (d : Dialect) (index : Nat) (comment : List Char) : Bool :=
  d == .hash && index == 0 && Text.startsWith ['#', '!'] comment

namespace Stripped

/-- Copies characters; the content is collected backwards. -/
def copy (s : Stripped) (text : List Char) : Stripped :=
  { s with content := text.reverse ++ s.content }

/-- Copies or drops one piece of the text. -/
def step (d : Dialect) (e : Engine) (s : Stripped) : Segment → Stripped
  | .plain text => s.copy text
  | .run found text =>
    if (found.groups.lookup "comment").isNone then s.copy text
    else if isInterpreterLine d found.start text || e.keeps text then
      { s.copy text with preserved := s.preserved + 1 }
    else { s with removed := s.removed + 1 }

end Stripped

/-- Strips a text. -/
def strip (d : Dialect) (e : Engine) (content : List Char) : Stripped :=
  let s := (d.pattern.segments content).foldl (Stripped.step d e) {}
  { s with content := s.content.reverse }

end CommentSieve.Fallback
