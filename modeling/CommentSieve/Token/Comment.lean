import CommentSieve.Text.Search
import CommentSieve.Token.Reading

/-!
# Comments

A line comment runs up to the next line feed, which does not belong to it. Block
and HTML comments run through the first terminator after their opening; without
one they take the rest of the input. Comments do not nest.
-/

namespace CommentSieve.Comment

open Text

/-- The comments that have a terminator. -/
inductive Style
  | block
  | html
  deriving Repr, DecidableEq

namespace Style

/-- The characters that open a comment. -/
def opening : Style → List Char
  | block => ['/', '*']
  | html => ['<', '!', '-', '-']

/-- The characters that close a comment. -/
def terminator : Style → List Char
  | block => ['*', '/']
  | html => ['-', '-', '>']

/-- What such a comment is called. -/
def name : Style → String
  | block => "block comment"
  | html => "html comment"

/-- The finding for a comment without terminator. -/
def malformed : Style → Malformed
  | block => .blockComment
  | html => .htmlComment

end Style

/-- The characters that open a line comment. -/
def lineOpening : List Char := ['/', '/']

/-- Recognises a line comment. -/
def recogniseLine (cs : List Char) : Recognised :=
  match stripStart? lineOpening cs with
  | none => .error [⟨0, .opening⟩, ⟨0, .construct "line comment"⟩]
  | some body => .ok (lineOpening ++ body.takeWhile (· != '\n'), body.dropWhile (· != '\n'))

/-- Recognises a comment with its terminator. -/
def recognise (style : Style) (cs : List Char) : Recognised :=
  match stripStart? style.opening cs with
  | none => .error [⟨0, .opening⟩, ⟨0, .construct style.name⟩]
  | some body =>
    match splitAround? style.terminator body with
    | none =>
      .error [⟨byteLength style.opening, .terminator⟩, ⟨0, .construct style.name⟩]
    | some (inner, rest) => .ok (style.opening ++ inner ++ style.terminator, rest)

/-- Reads the line comment at the front of a text. -/
def readLine (cs : List Char) : Reading :=
  match recogniseLine cs with
  | .ok (text, rest) => { context := .comment, text, rest }
  | .error _ => { context := .comment, text := cs, rest := [] }

/-- Reads the block or HTML comment at the front of a text that starts at byte
`offset`. -/
def read (style : Style) (offset : Nat) (cs : List Char) : Reading :=
  match recognise style cs with
  | .ok (text, rest) => { context := .comment, text, rest }
  | .error _ =>
    { context := .comment, text := cs, rest := [], findings := [.malformed style.malformed offset] }

end CommentSieve.Comment
