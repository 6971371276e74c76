import CommentSieve.Token.Basic
import CommentSieve.Token.Finding

/-!
# Readings and recognisers

A *reading* is one token taken off the front of the remaining input: it never
fails, and what is odd about it is among its findings. A *recogniser* accepts a
well-formed construct at the front of a text, or says what it expected where.
-/

namespace CommentSieve

/-- One token read off the front of a text. -/
structure Reading where
  context : Context
  /-- The characters of the token. -/
  text : List Char
  /-- The characters after it. -/
  rest : List Char
  /-- In the order in which they were made. -/
  findings : List Finding := []
  deriving Repr, DecidableEq

/-- What a recogniser looked for. -/
inductive Expectation
  /-- The characters that open the construct. -/
  | opening
  /-- The characters that close it. -/
  | terminator
  | character (c : Char)
  | anyCharacter
  /-- One of several forms. -/
  | alternative
  /-- The construct as a whole. -/
  | construct (name : String)
  deriving Repr, DecidableEq

/-- An expectation that was not met, with the number of bytes read before it. -/
structure Complaint where
  offset : Nat
  expected : Expectation
  deriving Repr, DecidableEq

/-- The construct at the front of a text and the text after it, or what was
missing, the innermost expectation first. -/
abbrev Recognised := Except (List Complaint) (List Char × List Char)

end CommentSieve
