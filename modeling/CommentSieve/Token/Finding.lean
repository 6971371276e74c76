import CommentSieve.Diagnostic.Basic

/-!
# Findings

What the tokenizer notices while reading. Findings are causes with byte offsets;
`Tokenizer.note` turns them into entries of the log. Keeping them apart shows
that no reading depends on how, or whether, problems are described.
-/

namespace CommentSieve

/-- A construct that the input leaves unfinished. -/
inductive Malformed
  /-- A string broken off by a line end, or by the input end where no literal
  may be opened. -/
  | string
  | stringAtEnd
  | templateAtEnd
  | regex
  | blockComment
  | htmlComment
  deriving Repr, DecidableEq

namespace Malformed

/-- The category under which an unfinished construct is reported. -/
def category : Malformed → Diagnostic.Category
  | string | stringAtEnd => .stringHandling
  | templateAtEnd => .templateLiteral
  | regex => .regex
  | blockComment | htmlComment => .commentDetection

/-- The words for an unfinished construct. -/
def message : Malformed → String
  | string => "Unterminated string literal"
  | stringAtEnd => "Unterminated string literal at end of input"
  | templateAtEnd => "Unterminated template literal at end of input"
  | regex => "Unterminated regular expression literal"
  | blockComment => "Unterminated block comment"
  | htmlComment => "Unterminated HTML comment"

end Malformed

/-- Something noticed while reading. -/
inductive Finding
  /-- A literal at `offset` was not opened, because `limit` are open. -/
  | depthExceeded (limit offset : Nat)
  /-- A string inside an interpolation met a line end at `offset`. -/
  | brokenNested (offset : Nat)
  /-- The input ended with `count` literals open. -/
  | unwound (count : Nat)
  /-- The construct that starts at `offset` is not finished. -/
  | malformed (what : Malformed) (offset : Nat)
  /-- Reading stopped at `offset`, after `limit` tokens. -/
  | ceilingReached (limit offset : Nat)
  /-- Nothing was read at `offset`, and one character was taken instead. -/
  | stalled (offset : Nat)
  /-- The token from `start` to `stop` does not end between two characters of the
  text. -/
  | offBoundary (start stop : Nat)
  deriving Repr, DecidableEq

end CommentSieve
