/-!
# Limits of the tokenizer

Every limit is a machine word: arithmetic that would leave the range stops at
the greatest word.
-/

namespace CommentSieve

/-- The greatest count a limit can express. -/
def maxWord : Nat := 18446744073709551615

/-- Limits and settings of the tokenizer. -/
structure Options where
  /-- Describe, for a malformed construct, how reading goes on after it. -/
  recover : Bool := true
  /-- At most this many tokens per byte of input, and sixteen more. -/
  iterationFactor : Nat := 4
  /-- At most this many literals open at once. -/
  maxDepth : Nat := 64
  /-- At most this many blanks are skipped to find what precedes a slash. -/
  maxLookback : Nat := 256
  /-- Bytes shown on either side of a problem. -/
  snippetRadius : Nat := 20
  deriving Repr, DecidableEq

namespace Options

/-- The number of tokens after which reading stops, for an input of `length` bytes. -/
def ceiling (o : Options) (length : Nat) : Nat :=
  min (min (o.iterationFactor * length) maxWord + 16) maxWord

end Options

end CommentSieve
