import CommentSieve.Token.Basic

/-!
# Coverage

Tokens cover a text when the first starts at its beginning, each starts where the
one before it stops, and the last stops at its end.
-/

namespace CommentSieve.Coverage

/-- A way in which tokens fail to cover a text of some length. -/
inductive Violation
  | startsLate (start : Nat)
  | nothing
  | gap (stop start : Nat)
  | overlap (start stop : Nat)
  | stopsEarly (stop length : Nat)
  deriving Repr, DecidableEq

/-- The words for a violation. -/
def Violation.message : Violation → String
  | startsLate start => "First token starts at " ++ toString start ++ " instead of 0"
  | nothing => "No tokens for non-empty input"
  | gap stop start => "Gap between " ++ toString stop ++ " and " ++ toString start
  | overlap start stop => "Overlap between " ++ toString start ++ " and " ++ toString stop
  | stopsEarly stop length =>
    "Last token ends at " ++ toString stop ++ " but input length is " ++ toString length

/-- Violations between neighbours. -/
def betweenTokens : List Token → List Violation
  | s :: t :: more =>
    let here :=
      if s.stop < t.start then [.gap s.stop t.start]
      else if t.start < s.stop then [.overlap t.start s.stop]
      else []
    here ++ betweenTokens (t :: more)
  | _ => []

/-- Violations at the beginning. -/
def atStart (tokens : List Token) (length : Nat) : List Violation :=
  match tokens with
  | t :: _ => if t.start = 0 then [] else [.startsLate t.start]
  | [] => if length = 0 then [] else [.nothing]

/-- Violations at the end. -/
def atEnd (tokens : List Token) (length : Nat) : List Violation :=
  match tokens.getLast? with
  | some t => if t.stop = length then [] else [.stopsEarly t.stop length]
  | none => []

/-- All ways in which tokens fail to cover a text of `length` bytes. -/
def violations (tokens : List Token) (length : Nat) : List Violation :=
  atStart tokens length ++ betweenTokens tokens ++ atEnd tokens length

/-- Whether tokens follow each other from `start` to `stop`. -/
def covers : (start stop : Nat) → List Token → Bool
  | start, stop, [] => start == stop
  | start, stop, t :: more => t.start == start && covers t.stop stop more

end CommentSieve.Coverage
