import CommentSieve.Pattern.CharSet

/-!
# Patterns

A pattern describes runs of characters. Where several runs fit, patterns express
a preference: the left alternative before the right, more repetitions before
fewer unless the repetition is lazy.
-/

namespace CommentSieve

/-- What can be asked about the word characters around a place. -/
inductive WordEdge
  | boundary
  | interior
  | start
  | stop
  | startHalf
  | stopHalf
  deriving Repr, DecidableEq

/-- A condition on a place between characters. -/
inductive Look
  | textStart
  | textEnd
  | lineStart
  | lineEnd
  /-- Like `lineStart`, but a carriage return ends a line too, unless a line feed
  follows. -/
  | anyLineStart
  | anyLineEnd
  /-- `ascii` restricts word characters to ASCII. -/
  | word (edge : WordEdge) (ascii : Bool)
  deriving Repr, DecidableEq

/-- A description of runs of characters, in order of preference. -/
inductive Pattern
  | empty
  /-- The given characters, one after the other. -/
  | chars (cs : List Char)
  /-- One character of a set. -/
  | set (s : CharSet)
  /-- Nothing, at a place that satisfies a condition. -/
  | look (l : Look)
  /-- A run that is remembered. Groups are numbered by their opening parentheses. -/
  | group (index : Nat) (name : Option String) (p : Pattern)
  | seq (p q : Pattern)
  | alt (p q : Pattern)
  /-- At least `min` and at most `max` runs after one another. -/
  | rep (p : Pattern) (min : Nat) (max : Option Nat) (greedy : Bool)
  deriving Repr, DecidableEq

namespace WordEdge

/-- Whether an edge lies between a character that is, or is not, a word character
and another. -/
def holds : WordEdge → (before after : Bool) → Bool
  | boundary, b, a => b != a
  | interior, b, a => b == a
  | start, b, a => !b && a
  | stop, b, a => b && !a
  | startHalf, b, _ => !b
  | stopHalf, _, a => !a

end WordEdge

namespace Look

/-- Whether a condition holds between two characters, each absent at its end of the
text. -/
def holds (l : Look) (before after : Option Char) : Bool :=
  match l with
  | textStart => before.isNone
  | textEnd => after.isNone
  | lineStart => before.isNone || before == some '\n'
  | lineEnd => after.isNone || after == some '\n'
  | anyLineStart =>
    before.isNone || before == some '\n' || (before == some '\r' && after != some '\n')
  | anyLineEnd =>
    after.isNone || after == some '\r' || (after == some '\n' && before != some '\r')
  | word edge ascii =>
    let isWord := if ascii then CharSet.asciiWord.mem else CharSet.word.mem
    edge.holds (before.any isWord) (after.any isWord)

/-- Whether a condition holds whatever comes after a place. -/
def holdsEarly (l : Look) (before : Option Char) : Bool :=
  match l with
  | textStart => before.isNone
  | lineStart | anyLineStart => before.isNone || before == some '\n'
  | word .startHalf ascii =>
    !before.any (if ascii then CharSet.asciiWord.mem else CharSet.word.mem)
  | _ => false

end Look

namespace Pattern

/-- The pattern that matches nowhere. -/
def never : Pattern := set .none

/-- Patterns one after the other. -/
def seqs : List Pattern → Pattern
  | [] => empty
  | [p] => p
  | p :: more => seq p (seqs more)

/-- Alternatives, best first. -/
def alts : List Pattern → Pattern
  | [] => empty
  | [p] => p
  | p :: more => alt p (alts more)

/-- Whether a pattern can match the empty run. -/
def nullable : Pattern → Bool
  | empty => true
  | chars cs => cs.isEmpty
  | set _ => false
  | look _ => true
  | group _ _ p => p.nullable
  | seq p q => p.nullable && q.nullable
  | alt p q => p.nullable || q.nullable
  | rep p min _ _ => min == 0 || p.nullable

/-- Whether a pattern repeats nothing. -/
def loopFree : Pattern → Bool
  | empty | chars _ | set _ | look _ => true
  | group _ _ p => p.loopFree
  | seq p q => p.loopFree && q.loopFree
  | alt p q => p.loopFree && q.loopFree
  | rep p _ max _ => max.any (· ≤ 1) && p.loopFree

/-- Whether a loop can be entered before a character is read. -/
def opensWithLoop : Pattern → Bool
  | empty | chars _ | set _ | look _ => false
  | group _ _ p => p.opensWithLoop
  | seq p q => p.opensWithLoop || (p.nullable && q.opensWithLoop)
  | alt p q => p.opensWithLoop || q.opensWithLoop
  | rep p _ max _ => max.all (1 < ·) || p.opensWithLoop

/-- Whether every loop of a pattern reads one character after the other, or repeats
without bound something that is not empty and has no loop in it. -/
def hasPlainLoops : Pattern → Bool
  | empty | chars _ | set _ | look _ => true
  | group _ _ p => p.hasPlainLoops
  | seq p q => p.hasPlainLoops && q.hasPlainLoops
  | alt p q => p.hasPlainLoops && q.hasPlainLoops
  | rep (set _) _ _ _ => true
  | rep p _ none _ => p.loopFree && !p.nullable
  | rep p _ (some max) _ => max ≤ 1 && p.hasPlainLoops

/-- Whether a pattern remembers runs. -/
def hasGroups : Pattern → Bool
  | empty | chars _ | set _ | look _ => false
  | group .. => true
  | seq p q => p.hasGroups || q.hasGroups
  | alt p q => p.hasGroups || q.hasGroups
  | rep p _ _ _ => p.hasGroups

/-- The length of the shortest run, as far as the parts tell it: `none` if a part
matches nowhere. -/
def minLength : Pattern → Option Nat
  | empty => some 0
  | chars cs => some cs.length
  | set s => if s = .none then none else some 1
  | look _ => some 0
  | group _ _ p => p.minLength
  | seq p q => return (← p.minLength) + (← q.minLength)
  | alt p q => return Nat.min (← p.minLength) (← q.minLength)
  | rep p min _ _ => return (← p.minLength) * min

/-- The length of the longest run: `none` if there is no bound or a part matches
nowhere. -/
def maxLength : Pattern → Option Nat
  | empty => some 0
  | chars cs => some cs.length
  | set s => if s = .none then none else some 1
  | look _ => some 0
  | group _ _ p => p.maxLength
  | seq p q => return (← p.maxLength) + (← q.maxLength)
  | alt p q => return Nat.max (← p.maxLength) (← q.maxLength)
  | rep p _ max _ => return (← p.maxLength) * (← max)

end Pattern

end CommentSieve
