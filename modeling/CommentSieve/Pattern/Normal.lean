import CommentSieve.Pattern.Basic

/-!
# Patterns in normal form

Patterns are put together so that nothing superfluous is left in them: sequences and
alternatives are flat, neighbouring characters form one run, alternatives that are
all characters form a set, and what all alternatives start with is said once, before
them.

Saying it once can change which run is preferred: `.*?a|.*?b` becomes `.*?(?:a|b)`,
whose first choice is the nearer of the two letters.
-/

namespace CommentSieve.Pattern

/-- One character of a set. A set with one member is that character. -/
def ofSet (s : CharSet) : Pattern :=
  match s.few with
  | .none => never
  | .one c => chars [c]
  | .many => set s

/-! ## Sequences -/

/-- The parts of a sequence. -/
def elements : Pattern → List Pattern
  | empty => []
  | seq p q => p :: q.elements
  | p => [p]

/-- Joins neighbouring runs of characters. -/
def joinChars : List Pattern → List Pattern
  | [] => []
  | chars cs :: more =>
    match joinChars more with
    | chars ds :: more => chars (cs ++ ds) :: more
    | more => chars cs :: more
  | p :: more => p :: joinChars more

/-- Patterns one after the other, in normal form. -/
def concat (ps : List Pattern) : Pattern := seqs (joinChars (ps.flatMap elements))

/-! ## Repetitions -/

/-- A repetition in normal form. More than one empty run is as good as one. -/
def times (p : Pattern) (min : Nat) (max : Option Nat) (greedy : Bool) : Pattern :=
  let (min, max) :=
    if p.maxLength = some 0 then (Nat.min min 1, some (Nat.min (max.getD 1) 1)) else (min, max)
  if max = some 0 then empty
  else if min = 1 ∧ max = some 1 then p
  else rep p min max greedy

/-! ## Alternatives -/

/-- The branches of alternatives. -/
def branches : Pattern → List Pattern
  | alt p q => p :: q.branches
  | p => [p]

/-- Whether two patterns are the same, however their sets are expressed. -/
def same : Pattern → Pattern → Bool
  | empty, empty => true
  | chars cs, chars ds => cs == ds
  | set s, set t => s.same t
  | look l, look m => l == m
  | group i n p, group j m q => i == j && n == m && p.same q
  | seq p q, seq r s => p.same r && q.same s
  | alt p q, alt r s => p.same r && q.same s
  | rep p i m g, rep q j n h => i == j && m == n && g == h && p.same q
  | _, _ => false

/-- The number of parts that two sequences both start with. -/
def sharedParts : List Pattern → List Pattern → Nat
  | p :: ps, q :: qs => if p.same q then sharedParts ps qs + 1 else 0
  | _, _ => 0

/-- The number of parts that all of some branches start with; none are counted unless
all branches are sequences of several parts. -/
def sharedStart : List Pattern → Nat
  | [] => 0
  | p :: ps =>
    if (p :: ps).all (2 ≤ ·.elements.length) then
      ps.foldl (fun n q => Nat.min n (sharedParts p.elements q.elements)) p.elements.length
    else 0

/-- The set of a pattern that is one. -/
def set? : Pattern → Option CharSet
  | set s => some s
  | _ => none

/-- The character of a pattern that is one. -/
def char? : Pattern → Option Char
  | chars [c] => some c
  | _ => none

/-- The set that branches amount to which are all characters or all sets. -/
def mergedSet? (ps : List Pattern) : Option CharSet :=
  match ps.mapM char? with
  | some cs => some (.unions (cs.map .single))
  | none => (ps.mapM set?).map .unions

/-- The number of constructors. -/
def nodes : Pattern → Nat
  | empty | chars _ | set _ | look _ => 1
  | group _ _ p => p.nodes + 1
  | seq p q => p.nodes + q.nodes + 1
  | alt p q => p.nodes + q.nodes + 1
  | rep p _ _ _ => p.nodes + 1

/-- Alternatives in normal form. Each step takes the shared start off the branches,
so that `fuel` need only exceed the number of their constructors. -/
def choiceWith : (fuel : Nat) → List Pattern → Pattern
  | 0, ps => alts ps
  | fuel + 1, ps =>
    match ps.flatMap branches with
    | [p] => p
    | ps =>
      match mergedSet? ps with
      | some s => ofSet s
      | none =>
        match sharedStart ps with
        | 0 => alts ps
        | n =>
          let start := (ps.head?.getD empty).elements.take n
          concat (start ++ [choiceWith fuel (ps.map fun p => concat (p.elements.drop n))])

/-- Alternatives, best first, in normal form. -/
def choice (ps : List Pattern) : Pattern :=
  choiceWith (ps.foldl (fun n p => n + p.nodes) 1) ps

end CommentSieve.Pattern
