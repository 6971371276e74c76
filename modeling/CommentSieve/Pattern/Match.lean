import CommentSieve.Pattern.Basic

/-!
# Where a pattern can end

For a pattern and a place in a text, `ends` lists the places where a run that the
pattern describes can end, in order of preference. A place is listed once: what
follows it cannot depend on how it was reached, so the preferred way is the only
one that counts. This keeps lists no longer than the text.

`reach` does this from several places at once, the preferred ones first. A sequence is
then one part after the other, and a loop goes on from each place once, however many
places lead there.

A loop whose body can be empty comes back to a place without having used up anything;
which way is preferred then is said in `Pattern.Program`.
-/

namespace CommentSieve.Pattern

/-- A place in a text, with what was remembered on the way there. -/
structure Trail where
  /-- The number of characters before the place. -/
  index : Nat
  /-- The character before the place. -/
  before : Option Char
  /-- The characters after the place. -/
  rest : List Char
  /-- Named runs, latest first, with their first index and the index after them. -/
  groups : List (String × Nat × Nat) := []
  deriving Repr, DecidableEq

namespace Trail

/-- The place after the next character. -/
def step (t : Trail) (c : Char) (rest : List Char) : Trail :=
  { t with index := t.index + 1, before := some c, rest }

/-- The place a number of characters further on, or the end of the text. -/
def skip : Nat → Trail → Trail
  | 0, t => t
  | n + 1, t =>
    match t.rest with
    | [] => t
    | c :: cs => skip n (t.step c cs)

/-- Reads a character of a set. -/
def read? (s : CharSet) (t : Trail) : Option Trail :=
  match t.rest with
  | [] => none
  | c :: cs => if s.mem c then some (t.step c cs) else none

/-- Follows given characters. -/
def follow? : List Char → Trail → Option Trail
  | [], t => some t
  | d :: ds, t =>
    match t.rest with
    | [] => none
    | c :: cs => if c = d then follow? ds (t.step c cs) else none

/-- Remembers the run that ends here, if it has a name. -/
def remember (t : Trail) (name : Option String) (start : Nat) : Trail :=
  match name with
  | some name => { t with groups := (name, start, t.index) :: t.groups }
  | none => t

end Trail

/-- A run that was found: its first index, the index after it, and the named runs
inside it. -/
structure Found where
  start : Nat
  stop : Nat
  groups : List (String × Nat × Nat)
  deriving Repr, DecidableEq

namespace Found

/-- The characters from one index of a text up to another. -/
def between (text : List Char) (start stop : Nat) : List Char :=
  (text.drop start).take (stop - start)

/-- The characters that were found. -/
def text (f : Found) (whole : List Char) : List Char := between whole f.start f.stop

/-- The characters remembered under a name. -/
def group? (f : Found) (name : String) (whole : List Char) : Option (List Char) :=
  (f.groups.lookup name).map fun (start, stop) => between whole start stop

/-- Whether nothing was read. -/
def isEmpty (f : Found) : Bool := f.start == f.stop

end Found

/-- Keeps the first trail to each place. Bit `i` of `seen` says that a trail to
index `i` was kept. -/
def firstPerPlace (seen : Nat) : List Trail → List Trail
  | [] => []
  | t :: more =>
    if seen.testBit t.index then firstPerPlace seen more
    else t :: firstPerPlace (seen ||| 1 <<< t.index) more

/-- The places reached from each of several places. -/
def fromEach (f : Trail → List Trail) : List Trail → List Trail
  | [] => []
  | [t] => f t
  | ts => firstPerPlace 0 (ts.flatMap f)

/-! ## Repetition -/

/-- Up to `left` repetitions from a place. -/
def upTo (body : Trail → List Trail) (greedy : Bool) : (left : Nat) → Trail → List Trail
  | 0, t => [t]
  | left + 1, t =>
    let more := (body t).flatMap (upTo body greedy left)
    firstPerPlace 0 (if greedy then more ++ [t] else t :: more)

/-- Places found while a loop is explored. -/
structure Sweep where
  /-- Bit `i` says that the loop was already explored from place `i`. -/
  seen : Nat := 0
  /-- Least preferred first. -/
  found : List Trail := []

namespace Sweep

/-- Marks a place as explored. -/
def mark (w : Sweep) (index : Nat) : Sweep := { w with seen := w.seen ||| 1 <<< index }

/-- Adds a place. -/
def emit (w : Sweep) (t : Trail) : Sweep := { w with found := t :: w.found }

end Sweep

/-- All further repetitions from a place, and the place itself: last if greedy,
first if lazy. If the body uses up something, `fuel` need only exceed the number of
characters left. -/
def explore (body : Trail → List Trail) (greedy : Bool) : (fuel : Nat) → Sweep → Trail → Sweep
  | 0, w, _ => w
  | fuel + 1, w, t =>
    if w.seen.testBit t.index then w
    else
      let w := w.mark t.index
      if greedy then ((body t).foldl (explore body greedy fuel) w).emit t
      else (body t).foldl (explore body greedy fuel) (w.emit t)

/-- The places up to the first character outside a set, the nearest first, as far as
they were not explored. `limit` characters are read at most. -/
def runs (s : CharSet) (seen : Nat) : (limit : Nat) → Trail → List Trail
  | limit, t =>
    if seen.testBit t.index then []
    else
      match limit, t.read? s with
      | limit + 1, some u => t :: runs s seen limit u
      | _, _ => [t]

/-- Reads characters of a set from a place. Once a place is met that was explored, the
places after it were too. -/
def exploreSet (s : CharSet) (greedy : Bool) (w : Sweep) (t : Trail) : Sweep :=
  let reached := runs s w.seen t.rest.length t
  { seen := w.seen ||| (1 <<< reached.length - 1) <<< t.index
    found := if greedy then reached ++ w.found else reached.reverse ++ w.found }

/-- Up to `limit` characters of a set from a place. -/
def upToSet (s : CharSet) (greedy : Bool) (limit : Nat) (t : Trail) : List Trail :=
  let reached := runs s 0 limit t
  if greedy then reached.reverse else reached

/-- Any number of characters of a set. -/
def loopSet (s : CharSet) (greedy : Bool) : List Trail → List Trail
  | [] => []
  -- A single place needs no record of what was explored.
  | [t] => upToSet s greedy t.rest.length t
  | ts => (ts.foldl (exploreSet s greedy) {}).found.reverse

/-- Any number of repetitions. -/
def loop (body : Trail → List Trail) (greedy : Bool) (ts : List Trail) : List Trail :=
  (ts.foldl (fun w t => explore body greedy (t.rest.length + 1) w t) {}).found.reverse

/-- Exactly `count` repetitions. -/
def exactly (body : List Trail → List Trail) : (count : Nat) → List Trail → List Trail
  | 0, ts => ts
  | _ + 1, [] => []
  | count + 1, ts => exactly body count (body ts)

/-! ## All patterns -/

/-- The places that a pattern leads to from places in order of preference. -/
def reach : Pattern → List Trail → List Trail
  | empty, ts => ts
  | chars cs, ts => ts.filterMap (Trail.follow? cs)
  | set s, ts => ts.filterMap (Trail.read? s)
  | look l, ts => ts.filter fun t => l.holds t.before t.rest.head?
  | group _ name p, ts =>
    fromEach (fun t => (reach p [t]).map fun u => u.remember name t.index) ts
  | seq p q, ts => reach q (reach p ts)
  | alt p q, ts =>
    fromEach (fun t =>
      match reach p [t] with
      | [] => reach q [t]
      | us => firstPerPlace 0 (us ++ reach q [t])) ts
  | rep p min max greedy, ts =>
    let started := exactly (reach p) min ts
    match max, p with
    | none, set s => loopSet s greedy started
    | none, _ => loop (fun t => reach p [t]) greedy started
    | some max, set s => fromEach (upToSet s greedy (max - min)) started
    | some max, _ => fromEach (upTo (fun t => reach p [t]) greedy (max - min)) started

/-- The places where a pattern can end, best first. -/
def ends (p : Pattern) (t : Trail) : List Trail := p.reach [t]

end CommentSieve.Pattern
