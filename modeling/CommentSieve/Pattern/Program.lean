import CommentSieve.Pattern.Match

/-!
# Programs for patterns

The steps of a program say how a pattern is looked for in one pass over a text. From a
place, the steps that read nothing are followed depth first, the preferred way first,
and *no step is followed twice from the same place*. What that leaves is an ordered list
of threads, each about to read a character, which all read the next character at once.
As long as nothing was found, a new thread starts at every place, preferred to none.

When the body of a loop can be empty, a thread can come back to where it was without
having used up a character; the preferred run is then what the program finds.

A condition that depends on the next character can be met in two ways. The *eager*
search follows it at once. The *patient* one first follows everything that can be
followed without knowing the next character, and then follows the threads it has once
more, in their order, with nothing marked; a loop through such a condition can so come
out in another order. The run is found by a patient search; what is remembered inside
of it, by an eager one.
-/

namespace CommentSieve.Pattern

/-- One step of a program. Steps are numbered from zero. -/
inductive Step
  /-- Reads a character of a set. -/
  | read (s : CharSet) (next : Nat)
  /-- Goes on if a condition holds. -/
  | check (l : Look) (next : Nat)
  /-- Starts a named run. -/
  | enter (name : Option String) (next : Nat)
  /-- Ends a named run. -/
  | leave (name : Option String) (next : Nat)
  /-- Goes on. -/
  | jump (next : Nat)
  /-- Goes on in two ways, the first preferred. -/
  | fork (first second : Nat)
  | accept
  deriving Repr, DecidableEq

namespace Step

/-- A fork that prefers the body of a repetition if it is greedy. -/
def again (greedy : Bool) (body exit : Nat) : Step :=
  if greedy then fork body exit else fork exit body

end Step

/-! ## Writing programs -/

/-- Steps that read given characters. The first has the number `start`, and after the
last comes `next`. -/
def charSteps (start next : Nat) (cs : List Char) : List Step :=
  let last := start + cs.length - 1
  if cs.isEmpty then [.jump next]
  else (cs.zipIdx start).map fun (c, i) => .read (.single c) (if i = last then next else i + 1)

/-- Copies of steps one after the other, each given where it starts and what comes after
it; after the last comes `next`. A copy has `size` steps. -/
def copySteps (size : Nat) (steps : Nat → Nat → List Step) (start next count : Nat) : List Step :=
  (List.range count).flatMap fun i =>
    steps (start + i * size) (if i + 1 = count then next else start + (i + 1) * size)

/-- The number of steps of a pattern. -/
def stepCount : Pattern → Nat
  | empty => 1
  | chars cs => Nat.max cs.length 1
  | set _ => 1
  | look _ => 1
  | group _ _ p => p.stepCount + 2
  | seq p q => p.stepCount + q.stepCount
  | alt p q => p.stepCount + q.stepCount + 1
  | rep p min none _ => if min = 0 then p.stepCount + 2 else min * p.stepCount + 1
  | rep p min (some max) _ => min * p.stepCount + (max - min) * (p.stepCount + 1) + 1

/-- The steps of a pattern. The first has the number `start`, and after the last comes
`next`. -/
def steps : Pattern → (start next : Nat) → List Step
  | empty, _, next => [.jump next]
  | chars cs, start, next => charSteps start next cs
  | set s, _, next => [.read s next]
  | look l, _, next => [.check l next]
  | group _ name p, start, next =>
    .enter name (start + 1) ::
      (p.steps (start + 1) (start + 1 + p.stepCount) ++ [.leave name next])
  | seq p q, start, next =>
    p.steps start (start + p.stepCount) ++ q.steps (start + p.stepCount) next
  | alt p q, start, next =>
    .fork (start + 1) (start + 1 + p.stepCount) ::
      (p.steps (start + 1) next ++ q.steps (start + 1 + p.stepCount) next)
  | rep p min none greedy, start, next =>
    match min with
    | 0 =>
      if p.nullable then
        -- Entered by a way of its own, so that an empty body comes before no body.
        let last := start + 1 + p.stepCount
        .again greedy (start + 1) next ::
          (p.steps (start + 1) last ++ [.again greedy (start + 1) next])
      else
        .again greedy (start + 1) next :: (p.steps (start + 1) start ++ [.jump next])
    | min + 1 =>
      let last := start + min * p.stepCount
      copySteps p.stepCount p.steps start last min ++
        p.steps last (last + p.stepCount) ++ [.again greedy last next]
  | rep p min (some max) greedy, start, next =>
    let middle := start + min * p.stepCount
    let optional (start after : Nat) : List Step :=
      .again greedy (start + 1) next :: p.steps (start + 1) after
    copySteps p.stepCount p.steps start middle min ++
      copySteps (p.stepCount + 1) optional middle (middle + (max - min) * (p.stepCount + 1))
        (max - min) ++
      [.jump next]

/-- The program of a pattern. -/
structure Program where
  steps : Array Step
  /-- Whether the pattern remembers runs. -/
  remembers : Bool
  /-- Whether the pattern asks about word characters outside ASCII, which a patient
  search cannot. -/
  wide : Bool

/-- Whether a step asks about word characters outside ASCII. -/
def Step.isWide : Step → Bool
  | check (.word _ ascii) _ => !ascii
  | _ => false

/-- The program of a pattern. -/
def program (p : Pattern) : Program :=
  let steps := p.steps 0 p.stepCount ++ [.accept]
  { steps := steps.toArray, remembers := p.hasGroups, wide := steps.any (·.isWide) }

/-! ## Running programs -/

/-- A way through a program: the step it has come to, and what is remembered. -/
structure Thread where
  step : Nat
  /-- The index where the run starts. -/
  start : Nat
  /-- Named runs that have started, latest first. -/
  entered : List Nat := []
  groups : List (String × Nat × Nat) := []

namespace Thread

/-- Goes on with a step. -/
def goTo (t : Thread) (step : Nat) : Thread := { t with step }

/-- Ends the run that started last, and goes on with a step. -/
def leave (t : Thread) (name : Option String) (index step : Nat) : Thread :=
  match name, t.entered with
  | some name, start :: entered =>
    { t with step, entered, groups := (name, start, index) :: t.groups }
  | _, _ => { t with step, entered := t.entered.drop 1 }

/-- The run that a thread has found at an index. -/
def found (t : Thread) (index : Nat) : Found := ⟨t.start, index, t.groups⟩

end Thread

/-- The steps that were followed from a place, and the threads that wait there. -/
structure Front where
  seen : Array Bool
  /-- Least preferred first. -/
  waiting : List Thread := []

namespace Program

/-- Follows threads, the first one first, through all steps that read nothing. Every
thread that is looked at was in the list or comes from a step followed for the first
time, of which there are at most two for each step: `fuel` has to exceed that. -/
def follow (p : Program) (holds : Look → Bool) (index : Nat) :
    (fuel : Nat) → Front → List Thread → Front
  | 0, f, _ => f
  | _ + 1, f, [] => f
  | fuel + 1, f, t :: more =>
    if f.seen.getD t.step true then follow p holds index fuel f more
    else
      let f := { f with seen := f.seen.setIfInBounds t.step true }
      match p.steps[t.step]? with
      | some (.jump next) => follow p holds index fuel f (t.goTo next :: more)
      | some (.fork first second) =>
        follow p holds index fuel f (t.goTo first :: t.goTo second :: more)
      | some (.enter _ next) =>
        follow p holds index fuel f ({ t.goTo next with entered := index :: t.entered } :: more)
      | some (.leave name next) =>
        follow p holds index fuel f (t.leave name index next :: more)
      | some (.check l next) =>
        let f := { f with waiting := t :: f.waiting }
        if holds l then follow p holds index fuel f (t.goTo next :: more)
        else follow p holds index fuel f more
      | some (.read ..) | some .accept =>
        follow p holds index fuel { f with waiting := t :: f.waiting } more
      | none => follow p holds index fuel f more

/-- The threads that wait at a place, best first, after some were followed. -/
def close (p : Program) (holds : Look → Bool) (index : Nat) (threads : List Thread) :
    List Thread :=
  let front : Front := { seen := Array.replicate p.steps.size false }
  (p.follow holds index (2 * p.steps.size + threads.length + 1) front threads).waiting.reverse

/-- Whether a thread waits for a condition that the next character has made true. -/
def isReleased (p : Program) (before after : Option Char) (t : Thread) : Bool :=
  match p.steps[t.step]? with
  | some (.check l _) => l.holds before after && !l.holdsEarly before
  | _ => false

/-- The threads that wait at a place, best first, once the next character is known. -/
def settle (p : Program) (patient : Bool) (index : Nat) (before after : Option Char)
    (threads : List Thread) : List Thread :=
  if patient then
    let waiting := p.close (·.holdsEarly before) index threads
    if waiting.any (p.isReleased before after) then p.close (·.holds before after) index waiting
    else waiting
  else p.close (·.holds before after) index threads

/-- The threads that read the next character, after those `kept` with the least
preferred first, and the first thread that accepts; less preferred threads than that are
given up. -/
def advance (p : Program) (next : Option Char) (kept : List Thread) :
    List Thread → List Thread × Option Thread
  | [] => (kept.reverse, none)
  | t :: more =>
    match p.steps[t.step]? with
    | some .accept => (kept.reverse, some t)
    | some (.read s step) =>
      p.advance next (if next.any s.mem then t.goTo step :: kept else kept) more
    | _ => p.advance next kept more

/-- What a search is told. -/
structure Mode where
  patient : Bool
  /-- A run may start at any place. -/
  unanchored : Bool
  /-- No character from this index on is read. -/
  limit : Option Nat := none

/-- The preferred run of threads that have come to a place, or of threads that start
later; `best` is the run found so far. The outer option is `none` if a patient search
meets a character that it cannot judge. -/
def run (p : Program) (m : Mode) (best : Option Found) (threads : List Thread) (index : Nat)
    (before : Option Char) (text : List Char) : Option (Option Found) :=
  let threads :=
    if m.unanchored && best.isNone then threads ++ [{ step := 0, start := index }] else threads
  if threads.isEmpty then some best
  else
    match text with
    | [] =>
      let (_, found) := p.advance none [] (p.settle m.patient index before none threads)
      some ((found.map (·.found index)).or best)
    | c :: cs =>
      if m.patient && p.wide && 0x80 ≤ c.toNat then none
      else
        let waiting := p.settle m.patient index before (some c) threads
        let next := if m.limit == some index then none else some c
        let (threads, found) := p.advance next [] waiting
        p.run m ((found.map (·.found index)).or best) threads (index + 1) (some c) cs

/-- The preferred run that starts at a place and ends at most at `stop`, by an eager
search. -/
def anchored? (p : Program) (stop : Nat) (t : Trail) : Option Found :=
  let start : List Thread := [{ step := 0, start := t.index }]
  (p.run ⟨false, false, some stop⟩ none start t.index t.before t.rest).join

/-- Whether a patient search is possible as far as the character before a place is
concerned. -/
def allows (p : Program) (before : Option Char) : Bool :=
  !p.wide || before.all (·.toNat < 0x80)

/-- The first run at or after a place, without what it remembers. -/
def span? (p : Program) (t : Trail) : Option Found :=
  let search (patient : Bool) := p.run ⟨patient, true, none⟩ none [] t.index t.before t.rest
  match if p.allows t.before then search true else none with
  | some found => found
  | none => (search false).join

/-- The first run at or after a place; what it remembers is found if that is asked. -/
def search (p : Program) (remember : Bool) (t : Trail) : Option Found := do
  let found ← p.span? t
  if remember && p.remembers then p.anchored? found.stop (t.skip (found.start - t.index))
  else some found

end Program

end CommentSieve.Pattern
