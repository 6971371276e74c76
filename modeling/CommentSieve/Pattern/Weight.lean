import Std.Data.HashMap
import CommentSieve.Pattern.Basic
import CommentSieve.Text.ByteRanges

/-!
# The weight of a pattern

A pattern is recognised byte by byte, by one automaton that reads forwards and one
that reads backwards. Its weight is the storage that the larger of the two takes: 32
bytes for a state, 8 for every range of bytes that a state can read, and 4 for every
way out of a state with several. Counted repetitions are written out, so that they
weigh as much as their copies.

A set of characters outside ASCII becomes a small automaton of its own, in which
equal parts are shared. Shared parts are remembered in a table with a fixed number of
slots, where a newer part takes the place of an older one; the state numbers in it
are those of the whole automaton, so that the weight of a set depends a little on
what stands before it.
-/

namespace CommentSieve.Pattern

open Text

/-- The states of an automaton, counted, and what they take beyond their fixed size. -/
structure Tally where
  states : Nat := 0
  extra : Nat := 0
  deriving Repr, DecidableEq

namespace Tally

/-- The storage taken. -/
def bytes (t : Tally) : Nat := 32 * t.states + t.extra

/-- Adds states. -/
def add (t : Tally) (states extra : Nat) : Tally :=
  { states := t.states + states, extra := t.extra + extra }

end Tally

/-! ## Sets of characters -/

/-- The slot of a list of numbers, in a table with a given number of slots. -/
def slotOf (slots : Nat) (words : List Nat) : Nat :=
  let start : UInt64 := 14695981039346656037
  (words.foldl (fun h word => (h ^^^ word.toUInt64) * 1099511628211) start).toNat % slots

/-- A table from keys to states. -/
abbrev Table := Std.HashMap Nat (List Nat × Nat)

/-- The state of a key, which is the latest in its slot. -/
def Table.find? (table : Table) (slot : Nat) (key : List Nat) : Option Nat :=
  match table[slot]? with
  | some (other, state) => if other = key then some state else none
  | none => none

/-- A state whose ranges are not all known yet: for each range its first and last byte
and the state it leads to, then a range that leads to a state still open. -/
structure OpenState where
  edges : List Nat := []
  pending : Option (Nat × Nat) := none

/-- Says where the pending range leads. -/
def OpenState.close (s : OpenState) (target : Nat) : OpenState :=
  match s.pending with
  | some (first, last) => { edges := s.edges ++ [first, last, target] }
  | none => s

/-- A set that is being written out for an automaton that reads forwards. -/
structure ForwardSet where
  tally : Tally
  /-- The state after the set. -/
  target : Nat
  /-- From the first byte on, the states that lead to the last sequence of bytes. -/
  path : List OpenState := [{}]
  table : Table := {}

namespace ForwardSet

/-- The state with given edges: one that is there already, or a new one. -/
def freeze (f : ForwardSet) (s : OpenState) : ForwardSet × Nat :=
  let slot := slotOf 10000 s.edges
  match f.table.find? slot s.edges with
  | some state => (f, state)
  | none =>
    let state := f.tally.states
    ({ f with
        tally := f.tally.add 1 (8 * (s.edges.length / 3))
        table := f.table.insert slot (s.edges, state) }, state)

/-- Freezes all states of the path after the first `depth + 1`. -/
def closeTo (f : ForwardSet) (depth : Nat) : ForwardSet :=
  let kept := f.path.take (depth + 1)
  let (f, target) := (f.path.drop (depth + 1)).reverse.foldl
    (fun (f, target) s => f.freeze (s.close target)) (f, f.target)
  { f with path := kept.dropLast ++ (kept.getLast?.map (·.close target)).toList }

/-- Adds a sequence of bytes, which is not before any that was added. -/
def add (f : ForwardSet) (seq : List (Nat × Nat)) : ForwardSet :=
  let shared := ((seq.zip f.path).takeWhile fun (r, s) => s.pending == some r).length
  let f := f.closeTo shared
  match seq.drop shared with
  | [] => f
  | r :: more =>
    let last := f.path.getLast?.map fun s => { s with pending := some r }
    { f with
      path := f.path.dropLast ++ last.toList ++ more.map fun r => { pending := some r } }

/-- The tally after all sequences were added. -/
def finish (f : ForwardSet) : Tally :=
  let f := f.closeTo 0
  (f.freeze (f.path.headD {})).1.tally

end ForwardSet

/-- Writes out a set for an automaton that reads forwards. -/
def Tally.addForward (t : Tally) (seqs : List (List (Nat × Nat))) : Tally :=
  let f : ForwardSet := { tally := t.add 1 0, target := t.states }
  (seqs.foldl ForwardSet.add f).finish

/-- Writes out a set for an automaton that reads backwards: a state that branches to
all sequences, which share what is the same towards their first byte. -/
def Tally.addBackward (t : Tally) (seqs : List (List (Nat × Nat))) : Tally :=
  let target := t.states + 1
  let one (r : (Tally × Table) × Nat) (range : Nat × Nat) : (Tally × Table) × Nat :=
    let key := [r.2, range.1, range.2]
    let slot := slotOf 1000 key
    match r.1.2.find? slot key with
    | some state => (r.1, state)
    | none =>
      let state := r.1.1.states
      ((r.1.1.add 1 0, r.1.2.insert slot (key, state)), state)
  let all (r : Tally × Table) (seq : List (Nat × Nat)) : Tally × Table :=
    let r := (seq.foldl one (r, target)).1
    (r.1.add 0 4, r.2)
  (seqs.foldl all (t.add 2 0, {})).1

/-! ## Alternatives that are all fixed texts -/

/-- Texts cut at the empty ones among them, which are counted. Repeated empty texts at
the front count once. -/
def cutAtEmpty (started : Bool) : List (List Nat) → List (List (List Nat)) × Nat
  | [] => ([[]], 0)
  | [] :: more =>
    let (segments, ends) := cutAtEmpty started more
    match started, more with
    | false, [] :: _ => (segments, ends)
    | _, _ => ([] :: segments, ends + 1)
  | w :: more =>
    match cutAtEmpty true more with
    | (segment :: segments, ends) => ((w :: segment) :: segments, ends)
    | ([], ends) => ([[w]], ends)

/-- What follows each first byte, in the order of its first occurrence. -/
def groupByHead : List (List Nat) → List (Nat × List (List Nat))
  | [] => []
  | [] :: more => groupByHead more
  | (b :: w) :: more =>
    let groups := groupByHead more
    match groups.lookup b with
    | some ws => (b, w :: ws) :: groups.filter (·.1 != b)
    | none => (b, [w]) :: groups

/-- The states of the tree of some texts, whose depth is less than `fuel`. -/
def Tally.addTree : (fuel : Nat) → Tally → List (List Nat) → Tally
  | 0, t, _ => t
  | fuel + 1, t, words =>
    let (segments, ends) := cutAtEmpty false words
    let segments := (segments.map groupByHead).filter (!·.isEmpty)
    let t := segments.foldl (fun t groups =>
      let t := groups.foldl (fun t g => if g.2.all (·.isEmpty) then t else t.addTree fuel g.2) t
      t.add 1 (if groups.length = 1 then 0 else 8 * groups.length)) t
    let ways := segments.length + ends
    if ways < 2 then t else t.add 1 (4 * ways)

/-! ## Outlines -/

/-- How an automaton is put together. -/
inductive Outline
  /-- Fixed numbers of states and bytes beyond them. -/
  | fixed (states extra : Nat)
  /-- A set, by its sequences of bytes. -/
  | set (seqs : List (List (Nat × Nat)))
  /-- Fixed texts to choose from, by their bytes. -/
  | words (ws : List (List Nat))
  /-- One part and then the other, in whichever direction. -/
  | both (a b : Outline)
  /-- One part and then the other; backwards, the other comes first. -/
  | seq (a b : Outline)
  /-- A group, which is only remembered forwards. -/
  | group (a : Outline)
  | copies (count : Nat) (a : Outline)

/-- The outline of a set. -/
def Outline.ofSet (s : CharSet) : Outline :=
  let s := s.intervals
  if s.isAscii then fixed 2 (8 * s.length)
  else set (s.toRanges.flatMap fun r => byteRanges r.1 r.2)

/-- The outline of a repetition. -/
def Outline.rep (a : Outline) (nullable : Bool) (min : Nat) : (max : Option Nat) → Outline
  | none =>
    match min with
    -- A loop whose body can be empty is entered by a way of its own.
    | 0 => if nullable then both a (fixed 3 16) else both (fixed 1 8) a
    | min => both (copies min a) (fixed 1 8)
  | some max =>
    if min = max then copies min a
    else if min = 0 ∧ max = 1 then both (fixed 1 8) (both a (fixed 1 0))
    else
      both (if min = 0 then fixed 1 0 else copies min a)
        (both (fixed 1 0) (copies (max - min) (both (fixed 1 8) a)))

/-- The bytes of a pattern that is a fixed text. -/
def word? : Pattern → Option (List Nat)
  | chars cs => some (cs.flatMap fun c => utf8Bytes c.toNat)
  | _ => none

/-- The bytes of the branches of alternatives, if all are fixed texts. -/
def words? : Pattern → Option (List (List Nat))
  | alt p q => return (← p.word?) :: (← q.words?)
  | p => return [← p.word?]

/-- The outline of a pattern. The state where alternatives branch and the one where
they meet come after the second one; `later` says that they were counted. -/
def outline (later : Bool) : Pattern → Outline
  | empty => .fixed 1 0
  | chars cs => .fixed (cs.foldl (fun n c => n + c.utf8Size) 0) 0
  | set s => .ofSet s
  | look _ => .fixed 1 0
  | group _ _ p => .group (p.outline false)
  | seq p q => .seq (p.outline false) (q.outline false)
  | alt p q =>
    match (if later then none else (alt p q).words?) with
    | some ws => .words ws
    | none =>
      if later then .both (p.outline false) (.both (.fixed 0 4) (q.outline true))
      else
        match q with
        | alt q r =>
          .both (p.outline false) (.both (q.outline false)
            (.both (.fixed 2 12) (r.outline true)))
        | q => .both (p.outline false) (.both (q.outline false) (.fixed 2 8))
  | rep p min max _ => (p.outline false).rep (p.minLength.all (· == 0)) min max

/-- The greatest weight that is accepted. -/
def maxWeight : Nat := 10485760

/-- Adds parts one after the other, until there are enough of them or the greatest
weight is passed. -/
def Tally.repeatUpTo (f : Tally → Tally) : (count : Nat) → Tally → Tally
  | 0, t => t
  | count + 1, t => if maxWeight < t.bytes then t else repeatUpTo f count (f t)

/-- Adds the states of an outline. -/
def Outline.addTo (backward : Bool) : Outline → Tally → Tally
  | fixed states extra, t => t.add states extra
  | set seqs, t => if backward then t.addBackward seqs else t.addForward seqs
  | words ws, t =>
    let ws := if backward then ws.map List.reverse else ws
    (t.add 1 0).addTree (ws.foldl (fun n w => Nat.max n w.length) 0 + 1) ws
  | both a b, t => b.addTo backward (a.addTo backward t)
  | seq a b, t =>
    if backward then a.addTo backward (b.addTo backward t)
    else b.addTo backward (a.addTo backward t)
  | group a, t => if backward then a.addTo backward t else (a.addTo backward (t.add 1 0)).add 1 0
  | copies count a, t => t.repeatUpTo (a.addTo backward) count

/-! ## The whole -/

/-- Whether a condition is the first thing that every run of a pattern meets. -/
def startsAt (l : Look) : Pattern → Bool
  | look m => m == l
  | group _ _ p => p.startsAt l
  | seq p q => p.startsAt l || (p.maxLength == some 0 && q.startsAt l)
  | alt p q => p.startsAt l && q.startsAt l
  | rep p min _ _ => 0 < min && p.startsAt l
  | _ => false

/-- Whether a condition is the last thing that every run of a pattern meets. -/
def endsAt (l : Look) : Pattern → Bool
  | look m => m == l
  | group _ _ p => p.endsAt l
  | seq p q => q.endsAt l || (q.maxLength == some 0 && p.endsAt l)
  | alt p q => p.endsAt l && q.endsAt l
  | rep p min _ _ => 0 < min && p.endsAt l
  | _ => false

/-- The storage that the larger of the two automata takes, as far as it matters: once
the greatest weight is passed, copies are no longer counted. A search that can start
anywhere needs a loop in front. -/
def weight (p : Pattern) : Nat :=
  let o := p.outline false
  let front (anchored : Bool) : Tally := if anchored then ⟨1, 0⟩ else ⟨3, 16⟩
  let forward := (o.addTo false ((front (p.startsAt .textStart)).add 1 0)).add 2 0
  let backward := (o.addTo true (front (p.endsAt .textEnd))).add 1 0
  Nat.max forward.bytes backward.bytes

/-! ## A bound

Most patterns are far from the greatest weight, which a bound shows more quickly. -/

/-- A bound on the number of intervals of a set; `folded` asks for its closure under
case, where a range gains at most three characters for every one it has, and no more
than there are with a case. -/
def intervalBound (folded : Bool) : CharSet → Nat
  | .none => 0
  | .range first last =>
    if folded then 1 + Nat.min 3000 (3 * (last.toNat + 1 - first.toNat)) else 1
  | .alike _ => 4
  | .digit => 80
  | .blank => 12
  | .word => 820
  | .listed s => s.length + (if folded then 3000 else 0)
  | .union a b => intervalBound folded a + intervalBound folded b
  | .inter a b | .diff a b =>
    intervalBound false a + intervalBound false b + (if folded then 3000 else 2)
  | .symmDiff a b =>
    2 * (intervalBound false a + intervalBound false b) + (if folded then 3000 else 4)
  | .compl a => intervalBound false a + (if folded then 3000 else 1)
  | .folded a => intervalBound true a
  | .foldedAscii a => intervalBound false a + 26

/-- A bound on the weight of a set. An interval makes at most seven sequences of
bytes, and cuts that do not depend on it at most eight; each takes four states. -/
def setBound : CharSet → Nat
  | .range first last => if last.toNat < 0x80 then 80 else if first = last then 300 else 3600
  | .alike c => if c.isAlpha then 240 else 900
  | s => 1200 * (intervalBound false s + 2)

/-- A bound on the weight of a part. -/
def partBound : Pattern → Nat
  | empty => 32
  | chars cs => 400 * cs.length
  | set s => setBound s
  | look _ => 32
  | group _ _ p => p.partBound + 64
  | seq p q => p.partBound + q.partBound
  | alt p q => p.partBound + q.partBound + 80
  | rep p min none _ => Nat.max min 1 * p.partBound + 160
  | rep p _ (some max) _ => max * (p.partBound + 40) + 128

/-- Whether a pattern is heavier than is accepted. -/
def tooHeavy (p : Pattern) : Bool := maxWeight < p.partBound + 400 && maxWeight < p.weight

end CommentSieve.Pattern
