import CommentSieve.Pattern.Program

/-!
# Searching for a pattern

A search goes through the places of a text from the left and takes the preferred
run at the first place that has one. Searching on continues where the last run
ended; an empty run there is passed over.
-/

namespace CommentSieve.Pattern

/-- The preferred run that starts at a place. -/
def at? (p : Pattern) (t : Trail) : Option Found :=
  (p.ends t).head?.map fun u => ⟨t.index, u.index, u.groups⟩

/-- The first run at or after a place. -/
def searchFrom (p : Pattern) (index : Nat) (before : Option Char) : List Char → Option Found
  | [] => p.at? { index, before, rest := [] }
  | c :: cs =>
    match p.at? { index, before, rest := c :: cs } with
    | some found => some found
    | none => p.searchFrom (index + 1) (some c) cs

/-- How runs are looked for. -/
inductive Searcher
  /-- From one place after the other, by the places where the pattern can end. -/
  | direct (p : Pattern)
  /-- By the program of the pattern. -/
  | stepwise (p : Program)

/-- The way to search for a pattern. Going from place to place is of use if not much is
read before a place is given up. -/
def searcher (p : Pattern) : Searcher :=
  if p.hasPlainLoops && !p.opensWithLoop then .direct p else .stepwise p.program

namespace Searcher

/-- The first run at or after a place; what it remembers is found if that is asked. -/
def search (s : Searcher) (remember : Bool) (t : Trail) : Option Found :=
  match s with
  | direct p => p.searchFrom t.index t.before t.rest
  | stepwise p => p.search remember t

/-- All runs at or after a place, given where the last one ended: none starts inside
that one, and none is empty and right after it. -/
def findAllFrom (s : Searcher) (last : Option Nat) (index : Nat) (before : Option Char) :
    List Char → List Found
  | [] =>
    if last.any (index ≤ ·) then [] else (s.search true { index, before, rest := [] }).toList
  | c :: cs =>
    if last.any (index < ·) then s.findAllFrom last (index + 1) (some c) cs
    else
      match s.search true { index, before, rest := c :: cs } with
      | none => []
      | some found =>
        if found.isEmpty && last == some found.stop then
          s.findAllFrom last (index + 1) (some c) cs
        else found :: s.findAllFrom (some found.stop) (index + 1) (some c) cs

end Searcher

/-- The first run in a text. -/
def find? (p : Pattern) (text : List Char) : Option Found :=
  p.searcher.search false { index := 0, before := none, rest := text }

/-- The first run in a text, with what it remembers. -/
def capture? (p : Pattern) (text : List Char) : Option Found :=
  p.searcher.search true { index := 0, before := none, rest := text }

/-- Whether a pattern occurs in a text. -/
def occursIn (p : Pattern) (text : List Char) : Bool := (p.find? text).isSome

/-- All runs in a text, none overlapping another, from left to right, with what they
remember. -/
def findAll (p : Pattern) (text : List Char) : List Found :=
  p.searcher.findAllFrom none 0 none text

/-! ## Cutting a text along the runs found in it -/

/-- A piece of a text. -/
inductive Segment
  /-- Between runs. -/
  | plain (text : List Char)
  | run (found : Found) (text : List Char)
  deriving Repr, DecidableEq

/-- Cuts the text from `index` on along runs that ascend. -/
def segmentsFrom (index : Nat) (text : List Char) : List Found → List Segment
  | [] => [.plain text]
  | f :: more =>
    let gap := text.splitAt (f.start - index)
    let body := gap.2.splitAt (f.stop - f.start)
    .plain gap.1 :: .run f body.1 :: segmentsFrom f.stop body.2 more

/-- Cuts a text along the runs of a pattern. -/
def segments (p : Pattern) (text : List Char) : List Segment :=
  segmentsFrom 0 text (p.findAll text)

end CommentSieve.Pattern
