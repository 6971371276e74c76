import CommentSieve.Proofs.Deletion
import CommentSieve.Proofs.Fronts

/-!
# Stripping goes through a text once

A text is stripped by finding all runs of a pattern, cutting the text along them and
keeping or dropping the pieces. This module takes the three together. From any place on,
what is left of a text is told by what the dialect finds right there: a run is judged as a
whole, and stripping goes on after it; where nothing is found one character is copied.

The search remembers where the last run ended, and the character before a place is known
to it. Neither matters for the patterns of the dialects, as they find no empty runs and
ask nothing about the place itself.

Main results:

* `Fallback.leftFrom_of_some` — a run is judged and stripping goes on after it.
* `Fallback.leftFrom_of_none` — a character at which nothing is found is copied.
* `Fallback.strip_eq_leftFrom` — stripping is all that, from the start of the text.
-/

namespace CommentSieve

open Pattern (Found Searcher Segment segmentsFrom Ascending)

/-! ## The runs from a place on -/

namespace Dialect

variable (d : Dialect)

/-- A run that is found is not empty and lies in the text. -/
theorem bounds_of_front? {cs : List Char} {run : Bool × Nat} (h : d.front? cs = some run) :
    0 < run.2 ∧ run.2 ≤ cs.length := by
  have hFound : d.pattern.at? { index := 0, before := none, rest := cs } = some (found 0 run) := by
    rw [at?_pattern, h]
    rfl
  obtain ⟨-, hPos, hLe⟩ := Pattern.bounds_of_at? d.nullable_pattern hFound
  have hPos : 0 < 0 + run.2 := hPos
  have hLe : 0 + run.2 ≤ 0 + cs.length := hLe
  omega

theorem front?_nil : d.front? [] = none := by
  rw [Option.eq_none_iff_forall_ne_some]
  intro run h
  have hBounds := d.bounds_of_front? h
  rw [List.length_nil] at hBounds
  omega

/-- What stands at the front is found there. -/
theorem searchFrom_of_some {cs : List Char} {run : Bool × Nat} (h : d.front? cs = some run)
    (index : Nat) (before : Option Char) :
    d.pattern.searchFrom index before cs = some (found index run) := by
  cases cs with
  | nil =>
    rw [front?_nil] at h
    exact absurd h (by simp)
  | cons c cs => rw [Pattern.searchFrom, at?_pattern, h, Option.map_some]

/-- If nothing stands there, the search goes on with the next character. -/
theorem searchFrom_of_none {c : Char} {cs : List Char} (h : d.front? (c :: cs) = none)
    (index : Nat) (before : Option Char) :
    d.pattern.searchFrom index before (c :: cs) =
      d.pattern.searchFrom (index + 1) (some c) cs := by
  rw [Pattern.searchFrom, at?_pattern, h, Option.map_none]

theorem searchFrom_nil (index : Nat) (before : Option Char) :
    d.pattern.searchFrom index before [] = none := by
  rw [Pattern.searchFrom, at?_pattern, front?_nil, Option.map_none]

/-- The character before a place does not matter. -/
theorem searchFrom_before (index : Nat) (before before' : Option Char) (cs : List Char) :
    d.pattern.searchFrom index before cs = d.pattern.searchFrom index before' cs := by
  cases cs with
  | nil => rw [searchFrom_nil, searchFrom_nil]
  | cons c cs => rw [Pattern.searchFrom, Pattern.searchFrom, at?_pattern, at?_pattern]

/-- All runs from an index on. -/
def runs (index : Nat) (cs : List Char) : List Found :=
  (Searcher.direct d.pattern).findAllFrom none index none cs

/-- Outside of the last run, neither it nor the character before matters. -/
theorem findAllFrom_eq_runs {last : Option Nat} {index : Nat} (h : last.any (index < ·) = false)
    (before : Option Char) (cs : List Char) :
    (Searcher.direct d.pattern).findAllFrom last index before cs = d.runs index cs := by
  cases cs with
  | nil => simp [runs, Searcher.findAllFrom, Searcher.search, searchFrom_nil]
  | cons c cs =>
    rw [runs, Searcher.findAllFrom, Searcher.findAllFrom, h, Searcher.search, Searcher.search,
      d.searchFrom_before index before none]
    cases hSearch : d.pattern.searchFrom index none (c :: cs) with
    | none => simp
    | some f =>
      have hBounds := Pattern.bounds_of_searchFrom d.nullable_pattern hSearch
      have hFull : f.isEmpty = false := by
        rw [Found.isEmpty, beq_eq_false_iff_ne]
        omega
      simp [hFull]

/-- Inside of the last run nothing is looked for. -/
theorem findAllFrom_inside (index count : Nat) (before : Option Char) {cs : List Char}
    (h : count ≤ cs.length) :
    (Searcher.direct d.pattern).findAllFrom (some (index + count)) index before cs =
      d.runs (index + count) (cs.drop count) := by
  induction count generalizing index before cs with
  | zero => exact d.findAllFrom_eq_runs (by simp) before cs
  | succ count ih =>
    cases cs with
    | nil => simp at h
    | cons c cs =>
      rw [Searcher.findAllFrom, if_pos (by simp), List.drop_succ_cons,
        show index + (count + 1) = index + 1 + count by omega]
      exact ih (index + 1) (some c) (Nat.le_of_succ_le_succ h)

theorem runs_nil (index : Nat) : d.runs index [] = [] := by
  simp [runs, Searcher.findAllFrom, Searcher.search, searchFrom_nil]

/-- After a run the next ones are looked for behind it. -/
theorem runs_of_some {index : Nat} {cs : List Char} {run : Bool × Nat}
    (h : d.front? cs = some run) :
    d.runs index cs = found index run :: d.runs (index + run.2) (cs.drop run.2) := by
  obtain ⟨hPos, hLe⟩ := d.bounds_of_front? h
  cases cs with
  | nil => simp [front?_nil] at h
  | cons c cs =>
    have hFull : (found index run).isEmpty = false := by
      rw [Found.isEmpty, beq_eq_false_iff_ne]
      show index ≠ index + run.2
      omega
    -- The search itself stands at the first character; the rest of the run is skipped.
    obtain ⟨count, hCount⟩ : ∃ count, run.2 = count + 1 := ⟨run.2 - 1, by omega⟩
    have hInside : count ≤ cs.length := by
      rw [List.length_cons] at hLe
      omega
    have hStop : (found index run).stop = index + 1 + count := by
      show index + run.2 = index + 1 + count
      omega
    rw [runs, Searcher.findAllFrom, Searcher.search, d.searchFrom_of_some h, hCount,
      List.drop_succ_cons]
    dsimp only
    rw [hFull, Bool.false_and, if_neg Bool.false_ne_true, hStop, d.findAllFrom_inside _ _ _ hInside,
      Nat.add_right_comm]
    rfl

/-- Where no run starts, the next one is looked for from the next character on. -/
theorem runs_of_none {index : Nat} {c : Char} {cs : List Char} (h : d.front? (c :: cs) = none) :
    d.runs index (c :: cs) = d.runs (index + 1) cs := by
  rw [runs, Searcher.findAllFrom, Searcher.search, d.searchFrom_of_none h]
  cases hSearch : d.pattern.searchFrom (index + 1) (some c) cs with
  | none =>
    -- Nothing is found at all, from here or from the next character on.
    rw [d.searchFrom_before _ _ none] at hSearch
    cases cs with
    | nil => simp [runs_nil]
    | cons c cs => simp [runs, Searcher.findAllFrom, Searcher.search, hSearch]
  | some f =>
    obtain ⟨hStart, hLt, -⟩ := Pattern.bounds_of_searchFrom d.nullable_pattern hSearch
    have hFull : f.isEmpty = false := by
      rw [Found.isEmpty, beq_eq_false_iff_ne]
      omega
    rw [d.searchFrom_before _ _ none] at hSearch
    cases cs with
    | nil => simp [searchFrom_nil] at hSearch
    | cons b cs =>
      -- The run starts further on, so that the next character is skipped as well.
      have hSkip : index + 1 < f.stop := by omega
      simp [runs, Searcher.findAllFrom, Searcher.search, hSearch, hFull, hSkip]

theorem ascending_runs (index : Nat) (cs : List Char) :
    Ascending index (index + cs.length) (d.runs index cs) := by
  have hRuns := Pattern.ascending_findAllFrom d.nullable_pattern none index none cs
  rwa [Option.getD_none, Nat.max_zero] at hRuns

end Dialect

/-! ## What is left of a text -/

namespace Fallback

namespace Stripped

/-- What is left of a text and of the text after it. -/
def followedBy (a b : Stripped) : Stripped :=
  ⟨a.content ++ b.content, a.removed + b.removed, a.preserved + b.preserved⟩

@[simp] theorem nil_followedBy (a : Stripped) : followedBy {} a = a := by
  simp [followedBy]

theorem followedBy_assoc (a b c : Stripped) :
    (a.followedBy b).followedBy c = a.followedBy (b.followedBy c) := by
  simp [followedBy, Nat.add_assoc]

end Stripped

/-- A text that is copied. -/
def copied (text : List Char) : Stripped := { content := text }

theorem copied_cons (c : Char) (text : List Char) :
    copied (c :: text) = (copied [c]).followedBy (copied text) := rfl

/-- What is left of some parts. -/
def leftOf (ps : List Part) : Stripped where
  content := Part.textOf (ps.filter (·.kept))
  removed := ps.countP (!·.kept)
  preserved := ps.countP fun p => p.isComment && p.kept

/-- What is left of one part. -/
def judged (text : List Char) (isComment kept : Bool) : Stripped where
  content := if kept then text else []
  removed := (!kept).toNat
  preserved := (isComment && kept).toNat

/-- What is left is told part by part. -/
theorem leftOf_cons (p : Part) (ps : List Part) :
    leftOf (p :: ps) = (judged p.text p.isComment p.kept).followedBy (leftOf ps) := by
  obtain ⟨start, text, isComment, kept⟩ := p
  cases isComment <;> cases kept <;>
    simp [leftOf, judged, Stripped.followedBy, Nat.add_comm]

variable (d : Dialect) (e : Engine)

/-- What is left of a run that starts at an index. -/
def leftOfRun (index : Nat) (isComment : Bool) (text : List Char) : Stripped :=
  judged text isComment (!isComment || (isInterpreterLine d index text || e.keeps text))

/-- What is left of the text from an index on. -/
def leftFrom (index : Nat) (cs : List Char) : Stripped :=
  leftOf (partsFrom d e 0 (segmentsFrom index cs (d.runs index cs)))

/-- Where the parts stand does not matter for what is left of them. -/
theorem leftOf_partsFrom (offset offset' : Nat) (segments : List Segment) :
    leftOf (partsFrom d e offset segments) = leftOf (partsFrom d e offset' segments) := by
  induction segments generalizing offset offset' with
  | nil => rfl
  | cons s segments ih =>
    rw [partsFrom, partsFrom, leftOf_cons, leftOf_cons,
      ih _ (offset' + Text.byteLength s.text)]
    cases s <;> rfl

/-- What is between runs is left. -/
theorem leftOf_plain_cons (text : List Char) (segments : List Segment) :
    leftOf (partsFrom d e 0 (.plain text :: segments)) =
      (copied text).followedBy (leftOf (partsFrom d e 0 segments)) := by
  rw [partsFrom, leftOf_cons, leftOf_partsFrom d e _ 0]
  rfl

/-- A run is left or judged, whichever it is. -/
theorem leftOf_run_cons (f : Found) (text : List Char) (segments : List Segment) :
    leftOf (partsFrom d e 0 (.run f text :: segments)) =
      (leftOfRun d e f.start f.isComment text).followedBy
        (leftOf (partsFrom d e 0 segments)) := by
  rw [partsFrom, leftOf_cons, leftOf_partsFrom d e _ 0]
  rfl

theorem isComment_found (index : Nat) (run : Bool × Nat) :
    (Dialect.found index run).isComment = run.1 := by
  obtain ⟨_ | _, count⟩ := run <;> rfl

@[simp] theorem leftFrom_nil (index : Nat) : leftFrom d e index [] = {} := by
  rw [leftFrom, d.runs_nil]
  rfl

/-- A run is judged, and stripping goes on after it. -/
theorem leftFrom_of_some (index : Nat) {cs : List Char} {run : Bool × Nat}
    (h : d.front? cs = some run) :
    leftFrom d e index cs =
      (leftOfRun d e index run.1 (cs.take run.2)).followedBy
        (leftFrom d e (index + run.2) (cs.drop run.2)) := by
  -- The run starts right here, so that the text before it is empty.
  have hStart : (Dialect.found index run).start - index = 0 := Nat.sub_self index
  have hLength : (Dialect.found index run).stop - (Dialect.found index run).start = run.2 :=
    Nat.add_sub_cancel_left index run.2
  rw [leftFrom, d.runs_of_some h, segmentsFrom, hStart, hLength, List.splitAt_eq, List.splitAt_eq,
    leftOf_plain_cons, leftOf_run_cons, isComment_found]
  exact Stripped.nil_followedBy _

/-- A character at which nothing is found is copied. -/
theorem leftFrom_of_none (index : Nat) {c : Char} {cs : List Char}
    (h : d.front? (c :: cs) = none) :
    leftFrom d e index (c :: cs) = (copied [c]).followedBy (leftFrom d e (index + 1) cs) := by
  have hRuns := d.ascending_runs (index + 1) cs
  rw [leftFrom, leftFrom, d.runs_of_none h]
  cases hFound : d.runs (index + 1) cs with
  | nil =>
    rw [segmentsFrom, segmentsFrom, leftOf_plain_cons, leftOf_plain_cons, copied_cons,
      Stripped.followedBy_assoc]
  | cons f more =>
    -- The character belongs to the plain text before the first run.
    rw [hFound] at hRuns
    have hGap : f.start - index = f.start - (index + 1) + 1 := by
      have hStart := hRuns.1
      omega
    rw [segmentsFrom, segmentsFrom, hGap, List.splitAt_eq, List.splitAt_eq, List.splitAt_eq,
      List.splitAt_eq, List.take_succ_cons, List.drop_succ_cons, leftOf_plain_cons,
      leftOf_plain_cons, copied_cons, Stripped.followedBy_assoc]

/-- Stripping a text is stripping it from its start on. -/
theorem strip_eq_leftFrom (content : List Char) :
    strip d e content = leftFrom d e 0 content := by
  have hRuns : d.pattern.findAll content = d.runs 0 content := by
    rw [Pattern.findAll, d.searcher_pattern]
    rfl
  rw [strip, foldl_step d e 0, leftFrom, ← hRuns]
  simp [leftOf, Pattern.segments]

end Fallback

end CommentSieve
