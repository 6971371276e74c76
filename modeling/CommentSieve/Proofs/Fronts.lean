import CommentSieve.Proofs.DialectPattern
import CommentSieve.Proofs.Preferences
import CommentSieve.Proofs.Runs

/-!
# What a dialect finds at a place

The pattern of a dialect is an alternation with greedy and lazy loops. What it finds at a
place is nevertheless told by the text there, without going back: a text in quotes or
back-ticks up to its closing sign, a comment through its first terminator, or a comment to
the end of the line. A quoted text is read in one way only, as a character is either plain
or part of an escape, and the loop can be left for the closing sign at one place only, the
last one.

Main results:

* `Dialect.enclosed_measures` — a text in signs ends at the first closing sign that is not
  escaped.
* `Dialect.delimited_measures` — a comment with a terminator ends with the first one.
* `Dialect.toLineEnd_measures` — a line comment ends with the line.
* `Dialect.at?_pattern` — what the pattern of a dialect finds at a place.
-/

namespace CommentSieve

open Text

namespace Pattern

/-- What a run needs to know of the place where it ends. -/
def Trail.outcome (t : Trail) : Nat × List (String × Nat × Nat) := (t.index, t.groups)

/-- The place some characters further on, as far as a run needs to know it. -/
def Trail.ahead (t : Trail) (count : Nat) : Nat × List (String × Nat × Nat) :=
  (t.index + count, t.groups)

namespace Trail

/-- What lies ahead of the next place lies ahead of this one, too. -/
theorem ahead_step (t : Trail) (c : Char) (cs : List Char) :
    (t.step c cs).ahead = t.ahead ∘ (· + 1) := by
  funext count
  show (t.index + 1 + count, t.groups) = (t.index + (count + 1), t.groups)
  rw [Nat.add_assoc, Nat.add_comm 1]

theorem follow?_cons {t : Trail} {c : Char} {cs : List Char} (h : t.rest = c :: cs)
    (d : Char) (ds : List Char) :
    follow? (d :: ds) t = if c = d then follow? ds (t.step c cs) else none := by
  rw [follow?, h]

theorem follow?_of_rest_eq_nil {t : Trail} (h : t.rest = []) (d : Char) (ds : List Char) :
    follow? (d :: ds) t = none := by
  rw [follow?, h]

/-- Given characters are followed where the text starts with them. -/
theorem follow?_cases (ds : List Char) (t : Trail) :
    (stripStart? ds t.rest = none ∧ follow? ds t = none) ∨
    ∃ u, follow? ds t = some u ∧ stripStart? ds t.rest = some u.rest ∧
      u.outcome = t.ahead ds.length := by
  induction ds generalizing t with
  | nil => exact .inr ⟨t, rfl, rfl, rfl⟩
  | cons d ds ih =>
    cases hRest : t.rest with
    | nil => exact .inl ⟨rfl, follow?_of_rest_eq_nil hRest d ds⟩
    | cons c cs =>
      rw [follow?_cons hRest, stripStart?]
      by_cases hSame : c = d
      · have hMore := ih (t.step c cs)
        rw [ahead_step] at hMore
        rw [if_pos hSame, if_pos hSame.symm]
        exact hMore
      · rw [if_neg hSame, if_neg (Ne.symm hSame)]
        exact .inl ⟨rfl, rfl⟩

end Trail

/-! ## Alternatives and groups -/

/-- What a pattern prefers at a place is a run whose length the text there tells, and
nothing in it is remembered. -/
def Measures (p : Pattern) (length? : List Char → Option Nat) : Prop :=
  ∀ t : Trail, (p.reach [t]).head?.map Trail.outcome = (length? t.rest).map t.ahead

theorem Measures.alt {p q : Pattern} {f g : List Char → Option Nat} (hp : p.Measures f)
    (hq : q.Measures g) : (p.alt q).Measures fun cs => (f cs).or (g cs) := by
  intro t
  rw [head?_alt, Option.map_or, hp t, hq t, Option.map_or]

/-- From no place nothing is reached. -/
theorem reach_nil (p : Pattern) : p.reach [] = [] := by
  rw [List.eq_nil_iff_forall_not_mem]
  intro u hu
  obtain ⟨t, ht, -⟩ := reaches_of_mem_reach p [] u hu
  exact absurd ht List.not_mem_nil

/-- After given characters. -/
theorem Measures.after {p : Pattern} {f : List Char → Option Nat} (hp : p.Measures f)
    (opening : List Char) :
    (seq (chars opening) p).Measures fun cs =>
      (stripStart? opening cs).bind fun body => (f body).map (opening.length + ·) := by
  intro t
  rcases t.follow?_cases opening with ⟨hStrip, hFollow⟩ | ⟨u, hFollow, hStrip, hOutcome⟩
  · -- Without the opening there is no place to go on from.
    have hNowhere : (chars opening).reach [t] = [] := by simp [reach, hFollow]
    dsimp only
    rw [hStrip, reach, hNowhere, reach_nil]
    rfl
  · -- After it there is one place, and what is found there is as much further on.
    have hOne : (chars opening).reach [t] = [u] := by simp [reach, hFollow]
    have hAhead : u.ahead = t.ahead ∘ (opening.length + ·) := by
      obtain ⟨hIndex, hGroups⟩ := Prod.mk.inj hOutcome
      funext count
      rw [Function.comp, Trail.ahead, Trail.ahead, hIndex, hGroups, Nat.add_assoc]
    dsimp only
    rw [hStrip, Option.bind_some, Option.map_map, ← hAhead, ← hp u, reach, hOne]

/-! ## A loop with one way through -/

/-- The places on the only way through a loop, the nearest first. -/
def path (next : Trail → Option Trail) : (fuel : Nat) → Trail → List Trail
  | 0, _ => []
  | fuel + 1, t => t :: (next t).toList.flatMap (path next fuel)

/-- Where a path ends only its last place can yield anything. -/
theorem filterMap_path_last {next : Trail → Option Trail} {t : Trail} (h : next t = none)
    (f : Trail → Option Trail) (fuel : Nat) :
    (path next (fuel + 1) t).reverse.filterMap f = (f t).toList := by
  rw [path, h]
  cases hLast : f t <;> simp [hLast]

/-- A place that yields nothing can be left out of a path. -/
theorem filterMap_path_on {next : Trail → Option Trail} {t u : Trail} (h : next t = some u)
    {f : Trail → Option Trail} (hf : f t = none) (fuel : Nat) :
    (path next (fuel + 1) t).reverse.filterMap f =
      (path next fuel u).reverse.filterMap f := by
  rw [path, h]
  simp [hf]

/-- A greedy loop whose body leads to one place at most, always further on, finds the
places on its way. -/
theorem found_explore {next : Trail → Option Trail}
    (hNext : ∀ t u, next t = some u → t.index < u.index) {fuel : Nat} {w : Sweep} {t : Trail}
    (hSeen : ∀ i, t.index ≤ i → w.seen.testBit i = false) :
    (explore (fun t => (next t).toList) true fuel w t).found = path next fuel t ++ w.found := by
  induction fuel generalizing w t with
  | zero => rfl
  | succ fuel ih =>
    rw [explore, hSeen t.index (Nat.le_refl _), if_neg Bool.false_ne_true, if_pos rfl, path]
    cases hStep : next t with
    | none => rfl
    | some u =>
      -- Nothing from the next place on has been explored: the bit just set lies before it.
      have hUnseen : ∀ i, u.index ≤ i → (w.mark t.index).seen.testBit i = false := by
        intro i hi
        have hLt := hNext t u hStep
        have hOther : (1 <<< t.index).testBit i = false := by
          rw [Nat.one_shiftLeft, Nat.testBit_two_pow, decide_eq_false_iff_not]
          omega
        rw [Sweep.mark, Nat.testBit_or, hSeen i (by omega), hOther, Bool.or_self]
      show t :: (explore _ true fuel (w.mark t.index) u).found = _
      rw [ih hUnseen]
      simp [Sweep.mark]

/-- A loop over a body that goes on in one way follows a path, and prefers its end. -/
theorem loop_eq_path {next : Trail → Option Trail}
    (hNext : ∀ t u, next t = some u → t.index < u.index) (t : Trail) :
    loop (fun t => (next t).toList) true [t] = (path next (t.rest.length + 1) t).reverse := by
  have hFound : (explore (fun t => (next t).toList) true (t.rest.length + 1) {} t).found =
      path next (t.rest.length + 1) t ++ [] := found_explore hNext (by simp)
  rw [loop, List.foldl_cons, List.foldl_nil, hFound, List.append_nil]

end Pattern

/-! ## Texts in quotes and back-ticks -/

namespace CharSet

/-- The set of a character has no other member. -/
theorem mem_single (c d : Char) : (single c).mem d = (d == c) := by
  rw [single, mem, Bool.eq_iff_iff, Bool.and_eq_true, decide_eq_true_eq, decide_eq_true_eq,
    beq_iff_eq]
  constructor
  · rintro ⟨hLe, hGe⟩
    exact Char.le_antisymm hGe hLe
  · rintro rfl
    exact ⟨Char.le_refl _, Char.le_refl _⟩

end CharSet

namespace Dialect

open Pattern (Trail path reach fromEach firstPerPlace filterMap_path_last filterMap_path_on)

theorem mem_anything (c : Char) : anything.mem c = true := by
  simp [anything, CharSet.mem]

/-- The number of characters up to the closing sign of a text, the sign included. An escape
hides the sign, and a line end if the text has to stay `onLine`. -/
def closing? (sign : Char) (onLine : Bool) : List Char → Option Nat
  | [] => none
  | c :: cs =>
    if c = '\\' then
      match cs with
      | [] => none
      | _ :: cs => (closing? sign onLine cs).map (· + 2)
    else if c = sign then some 1
    else if onLine && c == '\n' then none
    else (closing? sign onLine cs).map (· + 1)

theorem closing?_escape (sign : Char) (onLine : Bool) (d : Char) (cs : List Char) :
    closing? sign onLine ('\\' :: d :: cs) = (closing? sign onLine cs).map (· + 2) := rfl

/-- Up to the closing sign one character is passed after the other. -/
theorem closing?_cons (sign : Char) (onLine : Bool) {c : Char} (hc : c ≠ '\\') (cs : List Char) :
    closing? sign onLine (c :: cs) =
      if c = sign then some 1
      else if onLine && c == '\n' then none
      else (closing? sign onLine cs).map (· + 1) := by
  rw [closing?.eq_def]
  exact if_neg hc

/-- The number of characters of the text in signs at the front, if there is one. -/
def enclosedLength? (sign : Char) (onLine : Bool) (cs : List Char) : Option Nat :=
  (stripStart? [sign] cs).bind fun body => (closing? sign onLine body).map (1 + ·)

/-- The characters that are not plain inside of a text in signs. -/
def stopsAt (sign : Char) (onLine : Bool) (c : Char) : Bool :=
  c == sign || c == '\\' || (onLine && c == '\n')

theorem mem_quotedStops (quote c : Char) : (quotedStops quote).mem c = stopsAt quote true c := by
  simp [quotedStops, stopsAt, CharSet.mem, CharSet.mem_single, Bool.or_assoc]

theorem mem_tickedStops (c : Char) : tickedStops.mem c = stopsAt '`' false c := by
  simp [tickedStops, stopsAt, CharSet.mem, CharSet.mem_single]

/-- The place after the next plain character or escape. -/
def unit? (stops : CharSet) (t : Trail) : Option Trail :=
  match t.rest with
  | [] => none
  | c :: cs =>
    if stops.mem c = false then some (t.step c cs)
    else if c = '\\' then
      match cs with
      | [] => none
      | d :: ds => some ((t.step c cs).step d ds)
    else none

/-- A unit of a quoted text is not empty. -/
theorem lt_of_unit? {stops : CharSet} {t u : Trail} (h : unit? stops t = some u) :
    t.index < u.index := by
  unfold unit? at h
  repeat' split at h
  all_goals simp at h
  · rw [← h]
    exact Nat.lt_succ_self _
  · rw [← h]
    exact Nat.lt_succ_of_lt (Nat.lt_succ_self _)

/-- A character is plain or part of an escape, never both. -/
theorem reach_unit {stops : CharSet} (hStops : stops.mem '\\' = true) (t : Trail) :
    (Pattern.alt (.set (.compl stops)) escaped).reach [t] = (unit? stops t).toList := by
  rw [escaped, reach, fromEach, reach, reach, reach, reach, unit?]
  cases hRest : t.rest with
  | nil => simp [Trail.read?, Trail.follow?_of_rest_eq_nil, hRest]
  | cons c cs =>
    rw [List.filterMap_cons, List.filterMap_cons, Trail.read?_cons hRest,
      Trail.follow?_cons hRest]
    by_cases hPlain : stops.mem c = false
    · -- A backslash is not plain, so that no escape starts here.
      have hEscape : c ≠ '\\' := by
        rintro rfl
        rw [hStops] at hPlain
        exact absurd hPlain (by simp)
      simp [CharSet.mem, hPlain, hEscape, firstPerPlace]
    · by_cases hEscape : c = '\\'
      · cases cs with
        | nil => simp [CharSet.mem, hStops, hEscape, Trail.follow?, Trail.read?, Trail.step]
        | cons d ds =>
          simp [CharSet.mem, hStops, hEscape, Trail.follow?, Trail.read?, Trail.step,
            mem_anything]
      · simp [CharSet.mem, hPlain, hEscape]

section Enclosed

variable {stops : CharSet} {sign : Char} {onLine : Bool}
  (hStops : ∀ c, stops.mem c = stopsAt sign onLine c) (hSign : sign ≠ '\\')

include hStops

theorem unit?_plain {t : Trail} {c : Char} {cs : List Char} (hRest : t.rest = c :: cs)
    (hPlain : stopsAt sign onLine c = false) : unit? stops t = some (t.step c cs) := by
  rw [unit?, hRest]
  exact if_pos ((hStops c).trans hPlain)

theorem unit?_stop {t : Trail} {c : Char} {cs : List Char} (hRest : t.rest = c :: cs)
    (hStop : stopsAt sign onLine c = true) (hEscape : c ≠ '\\') : unit? stops t = none := by
  rw [unit?, hRest]
  simp [hStops, hStop, hEscape]

theorem unit?_escape {t : Trail} {cs : List Char} (hRest : t.rest = '\\' :: cs) :
    unit? stops t = cs.head?.map fun d => (t.step '\\' cs).step d cs.tail := by
  rw [unit?, hRest]
  cases cs <;> simp [hStops, stopsAt]

include hSign

/-- Of the places on the way through a text, the closing sign follows the last one only. -/
theorem filterMap_path {fuel : Nat} {t : Trail} (hFuel : t.rest.length < fuel) :
    ((path (unit? stops) fuel t).reverse.filterMap (Trail.follow? [sign])).map Trail.outcome =
      ((closing? sign onLine t.rest).map t.ahead).toList := by
  -- By induction along the way: one case for each thing that can stand at a place.
  induction fuel generalizing t with
  | zero => omega
  | succ fuel ih =>
    cases hRest : t.rest with
    | nil =>
      have hLast : unit? stops t = none := by rw [unit?, hRest]
      rw [filterMap_path_last hLast, Trail.follow?_of_rest_eq_nil hRest]
      rfl
    | cons c cs =>
      rw [hRest, List.length_cons] at hFuel
      have hFollow := Trail.follow?_cons hRest sign []
      by_cases hEscape : c = '\\'
      · -- The sign is not a backslash, so that the text is not closed here.
        subst hEscape
        rw [if_neg hSign.symm] at hFollow
        have hUnit := unit?_escape hStops hRest
        cases cs with
        | nil =>
          rw [filterMap_path_last hUnit, hFollow]
          rfl
        | cons d ds =>
          have hMore := ih (t := (t.step '\\' (d :: ds)).step d ds)
            (Nat.lt_of_succ_lt (Nat.lt_of_succ_lt_succ hFuel))
          rw [Trail.ahead_step, Trail.ahead_step] at hMore
          rw [filterMap_path_on hUnit hFollow, closing?_escape, Option.map_map]
          exact hMore
      rw [closing?_cons sign onLine hEscape]
      by_cases hClosed : c = sign
      · -- The sign is not plain: the way ends where the sign follows.
        have hUnit := unit?_stop hStops hRest (by simp [stopsAt, hClosed]) hEscape
        rw [filterMap_path_last hUnit, hFollow, if_pos hClosed, if_pos hClosed]
        rfl
      rw [if_neg hClosed] at hFollow ⊢
      by_cases hBroken : (onLine && c == '\n') = true
      · -- At the end of the line the way ends as well, and nothing follows.
        have hUnit := unit?_stop hStops hRest (by simp [stopsAt, hBroken]) hEscape
        rw [filterMap_path_last hUnit, hFollow, if_pos hBroken]
        rfl
      · have hUnit := unit?_plain hStops hRest (by simp [stopsAt, hBroken, hClosed, hEscape])
        have hMore := ih (t := t.step c cs) (Nat.lt_of_succ_lt_succ hFuel)
        rw [Trail.ahead_step] at hMore
        rw [filterMap_path_on hUnit hFollow, if_neg hBroken, Option.map_map]
        exact hMore

/-- A text in signs ends at the first closing sign that is not escaped. -/
theorem enclosed_measures : (enclosed sign stops).Measures (enclosedLength? sign onLine) := by
  have hBody : (fun t => (Pattern.alt (.set (.compl stops)) escaped).reach [t]) =
      fun t => (unit? stops t).toList := by
    funext t
    exact reach_unit (by simp [hStops, stopsAt]) t
  refine Pattern.Measures.after (fun t => ?_) [sign]
  have hPath := filterMap_path hStops hSign (Nat.lt_succ_self t.rest.length)
  have hLoop : (Pattern.rep (.alt (.set (.compl stops)) escaped) 0 none true).reach [t] =
      (path (unit? stops) (t.rest.length + 1) t).reverse := by
    rw [← Pattern.loop_eq_path (fun _ _ => lt_of_unit?), ← hBody]
    rfl
  rw [reach, hLoop, reach, ← List.head?_map, hPath]
  cases closing? sign onLine t.rest <;> rfl

end Enclosed

/-! ## Comments -/

/-- The nearest place that a terminator follows. -/
theorem nearest_measures (terminator : List Char) :
    (Pattern.seq (.rep (.set anything) 0 none false) (.chars terminator)).Measures fun body =>
      (splitAround? terminator body).map fun pieces => pieces.1.length + terminator.length := by
  intro t
  have hRuns : (Pattern.rep (.set anything) 0 none false).reach [t] =
      Pattern.runs anything 0 t.rest.length t := rfl
  rw [reach, hRuns, reach]
  generalize hCs : t.rest = cs
  induction cs generalizing t with
  | nil =>
    rw [List.length_nil, Pattern.runs_stop (by rw [Trail.read?, hCs])]
    rcases t.follow?_cases terminator with ⟨hStrip, hFollow⟩ | ⟨u, hFollow, hStrip, hOutcome⟩
    · rw [hCs] at hStrip
      simp [hFollow, splitAround?, splitAround?.go, hStrip]
    · rw [hCs] at hStrip
      simp [hFollow, splitAround?_of_some hStrip, hOutcome]
  | cons c cs ih =>
    rw [List.length_cons, Pattern.runs_cons hCs (mem_anything c), List.filterMap_cons]
    rcases t.follow?_cases terminator with ⟨hStrip, hFollow⟩ | ⟨u, hFollow, hStrip, hOutcome⟩
    · -- Not here, so the terminator is looked for from the next place on.
      rw [hCs] at hStrip
      have hMore := ih (t.step c cs) rfl rfl
      rw [hFollow]
      dsimp only
      rw [hMore, Trail.ahead_step, splitAround?_cons_of_none hStrip, Option.map_map, Option.map_map,
        Option.map_map]
      congr 1
      funext pieces
      show t.ahead (pieces.1.length + terminator.length + 1) =
        t.ahead (pieces.1.length + 1 + terminator.length)
      rw [Nat.add_right_comm]
    · rw [hCs] at hStrip
      simp [hFollow, splitAround?_of_some hStrip, hOutcome]

/-- The number of characters of the comment with a terminator at the front. -/
def delimitedLength? (style : Comment.Style) (cs : List Char) : Option Nat :=
  (stripStart? style.opening cs).bind fun body =>
    (splitAround? style.terminator body).map fun pieces =>
      style.opening.length + (pieces.1.length + style.terminator.length)

/-- A comment with a terminator ends with the first one. -/
theorem delimited_measures (style : Comment.Style) :
    (delimited style).Measures (delimitedLength? style) := by
  intro t
  rw [delimited, through, (nearest_measures style.terminator).after style.opening t,
    delimitedLength?]
  simp only [Option.map_map]
  rfl

/-- The rest of a line is measured up to the line end. -/
theorem line_measures :
    (Pattern.rep (.set (.compl (.single '\n'))) 0 none true).Measures fun body =>
      some (body.takeWhile (· != '\n')).length := by
  intro t
  have hRuns : (Pattern.rep (.set (.compl (.single '\n'))) 0 none true).reach [t] =
      (Pattern.runs (.compl (.single '\n')) 0 t.rest.length t).reverse := rfl
  -- The loop is greedy: the last place that it reaches is preferred.
  rw [hRuns, List.head?_reverse]
  generalize hCs : t.rest = cs
  induction cs generalizing t with
  | nil =>
    rw [Pattern.runs_stop (by rw [Trail.read?, hCs])]
    rfl
  | cons c cs ih =>
    by_cases hLine : c = '\n'
    · have hStop : t.read? (.compl (.single '\n')) = none := by
        simp [Trail.read?_cons hCs, CharSet.mem, CharSet.mem_single, hLine]
      rw [Pattern.runs_stop hStop]
      simp [hLine]
      rfl
    · have hMem : (CharSet.compl (.single '\n')).mem c = true := by
        simp [CharSet.mem, CharSet.mem_single, hLine]
      obtain ⟨u, hLast, hOutcome⟩ := Option.map_eq_some_iff.mp (ih (t.step c cs) rfl rfl)
      rw [List.length_cons, Pattern.runs_cons hCs hMem, List.getLast?_cons, hLast]
      dsimp only
      rw [List.takeWhile_cons_of_pos (by simpa using hLine)]
      rw [Trail.ahead_step] at hOutcome
      exact congrArg some hOutcome

/-- The number of characters of the comment to the end of the line at the front. -/
def lineLength? (opening cs : List Char) : Option Nat :=
  (stripStart? opening cs).map fun body =>
    opening.length + (body.takeWhile (· != '\n')).length

/-- A line comment ends with the line. -/
theorem toLineEnd_measures (opening : List Char) :
    (toLineEnd opening).Measures (lineLength? opening) := by
  intro t
  rw [toLineEnd, line_measures.after opening t, lineLength?]
  dsimp only
  cases stripStart? opening t.rest <;> rfl

/-! ## The patterns of the dialects -/

/-- The length of the text at the front that a dialect leaves alone. -/
def enclosedAt? : Dialect → List Char → Option Nat
  | cStyle, cs | markup, cs =>
    (enclosedLength? '"' true cs).or
      ((enclosedLength? '\'' true cs).or (enclosedLength? '`' false cs))
  | hash, cs => (enclosedLength? '"' true cs).or (enclosedLength? '\'' true cs)

/-- The length of the comment at the front. -/
def commentAt? : Dialect → List Char → Option Nat
  | cStyle, cs => (delimitedLength? .block cs).or (lineLength? Comment.lineOpening cs)
  | markup, cs =>
    (delimitedLength? .html cs).or
      ((delimitedLength? .block cs).or (lineLength? Comment.lineOpening cs))
  | hash, cs => lineLength? ['#'] cs

/-- The pattern for quoted texts finds what is enclosed. -/
theorem enclosedPattern_measures (d : Dialect) : d.enclosedPattern.Measures d.enclosedAt? := by
  have hDouble : (enclosed '"' (quotedStops '"')).Measures (enclosedLength? '"' true) :=
    enclosed_measures (mem_quotedStops '"') (by decide)
  have hSingle : (enclosed '\'' (quotedStops '\'')).Measures (enclosedLength? '\'' true) :=
    enclosed_measures (mem_quotedStops '\'') (by decide)
  have hTicks : (enclosed '`' tickedStops).Measures (enclosedLength? '`' false) :=
    enclosed_measures mem_tickedStops (by decide)
  cases d with
  | cStyle | markup => exact hDouble.alt (hSingle.alt hTicks)
  | hash => exact hDouble.alt hSingle

/-- The pattern for comments finds comments. -/
theorem commentPattern_measures (d : Dialect) : d.commentPattern.Measures d.commentAt? := by
  have hBlock := delimited_measures .block
  have hLine := toLineEnd_measures Comment.lineOpening
  cases d with
  | cStyle => exact hBlock.alt hLine
  | markup => exact (delimited_measures .html).alt (hBlock.alt hLine)
  | hash => exact toLineEnd_measures ['#']

/-- The run that a dialect finds at the front of a text: whether it is a comment, and its
length. -/
def front? (d : Dialect) (cs : List Char) : Option (Bool × Nat) :=
  ((d.enclosedAt? cs).map (false, ·)).or ((d.commentAt? cs).map (true, ·))

/-- The name under which a run is remembered. -/
def label (isComment : Bool) : String := if isComment then "comment" else "string"

/-- A run as it is found at an index. -/
def found (index : Nat) (run : Bool × Nat) : Pattern.Found :=
  ⟨index, index + run.2, [(label run.1, index, index + run.2)]⟩

/-- A named group remembers where its run starts and ends. -/
theorem head?_named {p : Pattern} {length? : List Char → Option Nat} (hp : p.Measures length?)
    (i : Nat) (isComment : Bool) (index : Nat) (before : Option Char) (cs : List Char) :
    ((Pattern.group i (some (label isComment)) p).reach
        [{ index, before, rest := cs }]).head?.map (fun u => ⟨index, u.index, u.groups⟩) =
      (length? cs).map fun count => found index (isComment, count) := by
  have hRun := hp { index, before, rest := cs }
  rw [Pattern.head?_group, Option.map_map]
  cases hLength : length? cs with
  | none =>
    rw [hLength] at hRun
    rw [Option.map_eq_none_iff.mp hRun]
    rfl
  | some count =>
    rw [hLength] at hRun
    obtain ⟨u, hHead, hOutcome⟩ := Option.map_eq_some_iff.mp hRun
    obtain ⟨hIndex, hGroups⟩ := Prod.mk.inj hOutcome
    have hIndex : u.index = index + count := hIndex
    have hGroups : u.groups = [] := hGroups
    simp [hHead, found, Trail.remember, hIndex, hGroups]

/-- What the pattern of a dialect finds at a place. -/
theorem at?_pattern (d : Dialect) (index : Nat) (before : Option Char) (cs : List Char) :
    d.pattern.at? { index, before, rest := cs } = (d.front? cs).map (found index) := by
  have hEnclosed := head?_named d.enclosedPattern_measures 1 false index before cs
  have hComment := head?_named d.commentPattern_measures 2 true index before cs
  rw [label, if_neg Bool.false_ne_true] at hEnclosed
  rw [label, if_pos rfl] at hComment
  rw [Pattern.at?, Pattern.ends, pattern_eq, Pattern.head?_alt, Option.map_or, front?,
    Option.map_or, hEnclosed, hComment, Option.map_map, Option.map_map]
  rfl

end Dialect

end CommentSieve
