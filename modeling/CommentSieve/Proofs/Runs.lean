import CommentSieve.Proofs.Meaning

/-!
# Runs of a pattern lie in the text

Every place that a pattern leads to lies further on in the text, or at the same place if
the pattern can be empty. So a run that is found is a piece of the text; and as the search
goes on where the last run ended, the runs found in a text follow each other. Cutting the
text along them loses nothing.

All this is proved for the search from place to place, which is how patterns with plain
loops are looked for.

Main results:

* `reaches_of_mem_reach` — a pattern leads on in the text, further on unless it can be
  empty.
* `ascending_findAllFrom` — the runs found follow each other.
* `flatMap_text_segmentsFrom` — a text cut along runs loses nothing.
* `segmentsFrom_cons` — along runs that follow each other the pieces are what was found.
-/

namespace CommentSieve.Pattern

/-- Reading some characters leads from one place to another. -/
def Trail.Reaches (t u : Trail) : Prop :=
  ∃ read, t.rest = read ++ u.rest ∧ u.index = t.index + read.length ∧
    u.before = read.getLast?.or t.before

namespace Trail

theorem Reaches.rfl {t : Trail} : t.Reaches t := ⟨[], by simp, by simp, by simp⟩

/-- Reading on and on is reading on. -/
theorem Reaches.trans {t u v : Trail} (h : t.Reaches u) (h' : u.Reaches v) : t.Reaches v := by
  obtain ⟨read, hRest, hIndex, hBefore⟩ := h
  obtain ⟨read', hRest', hIndex', hBefore'⟩ := h'
  refine ⟨read ++ read', ?_, ?_, ?_⟩
  · rw [hRest, hRest', List.append_assoc]
  · rw [hIndex', hIndex, List.length_append, Nat.add_assoc]
  · rw [hBefore', hBefore, List.getLast?_append, Option.or_assoc]

theorem Reaches.index_le {t u : Trail} (h : t.Reaches u) : t.index ≤ u.index := by
  obtain ⟨read, -, hIndex, -⟩ := h
  omega

@[simp] theorem index_step (t : Trail) (c : Char) (cs : List Char) :
    (t.step c cs).index = t.index + 1 := rfl

theorem reaches_step {t : Trail} {c : Char} {cs : List Char} (h : t.rest = c :: cs) :
    t.Reaches (t.step c cs) := ⟨[c], h, rfl, rfl⟩

/-- Reading a member of a set reads one character. -/
theorem reaches_of_read? {s : CharSet} {t u : Trail} (h : t.read? s = some u) :
    t.Reaches u ∧ t.index < u.index := by
  unfold read? at h
  split at h
  · simp at h
  · rename_i c cs hRest
    split at h
    · obtain rfl := Option.some.inj h
      exact ⟨reaches_step hRest, Nat.lt_succ_self _⟩
    · simp at h

/-- Following a run reads as many characters as it has. -/
theorem reaches_of_follow? {ds : List Char} {t u : Trail} (h : follow? ds t = some u) :
    t.Reaches u ∧ u.index = t.index + ds.length := by
  induction ds generalizing t with
  | nil =>
    obtain rfl := Option.some.inj h
    exact ⟨.rfl, rfl⟩
  | cons d ds ih =>
    unfold follow? at h
    split at h
    · simp at h
    · rename_i c cs hRest
      split at h
      · obtain ⟨hReaches, hIndex⟩ := ih h
        refine ⟨(reaches_step hRest).trans hReaches, ?_⟩
        rw [hIndex, List.length_cons, index_step]
        omega
      · simp at h

theorem reaches_remember {t u : Trail} (h : t.Reaches u) (name : Option String) (start : Nat) :
    t.Reaches (u.remember name start) := by
  cases name <;> exact h

@[simp] theorem index_remember (t : Trail) (name : Option String) (start : Nat) :
    (t.remember name start).index = t.index := by
  cases name <;> rfl

end Trail

/-! ## All patterns -/

/-- Steps that read on do so together. -/
theorem reaches_of_times {step : Trail → Trail → Prop} (hStep : ∀ t u, step t u → t.Reaches u)
    {count : Nat} {t u : Trail} (h : Times step count t u) : t.Reaches u := by
  induction count generalizing t with
  | zero =>
    obtain rfl : u = t := h
    exact .rfl
  | succ count ih =>
    obtain ⟨v, hv, hMore⟩ := h
    exact (hStep t v hv).trans (ih hMore)

/-- A pattern takes one on in the text, further on unless it can be empty. -/
theorem reaches_of_takes (p : Pattern) {t u : Trail} (h : p.Takes t u) :
    t.Reaches u ∧ (p.nullable = false → t.index < u.index) := by
  induction p generalizing t u with
  | empty =>
    obtain rfl : u = t := h
    exact ⟨.rfl, by simp [nullable]⟩
  | chars cs =>
    obtain ⟨hReaches, hIndex⟩ := Trail.reaches_of_follow? h
    refine ⟨hReaches, fun hNull => ?_⟩
    have hPos : 0 < cs.length := by
      cases cs with
      | nil => simp [nullable] at hNull
      | cons c cs => simp
    omega
  | set s =>
    obtain ⟨hReaches, hLt⟩ := Trail.reaches_of_read? h
    exact ⟨hReaches, fun _ => hLt⟩
  | look l =>
    obtain ⟨-, rfl⟩ := h
    exact ⟨.rfl, by simp [nullable]⟩
  | group i name p ih =>
    obtain ⟨v, hv, rfl⟩ := h
    obtain ⟨hReaches, hLt⟩ := ih hv
    refine ⟨Trail.reaches_remember hReaches .., fun hNull => ?_⟩
    rw [Trail.index_remember]
    exact hLt hNull
  | seq p q ihp ihq =>
    obtain ⟨v, hp, hq⟩ := h
    obtain ⟨hReaches, hLt⟩ := ihp hp
    obtain ⟨hReaches', hLt'⟩ := ihq hq
    refine ⟨hReaches.trans hReaches', fun hNull => ?_⟩
    -- One of the parts reads something, and the other one does not go back.
    have hv := hReaches.index_le
    have hu := hReaches'.index_le
    rcases Bool.and_eq_false_iff.mp hNull with hp | hq
    · have := hLt hp
      omega
    · have := hLt' hq
      omega
  | alt p q ihp ihq =>
    rcases h with h | h
    · obtain ⟨hReaches, hLt⟩ := ihp h
      exact ⟨hReaches, fun hNull => hLt (Bool.or_eq_false_iff.mp hNull).1⟩
    · obtain ⟨hReaches, hLt⟩ := ihq h
      exact ⟨hReaches, fun hNull => hLt (Bool.or_eq_false_iff.mp hNull).2⟩
  | rep p min max greedy ih =>
    obtain ⟨count, hMin, -, hTimes⟩ := h
    refine ⟨reaches_of_times (fun t u h => (ih h).1) hTimes, fun hNull => ?_⟩
    -- The first run reads something, and no later one goes back.
    obtain ⟨hZero, hp⟩ := Bool.or_eq_false_iff.mp hNull
    cases count with
    | zero => simp at hZero; omega
    | succ count =>
      obtain ⟨v, hv, hMore⟩ := hTimes
      have hRest := reaches_of_times (fun t u h => (ih h).1) hMore
      exact Nat.lt_of_lt_of_le ((ih hv).2 hp) hRest.index_le

/-- A place that a pattern leads to from one of several places; further on if the pattern
cannot be empty. -/
def Leads (p : Pattern) (ts : List Trail) (u : Trail) : Prop :=
  ∃ t ∈ ts, t.Reaches u ∧ (p.nullable = false → t.index < u.index)

/-- A pattern leads on in the text, further on unless it can be empty. -/
theorem reaches_of_mem_reach (p : Pattern) :
    ∀ (ts : List Trail) (u : Trail), u ∈ p.reach ts → p.Leads ts u := by
  intro ts u h
  obtain ⟨t, ht, hTakes⟩ := takes_of_mem_reach p ts u h
  exact ⟨t, ht, reaches_of_takes p hTakes⟩

/-! ## The runs found in a text -/

/-- Runs that follow each other from an index on and end by another, none of them empty. -/
def Ascending (index stop : Nat) : List Found → Prop
  | [] => True
  | f :: more => index ≤ f.start ∧ f.start < f.stop ∧ f.stop ≤ stop ∧ Ascending f.stop stop more

/-- What matches at a place starts there and is not empty. -/
theorem bounds_of_at? {p : Pattern} (hp : p.nullable = false) {t : Trail} {f : Found}
    (h : p.at? t = some f) :
    f.start = t.index ∧ t.index < f.stop ∧ f.stop ≤ t.index + t.rest.length := by
  obtain ⟨u, hu, rfl⟩ := Option.map_eq_some_iff.mp h
  have hTakes := takes_of_mem_ends (List.mem_of_mem_head? hu)
  obtain ⟨⟨read, hRest, hIndex, -⟩, hLt⟩ := reaches_of_takes p hTakes
  refine ⟨rfl, hLt hp, ?_⟩
  show u.index ≤ t.index + t.rest.length
  rw [hRest, List.length_append, hIndex]
  omega

/-- What is found lies in the text that is searched, and is not empty. -/
theorem bounds_of_searchFrom {p : Pattern} (hp : p.nullable = false) {index : Nat}
    {before : Option Char} {cs : List Char} {f : Found}
    (h : p.searchFrom index before cs = some f) :
    index ≤ f.start ∧ f.start < f.stop ∧ f.stop ≤ index + cs.length := by
  fun_induction searchFrom p index before cs with
  | case1 index before =>
    obtain ⟨hStart, hLt, hLe⟩ := bounds_of_at? hp h
    exact ⟨Nat.le_of_eq hStart.symm, hStart ▸ hLt, hLe⟩
  | case2 index before c cs found hFound =>
    obtain rfl := Option.some.inj h
    obtain ⟨hStart, hLt, hLe⟩ := bounds_of_at? hp hFound
    exact ⟨Nat.le_of_eq hStart.symm, hStart ▸ hLt, hLe⟩
  | case3 index before c cs _ ih =>
    obtain ⟨hStart, hLt, hLe⟩ := ih h
    rw [List.length_cons]
    exact ⟨by omega, hLt, by omega⟩

/-! ### Searching on, one place at a time -/

section FindAll

variable {p : Pattern} {last : Option Nat} {index : Nat} {before : Option Char} {c : Char}
  {cs : List Char}

/-- Where nothing is left to read nothing is found. -/
theorem findAllFrom_nil (hp : p.nullable = false) :
    (Searcher.direct p).findAllFrom last index before [] = [] := by
  have hNone : p.searchFrom index before [] = none := by
    rw [Option.eq_none_iff_forall_ne_some]
    intro f hf
    obtain ⟨hStart, hLt, hLe⟩ := bounds_of_searchFrom hp hf
    rw [List.length_nil] at hLe
    omega
  simp [Searcher.findAllFrom, Searcher.search, hNone]

/-- Inside of the last run nothing is looked for. -/
theorem findAllFrom_inside (h : index < last.getD 0) :
    (Searcher.direct p).findAllFrom last index before (c :: cs) =
      (Searcher.direct p).findAllFrom last (index + 1) (some c) cs := by
  cases last with
  | none => simp at h
  | some stop => rw [Searcher.findAllFrom, if_pos (by simpa using h)]

theorem not_any_lt (h : last.getD 0 ≤ index) : ¬ last.any (index < ·) = true := by
  cases last with
  | none => simp
  | some stop => simpa using h

theorem findAllFrom_of_none (hLast : last.getD 0 ≤ index)
    (h : p.searchFrom index before (c :: cs) = none) :
    (Searcher.direct p).findAllFrom last index before (c :: cs) = [] := by
  rw [Searcher.findAllFrom, if_neg (not_any_lt hLast), Searcher.search, h]

/-- A run that is found is not empty, and the search goes on where it ends. -/
theorem findAllFrom_of_some (hp : p.nullable = false) (hLast : last.getD 0 ≤ index) {f : Found}
    (h : p.searchFrom index before (c :: cs) = some f) :
    (Searcher.direct p).findAllFrom last index before (c :: cs) =
      f :: (Searcher.direct p).findAllFrom (some f.stop) (index + 1) (some c) cs := by
  obtain ⟨-, hLt, -⟩ := bounds_of_searchFrom hp h
  have hFull : f.isEmpty = false := by
    rw [Found.isEmpty, beq_eq_false_iff_ne]
    omega
  rw [Searcher.findAllFrom, if_neg (not_any_lt hLast), Searcher.search, h]
  dsimp only
  rw [hFull, Bool.false_and, if_neg Bool.false_ne_true]

end FindAll

/-- The runs found in a text follow each other. -/
theorem ascending_findAllFrom {p : Pattern} (hp : p.nullable = false) (last : Option Nat)
    (index : Nat) (before : Option Char) (cs : List Char) :
    Ascending (max index (last.getD 0)) (index + cs.length)
      ((Searcher.direct p).findAllFrom last index before cs) := by
  induction cs generalizing last index before with
  | nil =>
    rw [findAllFrom_nil hp]
    trivial
  | cons c cs ih =>
    rw [List.length_cons, show index + (cs.length + 1) = index + 1 + cs.length by omega]
    rcases Nat.lt_or_ge index (last.getD 0) with hInside | hLast
    · -- The search passes over the place, and the next run cannot start before the same end.
      have hRest := ih last (index + 1) (some c)
      rw [show max (index + 1) (last.getD 0) = max index (last.getD 0) by omega] at hRest
      rwa [findAllFrom_inside hInside]
    · rw [Nat.max_eq_left hLast]
      cases hSearch : p.searchFrom index before (c :: cs) with
      | none =>
        rw [findAllFrom_of_none hLast hSearch]
        trivial
      | some f =>
        obtain ⟨hStart, hLt, hLe⟩ := bounds_of_searchFrom hp hSearch
        rw [List.length_cons] at hLe
        have hRest := ih (some f.stop) (index + 1) (some c)
        rw [Option.getD_some, show max (index + 1) f.stop = f.stop by omega] at hRest
        rw [findAllFrom_of_some hp hLast hSearch]
        exact ⟨hStart, hLt, by omega, hRest⟩

/-! ## Cutting a text along runs -/

/-- The characters of a piece. -/
def Segment.text : Segment → List Char
  | plain text => text
  | run _ text => text

/-- A text cut along runs loses nothing. -/
theorem flatMap_text_segmentsFrom (index : Nat) (text : List Char) (fs : List Found) :
    (segmentsFrom index text fs).flatMap Segment.text = text := by
  induction fs generalizing index text with
  | nil => simp [segmentsFrom, Segment.text]
  | cons f fs ih =>
    simp only [segmentsFrom, List.flatMap_cons, Segment.text, ih, List.splitAt_eq]
    rw [List.take_append_drop, List.take_append_drop]

/-- Cutting a text along runs that follow each other, the first run: what stands before it,
the run, which is not empty, and what stands after it. -/
theorem segmentsFrom_cons {index : Nat} {text : List Char} {f : Found} {fs : List Found}
    (h : Ascending index (index + text.length) (f :: fs)) :
    ∃ gap body rest, text = gap ++ (body ++ rest) ∧ index + gap.length = f.start ∧
      f.start + body.length = f.stop ∧ body ≠ [] ∧
      segmentsFrom index text (f :: fs) =
        .plain gap :: .run f body :: segmentsFrom f.stop rest fs ∧
      Ascending f.stop (f.stop + rest.length) fs := by
  obtain ⟨hStart, hLt, hStop, hMore⟩ := h
  -- The run lies inside the text and after the index, so that both cuts are where they should be.
  have hGap : index + (text.take (f.start - index)).length = f.start := by
    rw [List.length_take]
    omega
  have hBody : f.start + ((text.drop (f.start - index)).take (f.stop - f.start)).length =
      f.stop := by
    rw [List.length_take, List.length_drop]
    omega
  have hRest : f.stop + ((text.drop (f.start - index)).drop (f.stop - f.start)).length =
      index + text.length := by
    rw [List.length_drop, List.length_drop]
    omega
  refine ⟨_, _, _, ?_, hGap, hBody, ?_, ?_, hRest ▸ hMore⟩
  · rw [List.take_append_drop, List.take_append_drop]
  · rw [← List.length_pos_iff]
    omega
  · rw [segmentsFrom, List.splitAt_eq, List.splitAt_eq]

end CommentSieve.Pattern
