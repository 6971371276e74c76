import CommentSieve.Pattern.Normal
import CommentSieve.Pattern.Search

/-!
# What a pattern means

The places that a pattern leads to are computed as lists in order of preference, in which
each place occurs once. What a pattern means does not depend on preferences: a sequence is
one part after the other, an alternative is one of the two, and a repetition is a number of
runs between its bounds. `Takes` says so, as a relation between places that is defined along
the pattern. What is computed is among what the pattern means, for every pattern, also for
loops that are explored with marks and with sets that are read in one go.

Main results:

* `takes_of_mem_reach` — a pattern leads only to places that it can take one to.
* `takes_concat` — the normal form of a sequence means its parts one after the other.
-/

namespace CommentSieve.Pattern

/-! ## The relation -/

/-- A number of steps. -/
def Times (step : Trail → Trail → Prop) : (count : Nat) → Trail → Trail → Prop
  | 0, t, u => u = t
  | count + 1, t, u => ∃ v, step t v ∧ Times step count v u

/-- Any number of steps. -/
def Often (step : Trail → Trail → Prop) (t u : Trail) : Prop := ∃ count, Times step count t u

/-- The places to which a pattern can take one from a place, whatever is preferred. -/
def Takes : Pattern → Trail → Trail → Prop
  | empty, t, u => u = t
  | chars cs, t, u => Trail.follow? cs t = some u
  | set s, t, u => t.read? s = some u
  | look l, t, u => l.holds t.before t.rest.head? = true ∧ u = t
  | group _ name p, t, u => ∃ v, p.Takes t v ∧ u = v.remember name t.index
  | seq p q, t, u => ∃ v, p.Takes t v ∧ q.Takes v u
  | alt p q, t, u => p.Takes t u ∨ q.Takes t u
  | rep p min max _, t, u =>
    ∃ count, min ≤ count ∧ (∀ limit ∈ max, count ≤ Nat.max min limit) ∧ Times p.Takes count t u

theorem takes_look {l : Look} {t u : Trail} :
    (look l).Takes t u ↔ l.holds t.before t.rest.head? = true ∧ u = t := Iff.rfl

theorem takes_seq {p q : Pattern} {t u : Trail} :
    (seq p q).Takes t u ↔ ∃ v, p.Takes t v ∧ q.Takes v u := Iff.rfl

theorem takes_alt {p q : Pattern} {t u : Trail} :
    (alt p q).Takes t u ↔ p.Takes t u ∨ q.Takes t u := Iff.rfl

theorem takes_group {i : Nat} {name : Option String} {p : Pattern} {t u : Trail} :
    (group i name p).Takes t u ↔ ∃ v, p.Takes t v ∧ u = v.remember name t.index := Iff.rfl

/-- Repetitions after repetitions are as many together. -/
theorem Times.add {step : Trail → Trail → Prop} {m n : Nat} {t u v : Trail}
    (h : Times step m t u) (h' : Times step n u v) : Times step (m + n) t v := by
  induction m generalizing t with
  | zero =>
    obtain rfl : u = t := h
    rwa [Nat.zero_add]
  | succ m ih =>
    obtain ⟨w, hStep, hMore⟩ := h
    rw [Nat.add_right_comm]
    exact ⟨w, hStep, ih hMore⟩

/-- Repetitions can be split into the first ones and the others. -/
theorem Times.split {step : Trail → Trail → Prop} {m n : Nat} {t v : Trail}
    (h : Times step (m + n) t v) : ∃ u, Times step m t u ∧ Times step n u v := by
  induction m generalizing t with
  | zero => exact ⟨t, rfl, by rwa [Nat.zero_add] at h⟩
  | succ m ih =>
    rw [Nat.add_right_comm] at h
    obtain ⟨w, hStep, hMore⟩ := h
    obtain ⟨u, hFirst, hRest⟩ := ih hMore
    exact ⟨u, ⟨w, hStep, hFirst⟩, hRest⟩

/-- A step that is weaker can be repeated as often. -/
theorem Times.mono {step step' : Trail → Trail → Prop} (hStep : ∀ t u, step t u → step' t u)
    {count : Nat} {t u : Trail} (h : Times step count t u) : Times step' count t u := by
  induction count generalizing t with
  | zero => exact h
  | succ count ih =>
    obtain ⟨v, hv, hMore⟩ := h
    exact ⟨v, hStep t v hv, ih hMore⟩

/-! ## Lists of places -/

/-- What is kept for a place was there before. -/
theorem mem_of_mem_firstPerPlace {seen : Nat} {ts : List Trail} {u : Trail}
    (h : u ∈ firstPerPlace seen ts) : u ∈ ts := by
  fun_induction firstPerPlace seen ts with
  | case1 => exact h
  | case2 seen t more _ ih => exact List.mem_cons_of_mem _ (ih h)
  | case3 seen t more _ ih =>
    rcases List.mem_cons.mp h with rfl | h
    · exact List.mem_cons_self ..
    · exact List.mem_cons_of_mem _ (ih h)

/-- What is reached is reached from one of the places. -/
theorem exists_of_mem_fromEach {f : Trail → List Trail} {ts : List Trail} {u : Trail}
    (h : u ∈ fromEach f ts) : ∃ t ∈ ts, u ∈ f t := by
  unfold fromEach at h
  split at h
  · simp at h
  · exact ⟨_, List.mem_singleton_self _, h⟩
  · exact List.mem_flatMap.mp (mem_of_mem_firstPerPlace h)

/-! ## Loops -/

/-- A step that a list of places allows. -/
def Among (body : Trail → List Trail) (t u : Trail) : Prop := u ∈ body t

/-- Exploring from several places adds only what is added from each of them. -/
theorem exists_of_mem_foldl {step : Sweep → Trail → Sweep} {R : Trail → Trail → Prop} {u : Trail}
    (hStep : ∀ w t, u ∈ (step w t).found → u ∈ w.found ∨ R t u) {ts : List Trail}
    {w : Sweep} (h : u ∈ (ts.foldl step w).found) : u ∈ w.found ∨ ∃ t ∈ ts, R t u := by
  -- Along the places, from any sweep, as each place finds what the ones before have added.
  induction ts generalizing w with
  | nil => exact .inl h
  | cons t ts ih =>
    rcases ih h with hu | ⟨v, hv, hu⟩
    · rcases hStep w t hu with hu | hu
      · exact .inl hu
      · exact .inr ⟨t, List.mem_cons_self .., hu⟩
    · exact .inr ⟨v, List.mem_cons_of_mem _ hv, hu⟩

/-- What is reached within a bound is reached by a number of steps within it. -/
theorem times_of_mem_upTo {body : Trail → List Trail} {greedy : Bool} {left : Nat} {t u : Trail}
    (h : u ∈ upTo body greedy left t) : ∃ count ≤ left, Times (Among body) count t u := by
  induction left generalizing t u with
  | zero =>
    obtain rfl : u = t := by simpa [upTo] using h
    exact ⟨0, Nat.le_refl _, rfl⟩
  | succ left ih =>
    -- One more repetition, and then as many as are left; or none at all.
    have hMore : ∀ v ∈ (body t).flatMap (upTo body greedy left),
        ∃ count ≤ left + 1, Times (Among body) count t v := by
      intro v hv
      obtain ⟨w, hw, hv⟩ := List.mem_flatMap.mp hv
      obtain ⟨count, hLe, hTimes⟩ := ih hv
      exact ⟨count + 1, Nat.succ_le_succ hLe, w, hw, hTimes⟩
    have hHere : ∃ count ≤ left + 1, Times (Among body) count t t := ⟨0, Nat.zero_le _, rfl⟩
    rw [upTo] at h
    have h := mem_of_mem_firstPerPlace h
    split at h
    · rcases List.mem_append.mp h with h | h
      · exact hMore u h
      · rwa [List.mem_singleton.mp h]
    · rcases List.mem_cons.mp h with rfl | h
      · exact hHere
      · exact hMore u h

/-- Exploring a loop from a place adds only places to which some runs of the body lead. -/
theorem often_of_mem_explore {body : Trail → List Trail} {greedy : Bool} {fuel : Nat}
    {w : Sweep} {t u : Trail} (h : u ∈ (explore body greedy fuel w t).found) :
    u ∈ w.found ∨ Often (Among body) t u := by
  induction fuel generalizing w t with
  | zero => exact .inl h
  | succ fuel ih =>
    have hHere : Often (Among body) t t := ⟨0, rfl⟩
    -- What is found from the places after one run is reached through it.
    have hMore : ∀ w : Sweep, u ∈ ((body t).foldl (explore body greedy fuel) w).found →
        u ∈ w.found ∨ Often (Among body) t u := by
      intro w hu
      rcases exists_of_mem_foldl (R := Often (Among body)) (fun w v hv => ih hv) hu with
        hu | ⟨v, hv, count, hTimes⟩
      · exact .inl hu
      · exact .inr ⟨count + 1, v, hv, hTimes⟩
    rw [explore] at h
    split at h
    · exact .inl h
    · split at h
      · rcases List.mem_cons.mp h with rfl | h
        · exact .inr hHere
        · exact hMore (w.mark t.index) h
      · rcases hMore ((w.mark t.index).emit t) h with h | h
        · rcases List.mem_cons.mp h with rfl | h
          · exact .inr hHere
          · exact .inl h
        · exact .inr h

/-- What a loop reaches is reached from one of the places by some number of steps. -/
theorem exists_of_mem_loop {body : Trail → List Trail} {greedy : Bool} {ts : List Trail}
    {u : Trail} (h : u ∈ loop body greedy ts) :
    ∃ t ∈ ts, Often (Among body) t u := by
  rcases exists_of_mem_foldl (R := Often (Among body)) (fun w t hu => often_of_mem_explore hu)
    (List.mem_reverse.mp h) with h | h
  · simp at h
  · exact h

/-! ## Loops over single characters -/

/-- The step over a character of a set. -/
def Reads (s : CharSet) (t u : Trail) : Prop := t.read? s = some u

/-- A run of members of a set reads one after the other. -/
theorem times_of_mem_runs {s : CharSet} {seen limit : Nat} {t u : Trail}
    (h : u ∈ runs s seen limit t) : ∃ count ≤ limit, Times (Reads s) count t u := by
  fun_induction runs s seen limit t with
  | case1 => simp at h
  | case2 t _ limit v hRead ih =>
    rcases List.mem_cons.mp h with rfl | h
    · exact ⟨0, Nat.zero_le _, rfl⟩
    · obtain ⟨count, hLe, hReads⟩ := ih h
      exact ⟨count + 1, Nat.succ_le_succ hLe, v, hRead, hReads⟩
  | case3 t =>
    obtain rfl := List.mem_singleton.mp h
    exact ⟨0, Nat.zero_le _, rfl⟩

/-- A run of members of a set reads one after the other, whether long or short runs are
preferred. -/
theorem times_of_mem_upToSet {s : CharSet} {greedy : Bool} {limit : Nat} {t u : Trail}
    (h : u ∈ upToSet s greedy limit t) : ∃ count ≤ limit, Times (Reads s) count t u := by
  unfold upToSet at h
  split at h
  · exact times_of_mem_runs (List.mem_reverse.mp h)
  · exact times_of_mem_runs h

/-- Exploring finds nothing that is not reached by members of the set. -/
theorem often_of_mem_exploreSet {s : CharSet} {greedy : Bool} {w : Sweep} {t u : Trail}
    (h : u ∈ (exploreSet s greedy w t).found) : u ∈ w.found ∨ Often (Reads s) t u := by
  have hRuns : ∀ v ∈ runs s w.seen t.rest.length t, Often (Reads s) t v := by
    intro v hv
    obtain ⟨count, -, hReads⟩ := times_of_mem_runs hv
    exact ⟨count, hReads⟩
  simp only [exploreSet] at h
  split at h
  · rcases List.mem_append.mp h with h | h
    · exact .inr (hRuns u h)
    · exact .inl h
  · rcases List.mem_append.mp h with h | h
    · exact .inr (hRuns u (List.mem_reverse.mp h))
    · exact .inl h

/-- A loop over a set finds nothing that is not reached by members of the set. -/
theorem exists_of_mem_loopSet {s : CharSet} {greedy : Bool} {ts : List Trail} {u : Trail}
    (h : u ∈ loopSet s greedy ts) : ∃ t ∈ ts, Often (Reads s) t u := by
  unfold loopSet at h
  split at h
  · simp at h
  · obtain ⟨count, -, hReads⟩ := times_of_mem_upToSet h
    exact ⟨_, List.mem_singleton_self _, count, hReads⟩
  · rcases exists_of_mem_foldl (R := Often (Reads s)) (fun w t hu => often_of_mem_exploreSet hu)
      (List.mem_reverse.mp h) with h | h
    · simp at h
    · exact h

/-! ## All patterns -/

section OneBody

variable {p : Pattern} (hp : ∀ ts, ∀ u ∈ p.reach ts, ∃ t ∈ ts, p.Takes t u)

include hp

theorem takes_of_mem_reach_singleton {t u : Trail} (h : u ∈ p.reach [t]) : p.Takes t u := by
  obtain ⟨w, hw, hTakes⟩ := hp [t] u h
  obtain rfl := List.mem_singleton.mp hw
  exact hTakes

/-- Several runs of a pattern one after the other. -/
theorem times_of_mem_exactly {count : Nat} {ts : List Trail} {u : Trail}
    (h : u ∈ exactly p.reach count ts) : ∃ t ∈ ts, Times p.Takes count t u := by
  induction count generalizing ts with
  | zero => exact ⟨u, h, rfl⟩
  | succ count ih =>
    cases ts with
    | nil => simp [exactly] at h
    | cons t ts =>
      rw [exactly] at h
      · obtain ⟨v, hv, hTimes⟩ := ih h
        obtain ⟨w, hw, hTakes⟩ := hp _ v hv
        exact ⟨w, hw, v, hTakes, hTimes⟩
      · simp

/-- However a repetition goes on, it starts with the runs that there have to be. -/
theorem exists_mem_exactly_of_mem_reach {min : Nat} {max : Option Nat} {greedy : Bool}
    {ts : List Trail} {u : Trail} (h : u ∈ (rep p min max greedy).reach ts) :
    ∃ v ∈ exactly p.reach min ts, ∃ count,
      (∀ limit ∈ max, count ≤ limit - min) ∧ Times p.Takes count v u := by
  have hBody : ∀ t u, Among (fun t => p.reach [t]) t u → p.Takes t u :=
    fun _ _ => takes_of_mem_reach_singleton hp
  unfold reach at h
  simp only at h
  split at h
  · obtain ⟨v, hv, count, hReads⟩ := exists_of_mem_loopSet h
    exact ⟨v, hv, count, by simp, hReads⟩
  · obtain ⟨v, hv, count, hTimes⟩ := exists_of_mem_loop h
    exact ⟨v, hv, count, by simp, hTimes.mono hBody⟩
  · obtain ⟨v, hv, hu⟩ := exists_of_mem_fromEach h
    obtain ⟨count, hLe, hReads⟩ := times_of_mem_upToSet hu
    exact ⟨v, hv, count, by simpa using hLe, hReads⟩
  · obtain ⟨v, hv, hu⟩ := exists_of_mem_fromEach h
    obtain ⟨count, hLe, hTimes⟩ := times_of_mem_upTo hu
    exact ⟨v, hv, count, by simpa using hLe, hTimes.mono hBody⟩

end OneBody

/-- A pattern leads only to places that it can take one to. -/
theorem takes_of_mem_reach (p : Pattern) :
    ∀ (ts : List Trail) (u : Trail), u ∈ p.reach ts → ∃ t ∈ ts, p.Takes t u := by
  induction p with
  | empty =>
    intro ts u h
    exact ⟨u, h, rfl⟩
  | chars cs =>
    intro ts u h
    exact List.mem_filterMap.mp h
  | set s =>
    intro ts u h
    exact List.mem_filterMap.mp h
  | look l =>
    intro ts u h
    obtain ⟨hu, hHolds⟩ := List.mem_filter.mp h
    exact ⟨u, hu, hHolds, rfl⟩
  | group i name p ih =>
    intro ts u h
    obtain ⟨t, ht, hu⟩ := exists_of_mem_fromEach h
    obtain ⟨v, hv, rfl⟩ := List.mem_map.mp hu
    exact ⟨t, ht, v, takes_of_mem_reach_singleton ih hv, rfl⟩
  | seq p q ihp ihq =>
    intro ts u h
    obtain ⟨v, hv, hTakes⟩ := ihq _ u h
    obtain ⟨t, ht, hTakes'⟩ := ihp ts v hv
    exact ⟨t, ht, v, hTakes', hTakes⟩
  | alt p q ihp ihq =>
    intro ts u h
    obtain ⟨t, ht, hu⟩ := exists_of_mem_fromEach h
    have hBoth : u ∈ p.reach [t] ∨ u ∈ q.reach [t] := by
      split at hu
      · exact .inr hu
      · exact List.mem_append.mp (mem_of_mem_firstPerPlace hu)
    rcases hBoth with hu | hu
    · exact ⟨t, ht, .inl (takes_of_mem_reach_singleton ihp hu)⟩
    · exact ⟨t, ht, .inr (takes_of_mem_reach_singleton ihq hu)⟩
  | rep p min max greedy ih =>
    intro ts u h
    obtain ⟨v, hv, count, hLimit, hMore⟩ := exists_mem_exactly_of_mem_reach ih h
    obtain ⟨t, ht, hTimes⟩ := times_of_mem_exactly ih hv
    refine ⟨t, ht, min + count, Nat.le_add_right _ _, fun limit hMax => ?_, hTimes.add hMore⟩
    -- A bound below the number of runs that there have to be allows just those.
    have hLe := hLimit limit hMax
    show min + count ≤ Nat.max min limit
    rcases Nat.le_total min limit with h | h
    · rw [show Nat.max min limit = limit from Nat.max_eq_right h]
      omega
    · rw [show Nat.max min limit = min from Nat.max_eq_left h]
      omega

theorem takes_of_mem_ends {p : Pattern} {t u : Trail} (h : u ∈ p.ends t) : p.Takes t u :=
  takes_of_mem_reach_singleton (takes_of_mem_reach p) h

/-! ## Sequences in normal form -/

/-- The parts of a sequence, one after the other. -/
def TakesAll : List Pattern → Trail → Trail → Prop
  | [], t, u => u = t
  | p :: ps, t, u => ∃ v, p.Takes t v ∧ TakesAll ps v u

/-- Parts are taken one after the other, the first ones and then the others. -/
theorem takesAll_append {ps qs : List Pattern} {t u : Trail} :
    TakesAll (ps ++ qs) t u ↔ ∃ v, TakesAll ps t v ∧ TakesAll qs v u := by
  induction ps generalizing t with
  | nil => simp [TakesAll]
  | cons p ps ih =>
    simp only [List.cons_append, TakesAll, ih]
    constructor
    · rintro ⟨w, hp, v, hps, hqs⟩
      exact ⟨v, ⟨w, hp, hps⟩, hqs⟩
    · rintro ⟨v, ⟨w, hp, hps⟩, hqs⟩
      exact ⟨w, hp, v, hps, hqs⟩

/-- A sequence that was put together takes its parts. -/
theorem takes_seqs {ps : List Pattern} {t u : Trail} : (seqs ps).Takes t u ↔ TakesAll ps t u := by
  induction ps generalizing t with
  | nil => rfl
  | cons p ps ih =>
    cases ps with
    | nil => simp [seqs, TakesAll]
    | cons q qs => simp only [seqs, Takes, TakesAll, ih]

/-- Taking a pattern apart changes nothing about what it takes. -/
theorem takesAll_elements {p : Pattern} {t u : Trail} :
    TakesAll p.elements t u ↔ p.Takes t u := by
  induction p generalizing t with
  | empty => rfl
  | seq p q _ ihq => simp only [elements, TakesAll, Takes, ihq]
  | _ => simp [elements, TakesAll]

/-- Fixed characters are taken one after the other. -/
theorem takes_chars_append {cs ds : List Char} {t u : Trail} :
    (chars (cs ++ ds)).Takes t u ↔ ∃ v, (chars cs).Takes t v ∧ (chars ds).Takes v u := by
  simp only [Takes]
  induction cs generalizing t with
  | nil => simp [Trail.follow?]
  | cons c cs ih =>
    rw [List.cons_append, Trail.follow?, Trail.follow?]
    split
    · simp
    · split
      · exact ih
      · simp

/-- Joining neighbouring characters changes nothing about what is taken. -/
theorem takesAll_joinChars {ps : List Pattern} {t u : Trail} :
    TakesAll (joinChars ps) t u ↔ TakesAll ps t u := by
  fun_induction joinChars ps generalizing t with
  | case1 => rfl
  | case2 cs more ds rest hMore ih =>
    rw [TakesAll, TakesAll]
    simp only [← ih, hMore, TakesAll, takes_chars_append]
    constructor
    · rintro ⟨w, ⟨v, hcs, hds⟩, hRest⟩
      exact ⟨v, hcs, w, hds, hRest⟩
    · rintro ⟨v, hcs, w, hds, hRest⟩
      exact ⟨w, ⟨v, hcs, hds⟩, hRest⟩
  | case3 cs more _ ih => simp only [TakesAll, ih]
  | case4 p more _ ih => simp only [TakesAll, ih]

/-- The normal form of a sequence means its parts one after the other. -/
theorem takes_concat {ps : List Pattern} {t u : Trail} :
    (concat ps).Takes t u ↔ TakesAll ps t u := by
  rw [concat, takes_seqs, takesAll_joinChars]
  induction ps generalizing t with
  | nil => rfl
  | cons p ps ih =>
    rw [List.flatMap_cons, takesAll_append, TakesAll]
    simp only [takesAll_elements, ih]

/-- Alternatives that were put together take what one of them takes. -/
theorem takes_alts {ps : List Pattern} (hps : ps ≠ []) {t u : Trail} :
    (alts ps).Takes t u ↔ ∃ p ∈ ps, p.Takes t u := by
  induction ps with
  | nil => exact absurd rfl hps
  | cons p ps ih =>
    cases ps with
    | nil => simp [alts]
    | cons q qs => simp [alts, Takes, ih (List.cons_ne_nil q qs)]

end CommentSieve.Pattern
