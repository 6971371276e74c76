import CommentSieve.Proofs.Runs

/-!
# What a pattern means is found

A pattern without loops leads to every place that it can take one to. Of several ways to a
place only the preferred one is kept; they differ in what they remember and in nothing else,
as all of them have come to the same place of the same text, so that whatever follows can
follow the one that is kept.

Main results:

* `exists_mem_reach` — a place that a pattern without loops can take one to is listed.
* `takes_of_samePlace` — a pattern does not look at what is remembered.
-/

namespace CommentSieve.Pattern

namespace Trail

/-- Trails that differ at most in what they remember. -/
def SamePlace (t u : Trail) : Prop := t.index = u.index ∧ t.before = u.before ∧ t.rest = u.rest

theorem SamePlace.remember {t u : Trail} (h : t.SamePlace u) (name : Option String)
    (start start' : Nat) : (t.remember name start).SamePlace (u.remember name start') := by
  cases name <;> exact h

theorem SamePlace.step {t u : Trail} (h : t.SamePlace u) (c : Char) (cs : List Char) :
    (t.step c cs).SamePlace (u.step c cs) :=
  ⟨congrArg (· + 1) h.1, Eq.refl _, Eq.refl _⟩

/-- Whether a trail has come to a place of a text. -/
def IsIn (text : List Char) (t : Trail) : Prop :=
  ∃ passed, text = passed ++ t.rest ∧ t.index = passed.length ∧ t.before = passed.getLast?

/-- Reading on stays within the text. -/
theorem IsIn.of_reaches {text : List Char} {t u : Trail} (ht : t.IsIn text)
    (h : t.Reaches u) : u.IsIn text := by
  obtain ⟨passed, hText, hIndex, hBefore⟩ := ht
  obtain ⟨read, hRest, hIndex', hBefore'⟩ := h
  refine ⟨passed ++ read, ?_, ?_, ?_⟩
  · rw [hText, hRest, List.append_assoc]
  · rw [hIndex', hIndex, List.length_append]
  · rw [hBefore', hBefore, List.getLast?_append]

/-- In a text, an index is a place. -/
theorem IsIn.samePlace {text : List Char} {t u : Trail} (ht : t.IsIn text) (hu : u.IsIn text)
    (h : t.index = u.index) : t.SamePlace u := by
  obtain ⟨passed, hText, hIndex, hBefore⟩ := ht
  obtain ⟨passed', hText', hIndex', hBefore'⟩ := hu
  -- Fronts of one text that are of the same length are the same.
  obtain ⟨rfl, hRest⟩ := List.append_inj (hText.symm.trans hText') (by omega)
  exact ⟨h, hBefore.trans hBefore'.symm, hRest⟩

end Trail

/-! ## Remembering does not matter -/

/-- From the same place the same run can be followed, to the same place. -/
theorem follow?_of_samePlace {cs : List Char} {t t' u : Trail} (ht : t.SamePlace t')
    (h : Trail.follow? cs t = some u) : ∃ u', Trail.follow? cs t' = some u' ∧ u.SamePlace u' := by
  induction cs generalizing t t' with
  | nil =>
    obtain rfl := Option.some.inj h
    exact ⟨t', rfl, ht⟩
  | cons d ds ih =>
    unfold Trail.follow? at h ⊢
    rw [← ht.2.2]
    split at h
    · simp at h
    · split at h
      · rename_i hSame
        rw [if_pos hSame]
        exact ih (ht.step _ _) h
      · simp at h

/-- From the same place the same set can be read, to the same place. -/
theorem read?_of_samePlace {s : CharSet} {t t' u : Trail} (ht : t.SamePlace t')
    (h : t.read? s = some u) : ∃ u', t'.read? s = some u' ∧ u.SamePlace u' := by
  unfold Trail.read? at h ⊢
  rw [← ht.2.2]
  split at h
  · simp at h
  · split at h
    · rename_i hMem
      obtain rfl := Option.some.inj h
      exact ⟨_, if_pos hMem, ht.step _ _⟩
    · simp at h

/-- What a step does from the same place, many steps do. -/
theorem times_of_samePlace {step : Trail → Trail → Prop}
    (hStep : ∀ {t t' u : Trail}, t.SamePlace t' → step t u → ∃ u', step t' u' ∧ u.SamePlace u')
    {count : Nat} {t t' u : Trail} (ht : t.SamePlace t') (h : Times step count t u) :
    ∃ u', Times step count t' u' ∧ u.SamePlace u' := by
  induction count generalizing t t' with
  | zero =>
    obtain rfl : u = t := h
    exact ⟨t', rfl, ht⟩
  | succ count ih =>
    obtain ⟨v, hv, hMore⟩ := h
    obtain ⟨v', hv', hSame⟩ := hStep ht hv
    obtain ⟨u', hu', hSame'⟩ := ih hSame hMore
    exact ⟨u', ⟨v', hv', hu'⟩, hSame'⟩

/-- A pattern does not look at what is remembered. -/
theorem takes_of_samePlace (p : Pattern) {t t' u : Trail} (ht : t.SamePlace t')
    (h : p.Takes t u) : ∃ u', p.Takes t' u' ∧ u.SamePlace u' := by
  -- What a pattern takes depends on the place alone, not on the runs remembered.
  induction p generalizing t t' u with
  | empty =>
    obtain rfl : u = t := h
    exact ⟨t', rfl, ht⟩
  | chars cs => exact follow?_of_samePlace ht h
  | set s => exact read?_of_samePlace ht h
  | look l =>
    obtain ⟨hHolds, rfl⟩ := h
    exact ⟨t', ⟨ht.2.1 ▸ ht.2.2 ▸ hHolds, rfl⟩, ht⟩
  | group i name p ih =>
    obtain ⟨v, hv, rfl⟩ := h
    obtain ⟨v', hv', hSame⟩ := ih ht hv
    exact ⟨_, ⟨v', hv', rfl⟩, hSame.remember ..⟩
  | seq p q ihp ihq =>
    obtain ⟨v, hp, hq⟩ := h
    obtain ⟨v', hp', hSame⟩ := ihp ht hp
    obtain ⟨u', hq', hSame'⟩ := ihq hSame hq
    exact ⟨u', ⟨v', hp', hq'⟩, hSame'⟩
  | alt p q ihp ihq =>
    rcases h with h | h
    · obtain ⟨u', hu', hSame⟩ := ihp ht h
      exact ⟨u', .inl hu', hSame⟩
    · obtain ⟨u', hu', hSame⟩ := ihq ht h
      exact ⟨u', .inr hu', hSame⟩
  | rep p min max greedy ih =>
    obtain ⟨count, hMin, hMax, hTimes⟩ := h
    obtain ⟨u', hu', hSame⟩ := times_of_samePlace ih ht hTimes
    exact ⟨u', ⟨count, hMin, hMax, hu'⟩, hSame⟩

/-! ## Lists of places -/

/-- One trail is kept for every place that was not seen before. -/
theorem exists_mem_firstPerPlace {ts : List Trail} {t : Trail} (ht : t ∈ ts) {seen : Nat}
    (hSeen : seen.testBit t.index = false) :
    ∃ u ∈ firstPerPlace seen ts, u.index = t.index := by
  -- Only marked places are dropped, and the place is not marked before one like it is kept.
  fun_induction firstPerPlace seen ts with
  | case1 => simp at ht
  | case2 seen v more hOld ih =>
    rcases List.mem_cons.mp ht with rfl | ht
    · rw [hSeen] at hOld
      exact absurd hOld (by simp)
    · exact ih ht hSeen
  | case3 seen v more hNew ih =>
    by_cases hSame : v.index = t.index
    · exact ⟨v, List.mem_cons_self .., hSame⟩
    · have hOther : (1 <<< v.index).testBit t.index = false := by
        rw [Nat.one_shiftLeft, Nat.testBit_two_pow, decide_eq_false_iff_not]
        exact hSame
      have ht : t ∈ more := by
        rcases List.mem_cons.mp ht with rfl | ht
        · exact absurd rfl hSame
        · exact ht
      obtain ⟨u, hu, hIndex⟩ := ih ht (by rw [Nat.testBit_or, hSeen, hOther]; rfl)
      exact ⟨u, List.mem_cons_of_mem _ hu, hIndex⟩

/-- Of the places reached from each of several places none is lost. -/
theorem exists_mem_fromEach {f : Trail → List Trail} {ts : List Trail} {t u : Trail} (ht : t ∈ ts)
    (hu : u ∈ f t) : ∃ v ∈ fromEach f ts, v.index = u.index := by
  unfold fromEach
  split
  · simp at ht
  · obtain rfl := List.mem_singleton.mp ht
    exact ⟨u, hu, rfl⟩
  · exact exists_mem_firstPerPlace (List.mem_flatMap.mpr ⟨t, ht, hu⟩) (Nat.zero_testBit _)

theorem isIn_of_mem_reach {p : Pattern} {text : List Char} {ts : List Trail}
    (hts : ∀ t ∈ ts, t.IsIn text) {u : Trail} (hu : u ∈ p.reach ts) : u.IsIn text := by
  obtain ⟨t, ht, hReaches, -⟩ := reaches_of_mem_reach p ts u hu
  exact (hts t ht).of_reaches hReaches

/-- Repetitions of a pattern reach no place outside of the text. -/
theorem isIn_of_mem_exactly {p : Pattern} {text : List Char} {count : Nat} {ts : List Trail}
    (hts : ∀ t ∈ ts, t.IsIn text) {u : Trail} (hu : u ∈ exactly p.reach count ts) :
    u.IsIn text := by
  obtain ⟨t, ht, hTimes⟩ := times_of_mem_exactly (takes_of_mem_reach p) hu
  exact (hts t ht).of_reaches (reaches_of_times (fun t u h => (reaches_of_takes p h).1) hTimes)

theorem forall_mem_singleton_isIn {text : List Char} {t : Trail} (h : t.IsIn text) :
    ∀ u ∈ [t], u.IsIn text := by
  intro u hu
  exact List.mem_singleton.mp hu ▸ h

/-! ## Repetition -/

/-- Every number of members of a set that is allowed is among the runs. -/
theorem mem_runs_of_times {s : CharSet} {count limit : Nat} {t u : Trail} (hLe : count ≤ limit)
    (h : Times (Reads s) count t u) : u ∈ runs s 0 limit t := by
  induction count generalizing limit t with
  | zero =>
    obtain rfl : u = t := h
    unfold runs
    rw [Nat.zero_testBit, if_neg Bool.false_ne_true]
    split
    · exact List.mem_cons_self ..
    · exact List.mem_singleton_self _
  | succ count ih =>
    obtain ⟨v, hv, hMore⟩ := h
    obtain ⟨limit, rfl⟩ : ∃ n, limit = n + 1 := ⟨limit - 1, by omega⟩
    have hMem := ih (Nat.le_of_succ_le_succ hLe) hMore
    unfold runs
    rw [Nat.zero_testBit, if_neg Bool.false_ne_true, show t.read? s = some v from hv]
    exact List.mem_cons_of_mem _ hMem

/-- Every number of members that is allowed is among the runs, whether long or short runs are
preferred. -/
theorem mem_upToSet_of_times {s : CharSet} {greedy : Bool} {count limit : Nat} {t u : Trail}
    (hLe : count ≤ limit) (h : Times (Reads s) count t u) : u ∈ upToSet s greedy limit t := by
  have hMem := mem_runs_of_times hLe h
  unfold upToSet
  split
  · exact List.mem_reverse.mpr hMem
  · exact hMem

/-- In a text, what is reached at an index is at the same place as what is taken up to there. -/
theorem samePlace_of_mem_reach {p : Pattern} {text : List Char} {ts : List Trail}
    (hts : ∀ t ∈ ts, t.IsIn text) {t v v' : Trail} (ht : t ∈ ts) (hTakes : p.Takes t v)
    (hv' : v' ∈ p.reach ts) (hIndex : v'.index = v.index) : v.SamePlace v' :=
  have hv := (hts t ht).of_reaches (reaches_of_takes p hTakes).1
  hv.samePlace (isIn_of_mem_reach hts hv') hIndex.symm

/-- In a text, what repetitions reach at an index is at the same place as what is taken up to
there. -/
theorem samePlace_of_mem_exactly {p : Pattern} {text : List Char} {count : Nat} {ts : List Trail}
    (hts : ∀ t ∈ ts, t.IsIn text) {t v v' : Trail} (ht : t ∈ ts) (hTimes : Times p.Takes count t v)
    (hv' : v' ∈ exactly p.reach count ts) (hIndex : v'.index = v.index) : v.SamePlace v' :=
  have hv := (hts t ht).of_reaches (reaches_of_times (fun _ _ h => (reaches_of_takes p h).1) hTimes)
  hv.samePlace (isIn_of_mem_exactly hts hv') hIndex.symm

section Bounded

variable {p : Pattern} {text : List Char}
  (hp : ∀ {ts : List Trail}, (∀ t ∈ ts, t.IsIn text) → ∀ {t u : Trail}, t ∈ ts → p.Takes t u →
    ∃ v ∈ p.reach ts, v.index = u.index)

include hp

/-- After the place in a list there is another one with the same index, from which one can go
on in the same way. -/
theorem exists_mem_reach_times {ts : List Trail} (hts : ∀ t ∈ ts, t.IsIn text) {t v u : Trail}
    (ht : t ∈ ts) (hTakes : p.Takes t v) {count : Nat} (hMore : Times p.Takes count v u) :
    ∃ v' ∈ p.reach ts, ∃ u', Times p.Takes count v' u' ∧ u'.index = u.index := by
  obtain ⟨v', hv', hIndex⟩ := hp hts ht hTakes
  have hSame := samePlace_of_mem_reach hts ht hTakes hv' hIndex
  obtain ⟨u', hu', hSame'⟩ := times_of_samePlace (takes_of_samePlace p) hSame hMore
  exact ⟨v', hv', u', hu', hSame'.1.symm⟩

/-- What a number of repetitions takes is reached by as many. -/
theorem exists_mem_exactly {count : Nat} {ts : List Trail} (hts : ∀ t ∈ ts, t.IsIn text)
    {t u : Trail} (ht : t ∈ ts) (h : Times p.Takes count t u) :
    ∃ v ∈ exactly p.reach count ts, v.index = u.index := by
  induction count generalizing ts t u with
  | zero =>
    obtain rfl : u = t := h
    exact ⟨u, ht, rfl⟩
  | succ count ih =>
    obtain ⟨v, hv, hMore⟩ := h
    obtain ⟨v', hv', u', hu', hIndex⟩ := exists_mem_reach_times hp hts ht hv hMore
    cases ts with
    | nil => simp at ht
    | cons t₀ ts =>
      rw [exactly]
      · obtain ⟨w, hw, hIndex'⟩ := ih (fun v hv => isIn_of_mem_reach hts hv) hv' hu'
        exact ⟨w, hw, hIndex'.trans hIndex⟩
      · simp

/-- What no more repetitions than allowed take is reached, in either order of preference. -/
theorem exists_mem_upTo {greedy : Bool} {count left : Nat} (hLe : count ≤ left) {t u : Trail}
    (ht : t.IsIn text) (h : Times p.Takes count t u) :
    ∃ v ∈ upTo (fun t => p.reach [t]) greedy left t, v.index = u.index := by
  induction left generalizing count t u with
  | zero =>
    obtain rfl : count = 0 := by omega
    obtain rfl : u = t := h
    exact ⟨u, List.mem_singleton_self _, rfl⟩
  | succ left ih =>
    -- The place is in the list before places that occur twice are dropped.
    have hListed : ∃ v ∈ (p.reach [t]).flatMap (upTo (fun t => p.reach [t]) greedy left) ++ [t],
        v.index = u.index := by
      cases count with
      | zero =>
        obtain rfl : u = t := h
        exact ⟨u, by simp, rfl⟩
      | succ count =>
        obtain ⟨v, hv, hMore⟩ := h
        have hts := forall_mem_singleton_isIn ht
        obtain ⟨v', hv', u', hu', hIndex⟩ :=
          exists_mem_reach_times hp hts (List.mem_singleton_self t) hv hMore
        obtain ⟨w, hw, hIndex'⟩ :=
          ih (Nat.le_of_succ_le_succ hLe) (isIn_of_mem_reach hts hv') hu'
        refine ⟨w, List.mem_append_left _ (List.mem_flatMap.mpr ⟨v', hv', hw⟩), ?_⟩
        rw [hIndex', hIndex]
    obtain ⟨v, hv, hIndex⟩ := hListed
    rw [← hIndex, upTo]
    apply exists_mem_firstPerPlace _ (Nat.zero_testBit _)
    split
    · exact hv
    · simpa [or_comm] using hv

/-- A repetition that is bounded leads to every place that it can take one to. -/
theorem exists_mem_reach_rep {min limit : Nat} {greedy : Bool} {ts : List Trail}
    (hts : ∀ t ∈ ts, t.IsIn text) {t u : Trail} (ht : t ∈ ts)
    (h : (rep p min (some limit) greedy).Takes t u) :
    ∃ v ∈ (rep p min (some limit) greedy).reach ts, v.index = u.index := by
  obtain ⟨count, hMin, hLimit, hTimes⟩ := h
  obtain ⟨more, rfl⟩ := Nat.exists_eq_add_of_le hMin
  have hMore : more ≤ limit - min := by
    have hLimit : min + more ≤ max min limit := hLimit limit rfl
    omega
  -- First the runs that there have to be, then the optional ones.
  obtain ⟨v, hFirst, hRest⟩ := hTimes.split
  obtain ⟨v', hv', hIndex⟩ := exists_mem_exactly hp hts ht hFirst
  obtain ⟨u', hu', hSame⟩ := times_of_samePlace (takes_of_samePlace p)
    (samePlace_of_mem_exactly hts ht hFirst hv' hIndex) hRest
  unfold reach
  simp only
  split
  · rename_i hNone
    exact absurd hNone (by simp)
  · rename_i hNone _
    exact absurd hNone (by simp)
  · rename_i hSome
    obtain rfl := Option.some.inj hSome
    obtain ⟨w, hw, hIndex'⟩ := exists_mem_fromEach hv' (mem_upToSet_of_times hMore hu')
    exact ⟨w, hw, hIndex'.trans hSame.1.symm⟩
  · rename_i hSome _
    obtain rfl := Option.some.inj hSome
    obtain ⟨w, hw, hIndex'⟩ := exists_mem_upTo hp hMore (isIn_of_mem_exactly hts hv') hu'
    obtain ⟨x, hx, hIndex''⟩ := exists_mem_fromEach hv' hw
    exact ⟨x, hx, hIndex''.trans (hIndex'.trans hSame.1.symm)⟩

end Bounded

/-! ## Alternatives -/

/-- What one of two alternatives leads to is not lost beside the other one. -/
theorem exists_mem_reach_alt {p q : Pattern} {ts : List Trail} {t v : Trail} (ht : t ∈ ts)
    (hv : v ∈ p.reach [t] ++ q.reach [t]) :
    ∃ w ∈ (alt p q).reach ts, w.index = v.index := by
  have hListed : ∃ w ∈ (alt p q).reach [t], w.index = v.index := by
    rw [reach, fromEach]
    split
    · rename_i hNone
      rw [hNone] at hv
      exact ⟨v, hv, rfl⟩
    · exact exists_mem_firstPerPlace hv (Nat.zero_testBit _)
  obtain ⟨w, hw, hIndex⟩ := hListed
  have hEach : (alt p q).reach ts = fromEach (fun t => (alt p q).reach [t]) ts := by
    rw [reach]
    rfl
  obtain ⟨x, hx, hIndex'⟩ := exists_mem_fromEach (f := fun t => (alt p q).reach [t]) ht hw
  exact ⟨x, hEach ▸ hx, hIndex'.trans hIndex⟩

/-! ## All patterns without loops -/

/-- A place that a pattern without loops can take one to is listed. -/
theorem exists_mem_reach {p : Pattern} (hLoops : p.loopFree = true) {text : List Char}
    {ts : List Trail} (hts : ∀ t ∈ ts, t.IsIn text) {t u : Trail} (ht : t ∈ ts)
    (h : p.Takes t u) : ∃ v ∈ p.reach ts, v.index = u.index := by
  induction p generalizing ts t u with
  | empty =>
    obtain rfl : u = t := h
    exact ⟨u, ht, rfl⟩
  | chars cs => exact ⟨u, List.mem_filterMap.mpr ⟨t, ht, h⟩, rfl⟩
  | set s => exact ⟨u, List.mem_filterMap.mpr ⟨t, ht, h⟩, rfl⟩
  | look l =>
    obtain ⟨hHolds, rfl⟩ := h
    exact ⟨u, List.mem_filter.mpr ⟨ht, hHolds⟩, rfl⟩
  | group i name p ih =>
    obtain ⟨v, hv, rfl⟩ := h
    obtain ⟨v', hv', hIndex⟩ :=
      ih hLoops (forall_mem_singleton_isIn (hts t ht)) (List.mem_singleton_self t) hv
    obtain ⟨w, hw, hIndex'⟩ := exists_mem_fromEach
      (f := fun t => (p.reach [t]).map fun u => u.remember name t.index) ht
      (List.mem_map.mpr ⟨v', hv', rfl⟩)
    refine ⟨w, hw, ?_⟩
    rw [hIndex', Trail.index_remember, Trail.index_remember, hIndex]
  | seq p q ihp ihq =>
    obtain ⟨hp, hq⟩ := (Bool.and_eq_true _ _).mp hLoops
    obtain ⟨v, hTakes, hMore⟩ := h
    obtain ⟨v', hv', hIndex⟩ := ihp hp hts ht hTakes
    -- The other part goes on from the trail that is kept.
    have hSame := samePlace_of_mem_reach hts ht hTakes hv' hIndex
    obtain ⟨u', hu', hSame'⟩ := takes_of_samePlace q hSame hMore
    obtain ⟨w, hw, hIndex'⟩ := ihq hq (fun v hv => isIn_of_mem_reach hts hv) hv' hu'
    exact ⟨w, hw, hIndex'.trans hSame'.1.symm⟩
  | alt p q ihp ihq =>
    obtain ⟨hp, hq⟩ := (Bool.and_eq_true _ _).mp hLoops
    have hOne := forall_mem_singleton_isIn (hts t ht)
    have hBoth : ∃ v ∈ p.reach [t] ++ q.reach [t], v.index = u.index := by
      rcases h with h | h
      · obtain ⟨v, hv, hIndex⟩ := ihp hp hOne (List.mem_singleton_self t) h
        exact ⟨v, List.mem_append_left _ hv, hIndex⟩
      · obtain ⟨v, hv, hIndex⟩ := ihq hq hOne (List.mem_singleton_self t) h
        exact ⟨v, List.mem_append_right _ hv, hIndex⟩
    obtain ⟨v, hv, hIndex⟩ := hBoth
    obtain ⟨w, hw, hIndex'⟩ := exists_mem_reach_alt ht hv
    exact ⟨w, hw, hIndex'.trans hIndex⟩
  | rep p min max greedy ih =>
    obtain ⟨hMax, hp⟩ := (Bool.and_eq_true _ _).mp hLoops
    cases max with
    | none => simp at hMax
    | some limit => exact exists_mem_reach_rep (ih hp) hts ht h

end CommentSieve.Pattern
