import CommentSieve.Pattern.Normal
import CommentSieve.Pattern.Search

/-!
# What a pattern prefers

The place that a pattern prefers is the first one in the list of places that it leads to. For an
alternative it is the one that the left side prefers, if that leads anywhere, and for a greedy
loop over single characters the one at which no further character can be read.

Main results:

* `head?_alt` — the left alternative is preferred.
* `read?_of_getLast?_runs` — the longest run of characters of a set ends where none follows.
-/

namespace CommentSieve.Pattern

/-! ## Alternatives and groups -/

theorem head?_firstPerPlace (ts : List Trail) : (firstPerPlace 0 ts).head? = ts.head? := by
  cases ts with
  | nil => rfl
  | cons t ts => simp [firstPerPlace]

/-- The left alternative is preferred. -/
theorem head?_alt (p q : Pattern) (t : Trail) :
    ((alt p q).reach [t]).head? = (p.reach [t]).head?.or (q.reach [t]).head? := by
  rw [reach, fromEach]
  -- Of places that are listed twice the first is kept, so that the best one stays first.
  cases hLeft : p.reach [t] with
  | nil => rfl
  | cons u us =>
    rw [head?_firstPerPlace]
    rfl

/-- A group remembers the run that is preferred. -/
theorem head?_group (i : Nat) (name : Option String) (p : Pattern) (t : Trail) :
    ((group i name p).reach [t]).head? =
      (p.reach [t]).head?.map (·.remember name t.index) := by
  rw [reach, fromEach, List.head?_map]

/-- What comes first from several places comes first from one of them. -/
theorem exists_of_head?_fromEach {f : Trail → List Trail} {ts : List Trail} {u : Trail}
    (h : (fromEach f ts).head? = some u) : ∃ t ∈ ts, (f t).head? = some u := by
  unfold fromEach at h
  split at h
  · simp at h
  · exact ⟨_, List.mem_singleton_self _, h⟩
  · rw [head?_firstPerPlace, List.head?_flatMap] at h
    exact List.exists_of_findSome?_eq_some h

/-! ## Sequences -/

/-- A sequence of parts is reached from what the first parts reach. -/
theorem reach_seqs_append (ps qs : List Pattern) (ts : List Trail) :
    (seqs (ps ++ qs)).reach ts = (seqs qs).reach ((seqs ps).reach ts) := by
  have hCons : ∀ (p : Pattern) (ps : List Pattern) (ts : List Trail),
      (seqs (p :: ps)).reach ts = (seqs ps).reach (p.reach ts) := by
    intro p ps ts
    cases ps <;> simp [seqs, reach]
  induction ps generalizing ts with
  | nil => simp [seqs, reach]
  | cons p ps ih => rw [List.cons_append, hCons, hCons, ih]

/-- Taking a sequence apart changes nothing about what it reaches. -/
theorem reach_elements (p : Pattern) (ts : List Trail) :
    (seqs p.elements).reach ts = p.reach ts := by
  induction p generalizing ts with
  | seq p q _ ihq =>
    have hElements : (seq p q).elements = [p] ++ q.elements := rfl
    rw [hElements, reach_seqs_append, ihq]
    rfl
  | _ => rfl

/-! ## Loops over single characters -/

namespace Trail

theorem read?_cons {s : CharSet} {t : Trail} {c : Char} {cs : List Char}
    (h : t.rest = c :: cs) : t.read? s = if s.mem c then some (t.step c cs) else none := by
  rw [read?, h]

/-- What is read is a member of the set. -/
theorem read?_eq_some {s : CharSet} {t u : Trail} (h : t.read? s = some u) :
    ∃ c cs, t.rest = c :: cs ∧ s.mem c = true ∧ u = t.step c cs := by
  unfold read? at h
  split at h
  · simp at h
  · rename_i c cs hRest
    rw [Option.ite_none_right_eq_some] at h
    exact ⟨c, cs, hRest, h.1, (Option.some.inj h.2).symm⟩

end Trail

theorem runs_stop {s : CharSet} {limit : Nat} {t : Trail} (h : t.read? s = none) :
    runs s 0 limit t = [t] := by
  unfold runs
  simp [h]

/-- Where one follows there are the empty run and the longer ones. -/
theorem runs_cons {s : CharSet} {limit : Nat} {t : Trail} {c : Char} {cs : List Char}
    (hRest : t.rest = c :: cs) (hMem : s.mem c = true) :
    runs s 0 (limit + 1) t = t :: runs s 0 limit (t.step c cs) := by
  have hRead : t.read? s = some (t.step c cs) := by
    rw [Trail.read?_cons hRest, if_pos hMem]
  rw [runs.eq_def]
  simp [hRead]

/-- The longest run of characters of a set ends where none follows. -/
theorem read?_of_getLast?_runs {s : CharSet} {limit : Nat} {t u : Trail}
    (hLimit : t.rest.length ≤ limit) (h : (runs s 0 limit t).getLast? = some u) :
    u.read? s = none := by
  -- There always is a last place, so that a run that goes on ends where the rest of it does.
  have hNonempty : ∀ limit t, runs s 0 limit t ≠ [] := by
    intro limit t
    unfold runs
    rw [Nat.zero_testBit, if_neg Bool.false_ne_true]
    split <;> simp
  induction limit generalizing t with
  | zero =>
    have hRest : t.rest = [] := List.length_eq_zero_iff.mp (Nat.le_zero.mp hLimit)
    have hNone : t.read? s = none := by rw [Trail.read?, hRest]
    rw [runs_stop hNone] at h
    obtain rfl := Option.some.inj h
    exact hNone
  | succ limit ih =>
    cases hRead : t.read? s with
    | none =>
      rw [runs_stop hRead] at h
      obtain rfl := Option.some.inj h
      exact hRead
    | some v =>
      obtain ⟨c, cs, hRest, hMem, rfl⟩ := Trail.read?_eq_some hRead
      have hShorter : (t.step c cs).rest.length ≤ limit := by
        rw [hRest] at hLimit
        exact Nat.le_of_succ_le_succ hLimit
      have hLast := mt List.getLast?_eq_none_iff.mp (hNonempty limit (t.step c cs))
      obtain ⟨w, hw⟩ := Option.ne_none_iff_exists'.mp hLast
      rw [runs_cons hRest hMem, List.getLast?_cons, hw] at h
      exact ih hShorter (hw.trans h)

end CommentSieve.Pattern
