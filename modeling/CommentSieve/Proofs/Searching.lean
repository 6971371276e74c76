import CommentSieve.Proofs.Completeness
import Mathlib.Data.List.Basic

/-!
# Searching goes through all places

A search from place to place is a search through the list of all places of a text: the first
run is the run at the first place that has one, and all runs are the runs at all places,
provided that no run reaches past the start of a later one. For patterns without loops a
place has a run exactly if the pattern can take one on from there.

Main results:

* `find?_eq_some_iff` — the first run is found at the first place that has one.
* `occursIn_iff` — a pattern without loops occurs where it can take one on.
* `findAll_eq_filterMap` — runs that do not overlap are all found.
-/

namespace CommentSieve.Pattern

/-! ## The places of a text -/

/-- The place in a text between what was passed and what is left. -/
def place (passed rest : List Char) : Trail :=
  { index := passed.length, before := passed.getLast?, rest }

theorem step_place (passed : List Char) (c : Char) (cs : List Char) :
    (place passed (c :: cs)).step c cs = place (passed ++ [c]) cs := by
  simp [place, Trail.step]

theorem isIn_place (passed rest : List Char) : (place passed rest).IsIn (passed ++ rest) :=
  ⟨passed, rfl, rfl, rfl⟩

/-- All places of a text from one on. -/
def places (passed : List Char) : List Char → List Trail
  | [] => [place passed []]
  | c :: cs => place passed (c :: cs) :: places (passed ++ [c]) cs

/-- The places from one on are those after some gap. -/
theorem mem_places {passed rest : List Char} {t : Trail} :
    t ∈ places passed rest ↔ ∃ gap more, rest = gap ++ more ∧ t = place (passed ++ gap) more := by
  induction rest generalizing passed with
  | nil =>
    rw [places, List.mem_singleton]
    constructor
    · rintro rfl
      exact ⟨[], [], rfl, by rw [List.append_nil]⟩
    · rintro ⟨gap, more, hNil, rfl⟩
      obtain ⟨rfl, rfl⟩ := List.append_eq_nil_iff.mp hNil.symm
      rw [List.append_nil]
  | cons c cs ih =>
    rw [places, List.mem_cons, ih]
    constructor
    · rintro (rfl | ⟨gap, more, rfl, rfl⟩)
      · exact ⟨[], c :: cs, rfl, by rw [List.append_nil]⟩
      · exact ⟨c :: gap, more, rfl, by rw [List.append_assoc]; rfl⟩
    · -- The place is the first one if there is no gap, and one of the others if there is.
      rintro ⟨gap, more, hRest, rfl⟩
      cases gap with
      | nil =>
        obtain rfl : c :: cs = more := hRest
        exact .inl (by rw [List.append_nil])
      | cons d gap =>
        obtain ⟨rfl, rfl⟩ := List.cons.inj hRest
        exact .inr ⟨gap, more, rfl, by rw [List.append_assoc]; rfl⟩

/-- None of them lies before it. -/
theorem length_le_of_mem_places {passed rest : List Char} {t : Trail} (h : t ∈ places passed rest) :
    passed.length ≤ t.index := by
  obtain ⟨gap, more, -, rfl⟩ := mem_places.mp h
  rw [place, List.length_append]
  exact Nat.le_add_right _ _

/-- Places are listed from left to right. -/
theorem pairwise_places (passed rest : List Char) :
    (places passed rest).Pairwise (·.index < ·.index) := by
  induction rest generalizing passed with
  | nil => exact List.pairwise_singleton ..
  | cons c cs ih =>
    refine List.pairwise_cons.mpr ⟨fun t ht => ?_, ih _⟩
    have hLe := length_le_of_mem_places ht
    rw [List.length_append, List.length_singleton] at hLe
    exact hLe

/-! ## The first run -/

/-- A search tries one place after the other. -/
theorem searchFrom_eq_findSome? (p : Pattern) (passed rest : List Char) :
    p.searchFrom passed.length passed.getLast? rest = (places passed rest).findSome? p.at? := by
  induction rest generalizing passed with
  | nil =>
    rw [searchFrom, places, List.findSome?_singleton]
    rfl
  | cons c cs ih =>
    have hMore := ih (passed ++ [c])
    rw [List.length_append, List.getLast?_concat] at hMore
    rw [searchFrom, places, List.findSome?_cons]
    cases hAt : p.at? (place passed (c :: cs)) with
    | none =>
      rw [place] at hAt
      rw [hAt]
      exact hMore
    | some f =>
      rw [place] at hAt
      rw [hAt]

section Direct

variable {p : Pattern} (hp : p.searcher = .direct p)

include hp

theorem find?_eq_findSome? (text : List Char) :
    p.find? text = (places [] text).findSome? p.at? := by
  rw [find?, hp]
  exact searchFrom_eq_findSome? p [] text

theorem capture?_eq_find? (text : List Char) : p.capture? text = p.find? text := by
  rw [capture?, find?, hp]
  rfl

/-- The first run is found at the first place that has one. -/
theorem find?_eq_some_iff {text : List Char} {f : Found} :
    p.find? text = some f ↔
      ∃ passed rest, text = passed ++ rest ∧ p.at? (place passed rest) = some f ∧
        ∀ passed' rest', text = passed' ++ rest' → passed'.length < passed.length →
          p.at? (place passed' rest') = none := by
  rw [find?_eq_findSome? hp, List.findSome?_eq_some_iff]
  constructor
  · rintro ⟨front, t, back, hPlaces, hAt, hFront⟩
    have hMem : t ∈ places [] text := by simp [hPlaces]
    obtain ⟨passed, rest, hText, rfl⟩ := mem_places.mp hMem
    refine ⟨passed, rest, hText, hAt, fun passed' rest' hText' hLt => ?_⟩
    have hMem' : place passed' rest' ∈ places [] text :=
      mem_places.mpr ⟨passed', rest', hText', rfl⟩
    have hOrder := pairwise_places [] text
    rw [hPlaces] at hMem' hOrder
    obtain ⟨-, hBack, -⟩ := List.pairwise_append.mp hOrder
    rcases List.mem_append.mp hMem' with hMem' | hMem'
    · exact hFront _ hMem'
    · -- A place that comes later is not further to the left.
      rcases List.mem_cons.mp hMem' with hSame | hLater
      · exact absurd (congrArg Trail.index hSame) (Nat.ne_of_lt hLt)
      · exact absurd ((List.pairwise_cons.mp hBack).1 _ hLater) (Nat.lt_asymm hLt)
  · rintro ⟨passed, rest, hText, hAt, hFirst⟩
    have hMem : place passed rest ∈ places [] text := mem_places.mpr ⟨passed, rest, hText, rfl⟩
    obtain ⟨front, back, hPlaces⟩ := List.append_of_mem hMem
    refine ⟨front, _, back, hPlaces, hAt, fun t ht => ?_⟩
    have hOrder := pairwise_places [] text
    rw [hPlaces] at hOrder
    have hLt := (List.pairwise_append.mp hOrder).2.2 t ht _ (List.mem_cons_self ..)
    have hMem : t ∈ places [] text := hPlaces ▸ List.mem_append_left _ ht
    obtain ⟨passed', rest', hText', rfl⟩ := mem_places.mp hMem
    exact hFirst passed' rest' hText' hLt

end Direct

/-! ## Patterns without loops -/

theorem hasPlainLoops_of_loopFree {p : Pattern} (h : p.loopFree = true) :
    p.hasPlainLoops = true := by
  fun_induction hasPlainLoops p <;> simp_all [loopFree]

/-- A pattern without loops does not open with one. -/
theorem opensWithLoop_of_loopFree {p : Pattern} (h : p.loopFree = true) :
    p.opensWithLoop = false := by
  induction p with
  | empty | chars _ | set _ | look _ => rfl
  | group _ _ p ih => exact ih h
  | seq p q ihp ihq | alt p q ihp ihq =>
    rw [loopFree, Bool.and_eq_true] at h
    rw [opensWithLoop, ihp h.1, ihq h.2]
    simp
  | rep p min max greedy ih =>
    rw [loopFree, Bool.and_eq_true] at h
    rw [opensWithLoop, ih h.2]
    cases max with
    | none => simp at h
    | some limit => simpa using h.1

/-- Patterns without loops are looked for from place to place. -/
theorem searcher_of_loopFree {p : Pattern} (h : p.loopFree = true) : p.searcher = .direct p := by
  rw [searcher, hasPlainLoops_of_loopFree h, opensWithLoop_of_loopFree h]
  rfl

/-! ## Runs and what a pattern means -/

/-- What is found at a place is where the pattern can take one, and what it remembers. -/
theorem takes_of_at? {p : Pattern} {t : Trail} {f : Found} (h : p.at? t = some f) :
    ∃ u, p.Takes t u ∧ f = ⟨t.index, u.index, u.groups⟩ := by
  obtain ⟨u, hu, rfl⟩ := Option.map_eq_some_iff.mp h
  exact ⟨u, takes_of_mem_ends (List.mem_of_mem_head? hu), rfl⟩

/-- A pattern without loops finds something wherever it can take one on. -/
theorem at?_ne_none_of_takes {p : Pattern} (hLoops : p.loopFree = true) {passed rest : List Char}
    {u : Trail} (h : p.Takes (place passed rest) u) : p.at? (place passed rest) ≠ none := by
  obtain ⟨v, hv, -⟩ := exists_mem_reach hLoops (forall_mem_singleton_isIn (isIn_place passed rest))
    (List.mem_singleton_self _) h
  rw [at?, ends, Ne, Option.map_eq_none_iff, List.head?_eq_none_iff]
  exact List.ne_nil_of_mem hv

/-- A pattern without loops that can take one to one place only finds what ends there. -/
theorem at?_eq_some {p : Pattern} (hLoops : p.loopFree = true) {passed rest : List Char}
    {u : Trail} (h : p.Takes (place passed rest) u)
    (hOnly : ∀ v, p.Takes (place passed rest) v → v = u) :
    p.at? (place passed rest) = some ⟨passed.length, u.index, u.groups⟩ := by
  obtain ⟨f, hf⟩ := Option.ne_none_iff_exists'.mp (at?_ne_none_of_takes hLoops h)
  obtain ⟨v, hTakes, rfl⟩ := takes_of_at? hf
  rw [hf, hOnly v hTakes]
  rfl

/-- A pattern without loops occurs where it can take one on. -/
theorem occursIn_iff {p : Pattern} (hLoops : p.loopFree = true) (text : List Char) :
    p.occursIn text = true ↔
      ∃ passed rest, text = passed ++ rest ∧ ∃ u, p.Takes (place passed rest) u := by
  rw [occursIn, find?_eq_findSome? (searcher_of_loopFree hLoops), List.findSome?_isSome_iff]
  constructor
  · rintro ⟨t, ht, hAt⟩
    obtain ⟨passed, rest, hText, rfl⟩ := mem_places.mp ht
    obtain ⟨f, hf⟩ := Option.isSome_iff_exists.mp hAt
    obtain ⟨u, hTakes, -⟩ := takes_of_at? hf
    exact ⟨passed, rest, hText, u, hTakes⟩
  · rintro ⟨passed, rest, hText, u, hTakes⟩
    refine ⟨_, mem_places.mpr ⟨passed, rest, hText, rfl⟩, ?_⟩
    exact Option.isSome_iff_ne_none.mpr (at?_ne_none_of_takes hLoops hTakes)

/-! ## All runs -/

/-- What is found at a place, unless the last run ends further on. -/
def atAfter? (p : Pattern) (last : Option Nat) (t : Trail) : Option Found :=
  if last.getD 0 ≤ t.index then p.at? t else none

/-- Runs do not reach past the start of a later one. -/
def Apart (p : Pattern) (text : List Char) : Prop :=
  ∀ t ∈ places [] text, ∀ u ∈ places [] text, ∀ f g, p.at? t = some f → p.at? u = some g →
    t.index < u.index → f.stop ≤ u.index

/-- A match that does not end before the last one is kept as it is. -/
theorem atAfter?_eq_at? {p : Pattern} {last : Option Nat} {t : Trail}
    (h : ∀ g, p.at? t = some g → last.getD 0 ≤ t.index) : p.atAfter? last t = p.at? t := by
  rw [atAfter?]
  split
  · rfl
  · rename_i hBefore
    cases hAt : p.at? t with
    | none => rfl
    | some g => exact absurd (h g hAt) hBefore

/-- Nothing is kept at a place with no match, or with one before the last end. -/
theorem atAfter?_eq_none {p : Pattern} {last : Option Nat} {t : Trail}
    (h : p.at? t = none ∨ t.index < last.getD 0) : p.atAfter? last t = none := by
  rw [atAfter?]
  split
  · rename_i hAfter
    exact h.resolve_right (Nat.not_lt.mpr hAfter)
  · rfl

/-- A pattern that takes something does not match at the end of a text. -/
theorem at?_nil {p : Pattern} (hp : p.nullable = false) (passed : List Char) :
    p.at? (place passed []) = none := by
  rw [Option.eq_none_iff_forall_ne_some]
  intro f hf
  obtain ⟨-, hLt, hLe⟩ := bounds_of_at? hp hf
  simp only [place, List.length_nil] at hLt hLe
  omega

/-- The first run, and then what is found at later places after its end. -/
theorem filterMap_eq_cons {p : Pattern} (hp : p.nullable = false) {t : Trail} {ts : List Trail}
    {f : Found} (hOrder : (t :: ts).Pairwise (·.index < ·.index))
    (hApart : ∀ u ∈ t :: ts, ∀ v ∈ t :: ts, ∀ f g, p.at? u = some f → p.at? v = some g →
      u.index < v.index → f.stop ≤ v.index)
    (h : (t :: ts).findSome? p.at? = some f) :
    (t :: ts).filterMap p.at? = f :: ts.filterMap (p.atAfter? (some f.stop)) := by
  induction ts generalizing t with
  | nil =>
    rw [List.findSome?_singleton] at h
    rw [List.filterMap_cons, h, List.filterMap_nil, List.filterMap_nil]
  | cons u ts ih =>
    obtain ⟨hFirst, hRest⟩ := List.pairwise_cons.mp hOrder
    rw [List.findSome?_cons] at h
    cases hAt : p.at? t with
    | some g =>
      obtain rfl : g = f := by simpa [hAt] using h
      have hLater : (u :: ts).filterMap (p.atAfter? (some g.stop)) = (u :: ts).filterMap p.at? := by
        refine List.filterMap_congr fun v hv => atAfter?_eq_at? fun g' hg' => ?_
        exact hApart t (by simp) v (List.mem_cons_of_mem _ hv) g g' hAt hg' (hFirst v hv)
      rw [List.filterMap_cons, hAt, hLater]
    | none =>
      rw [hAt] at h
      have hMore := ih hRest (fun u hu v hv =>
        hApart u (List.mem_cons_of_mem _ hu) v (List.mem_cons_of_mem _ hv)) h
      -- The run at the next place, if that is the first one, starts before its own end.
      have hSkipped : p.atAfter? (some f.stop) u = none := by
        apply atAfter?_eq_none
        cases hNext : p.at? u with
        | none => exact .inl rfl
        | some g =>
          obtain rfl : g = f := by simpa [List.findSome?_cons, hNext] using h
          exact .inr (bounds_of_at? hp hNext).2.1
      rw [List.filterMap_cons, hAt, hMore, List.filterMap_cons, hSkipped]

/-- The direct search from a place on finds what it finds at each of the places that follow, under
the condition that the matches stand apart. -/
theorem findAllFrom_eq_filterMap {p : Pattern} (hp : p.nullable = false) {text : List Char}
    (hApart : p.Apart text) (last : Option Nat) {passed rest : List Char}
    (hText : text = passed ++ rest) :
    (Searcher.direct p).findAllFrom last passed.length passed.getLast? rest =
      (places passed rest).filterMap (p.atAfter? last) := by
  -- On the rest of the text, for any end of the last run. Where a run is found the list of the
  -- places is cut behind its first place, not where it ends; the places in between have no runs
  -- or lie inside of it.
  induction rest generalizing last passed with
  | nil =>
    rw [findAllFrom_nil hp, places, List.filterMap_cons, List.filterMap_nil,
      atAfter?_eq_none (.inl (at?_nil hp passed))]
  | cons c cs ih =>
    have hMore : ∀ last : Option Nat,
        (Searcher.direct p).findAllFrom last (passed.length + 1) (some c) cs =
          (places (passed ++ [c]) cs).filterMap (p.atAfter? last) := by
      intro last
      have hNext := ih last (show text = passed ++ [c] ++ cs by rw [hText]; simp)
      rwa [List.length_append, List.getLast?_concat] at hNext
    have hMem : ∀ t ∈ places passed (c :: cs), t ∈ places [] text := by
      intro t ht
      obtain ⟨gap, more, hRest, rfl⟩ := mem_places.mp ht
      exact mem_places.mpr ⟨passed ++ gap, more, by rw [hText, hRest, List.append_assoc], rfl⟩
    have hOrder := pairwise_places passed (c :: cs)
    rcases Nat.lt_or_ge passed.length (last.getD 0) with hInside | hLast
    · rw [findAllFrom_inside hInside, hMore, places, List.filterMap_cons,
        atAfter?_eq_none (.inr hInside)]
    · -- The last run is over, so that it does not matter any more.
      have hFree : ∀ t ∈ places passed (c :: cs), p.atAfter? last t = p.at? t := fun t ht =>
        atAfter?_eq_at? fun _ _ => Nat.le_trans hLast (length_le_of_mem_places ht)
      rw [List.filterMap_congr hFree]
      have hSearch := searchFrom_eq_findSome? p passed (c :: cs)
      cases hFirst : (places passed (c :: cs)).findSome? p.at? with
      | none =>
        rw [findAllFrom_of_none hLast (hSearch.trans hFirst)]
        rw [List.findSome?_eq_none_iff] at hFirst
        exact (List.filterMap_eq_nil_iff.mpr hFirst).symm
      | some f =>
        rw [findAllFrom_of_some hp hLast (hSearch.trans hFirst), hMore]
        rw [places] at hFirst hMem hOrder ⊢
        rw [filterMap_eq_cons hp hOrder (fun t ht u hu => hApart t (hMem t ht) u (hMem u hu)) hFirst]

/-- Runs that do not overlap are all found. -/
theorem findAll_eq_filterMap {p : Pattern} (hSearcher : p.searcher = .direct p)
    (hp : p.nullable = false) {text : List Char} (hApart : p.Apart text) :
    p.findAll text = (places [] text).filterMap p.at? := by
  rw [findAll, hSearcher]
  exact findAllFrom_eq_filterMap hp hApart none (List.nil_append text).symm

end CommentSieve.Pattern
