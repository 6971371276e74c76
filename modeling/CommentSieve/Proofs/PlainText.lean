import CommentSieve.Proofs.CaseFolding
import CommentSieve.Proofs.Searching

/-!
# Patterns for a text as it stands

The pattern for a text takes one over any spelling of the text, character by character, and
nothing else. It is put together from one part per character; parts that have one spelling
only are joined, which does not change what they mean.

Main results:

* `takes_upToCase` — the pattern for a text takes one over its spellings.
* `occursIn_upToCase` — it occurs in the texts that contain a spelling.
-/

namespace CommentSieve.Pattern

open Text

/-- The pattern for a text as it stands, up to case. -/
def upToCase (cs : List Char) : Pattern := concat (cs.map fun c => ofSet (.alike c))

/-! ## What it means -/

/-- A character without variants is a fixed character. -/
theorem ofSet_alike (c : Char) :
    ofSet (.alike c) = if (caseVariants c).all (· == c) then chars [c] else set (.alike c) := by
  have hFew : (CharSet.alike c).few =
      if (caseVariants c).all (· == c) then .one c else .many := rfl
  rw [ofSet, hFew]
  by_cases hSingle : (caseVariants c).all (· == c) = true
  · rw [if_pos hSingle, if_pos hSingle]
  · rw [if_neg hSingle, if_neg hSingle]

/-- A character takes one over its spellings, also if it is the only one. -/
theorem takes_ofSet_alike {c : Char} {t u : Trail} :
    (ofSet (.alike c)).Takes t u ↔ t.read? (.alike c) = some u := by
  rw [ofSet_alike]
  split
  · -- The character has no other spelling, so that it is followed as it stands.
    rename_i hSingle
    have hSame : ∀ d, sameFold c d = true ↔ d = c := by
      intro d
      constructor
      · intro h
        exact beq_iff_eq.mp (List.all_eq_true.mp hSingle d (mem_caseVariants h))
      · rintro rfl
        exact beq_self_eq_true _
    rw [Takes, Trail.follow?, Trail.read?]
    cases t.rest with
    | nil => rfl
    | cons d ds => simp [CharSet.mem, hSame, Trail.follow?]
  · rfl

/-- The place after a run. -/
def Trail.over (t : Trail) (run rest : List Char) : Trail :=
  { t with index := t.index + run.length, before := run.getLast?.or t.before, rest }

theorem over_cons (t : Trail) (c : Char) (cs run rest : List Char) :
    (t.step c cs).over run rest = t.over (c :: run) rest := by
  rw [Trail.over, Trail.over, Trail.step, List.length_cons, List.getLast?_cons]
  cases run.getLast? <;> simp <;> omega

theorem place_over (passed run rest rest' : List Char) :
    (place passed rest').over run rest = place (passed ++ run) rest := by
  simp [place, Trail.over]

/-- The pattern for a text takes one over its spellings. -/
theorem takes_upToCase {cs : List Char} {t u : Trail} :
    (upToCase cs).Takes t u ↔
      ∃ run rest, t.rest = run ++ rest ∧ Alike cs run ∧ u = t.over run rest := by
  rw [upToCase, takes_concat]
  -- The induction is on the text, one set of spellings after the other.
  induction cs generalizing t with
  | nil =>
    simp only [List.map_nil, TakesAll, alike_nil]
    constructor
    · rintro rfl
      exact ⟨[], u.rest, rfl, rfl, by simp [Trail.over]⟩
    · rintro ⟨_, rest, hRest, rfl, rfl⟩
      obtain rfl : t.rest = rest := hRest
      simp [Trail.over]
  | cons c cs ih =>
    simp only [List.map_cons, TakesAll, takes_ofSet_alike, ih, alike_cons]
    constructor
    · rintro ⟨v, hRead, run, rest, hRest, hAlike, rfl⟩
      unfold Trail.read? at hRead
      split at hRead
      · simp at hRead
      · rename_i d ds hRest'
        rw [Option.ite_none_right_eq_some] at hRead
        obtain ⟨hSame, hStep⟩ := hRead
        obtain rfl := Option.some.inj hStep
        obtain rfl : ds = run ++ rest := hRest
        exact ⟨d :: run, rest, hRest', ⟨d, run, rfl, hSame, hAlike⟩, over_cons ..⟩
    · rintro ⟨_, rest, hRest, ⟨d, run, rfl, hSame, hAlike⟩, rfl⟩
      refine ⟨t.step d (run ++ rest), ?_, run, rest, rfl, hAlike, (over_cons ..).symm⟩
      rw [Trail.read?, hRest]
      exact if_pos hSame

/-- The pattern for a text takes its spellings. -/
theorem takes_upToCase_place {cs passed text : List Char} {u : Trail} :
    (upToCase cs).Takes (place passed text) u ↔
      ∃ run rest, text = run ++ rest ∧ Alike cs run ∧ u = place (passed ++ run) rest := by
  rw [takes_upToCase]
  simp only [place_over]
  rfl

/-- A set takes one of its members. -/
theorem takes_set_place {s : CharSet} {passed text : List Char} {u : Trail} :
    (set s).Takes (place passed text) u ↔
      ∃ c rest, text = c :: rest ∧ s.mem c = true ∧ u = place (passed ++ [c]) rest := by
  rw [Takes, Trail.read?]
  cases text with
  | nil => simp [place]
  | cons c cs =>
    change (if s.mem c = true then some ((place passed (c :: cs)).step c cs) else none) = some u ↔ _
    rw [step_place, Option.ite_none_right_eq_some]
    constructor
    · rintro ⟨hMem, hPlace⟩
      exact ⟨c, cs, rfl, hMem, (Option.some.inj hPlace).symm⟩
    · rintro ⟨_, _, hText, hMem, rfl⟩
      obtain ⟨rfl, rfl⟩ := List.cons.inj hText
      exact ⟨hMem, rfl⟩

/-- Fixed characters take themselves. -/
theorem takes_chars_place {cs passed text : List Char} {u : Trail} :
    (chars cs).Takes (place passed text) u ↔
      ∃ rest, text = cs ++ rest ∧ u = place (passed ++ cs) rest := by
  simp only [Takes]
  induction cs generalizing passed text with
  | nil => simp [Trail.follow?, eq_comm]
  | cons d ds ih =>
    cases text with
    | nil => simp [Trail.follow?, place]
    | cons c cs =>
      change (if c = d then ((place passed (c :: cs)).step c cs).follow? ds else none) = some u ↔ _
      rw [step_place, Option.ite_none_right_eq_some, ih]
      constructor
      · rintro ⟨rfl, rest, rfl, rfl⟩
        exact ⟨rest, rfl, by rw [List.append_assoc]; rfl⟩
      · rintro ⟨rest, hText, rfl⟩
        obtain ⟨rfl, rfl⟩ := List.cons.inj hText
        exact ⟨rfl, rest, rfl, by rw [List.append_assoc]; rfl⟩

/-! ## How it is looked for -/

/-- A part that reads characters. -/
def isText : Pattern → Bool
  | chars _ | set _ => true
  | _ => false

theorem isText_ofSet_alike (c : Char) : (ofSet (.alike c)).isText = true := by
  rw [ofSet_alike]
  split <;> rfl

/-- The parts of a text cannot be taken apart further. -/
theorem flatMap_elements {ps : List Pattern} (h : ∀ p ∈ ps, p.isText = true) :
    ps.flatMap elements = ps := by
  induction ps with
  | nil => rfl
  | cons p ps ih =>
    rw [List.flatMap_cons, ih fun q hq => h q (List.mem_cons_of_mem _ hq)]
    have hp := h p (List.mem_cons_self ..)
    cases p <;> first | rfl | simp [isText] at hp

/-- Joining characters leaves parts of a text. -/
theorem isText_of_mem_joinChars {ps : List Pattern} (h : ∀ p ∈ ps, p.isText = true) :
    ∀ p ∈ joinChars ps, p.isText = true := by
  fun_induction joinChars ps with
  | case1 => simp
  | case2 cs more ds rest hMore ih =>
    intro p hp
    have hRest := ih fun q hq => h q (List.mem_cons_of_mem _ hq)
    rw [hMore] at hRest
    rcases List.mem_cons.mp hp with rfl | hp
    · rfl
    · exact hRest p (List.mem_cons_of_mem _ hp)
  | case3 cs more _ ih =>
    intro p hp
    rcases List.mem_cons.mp hp with rfl | hp
    · rfl
    · exact ih (fun q hq => h q (List.mem_cons_of_mem _ hq)) p hp
  | case4 q more _ ih =>
    intro p hp
    rcases List.mem_cons.mp hp with rfl | hp
    · exact h p (List.mem_cons_self ..)
    · exact ih (fun q hq => h q (List.mem_cons_of_mem _ hq)) p hp

/-- Parts that read characters have no loops. -/
theorem loopFree_seqs {ps : List Pattern} (h : ∀ p ∈ ps, p.isText = true) :
    (seqs ps).loopFree = true := by
  have hOne : ∀ p : Pattern, p.isText = true → p.loopFree = true := by
    intro p hp
    cases p <;> first | rfl | simp [isText] at hp
  fun_induction seqs ps with
  | case1 => rfl
  | case2 p => exact hOne p (h p (List.mem_singleton_self _))
  | case3 p more _ ih =>
    rw [loopFree, hOne p (h p (List.mem_cons_self ..)),
      ih fun q hq => h q (List.mem_cons_of_mem _ hq)]
    rfl

theorem concat_eq_seqs {ps : List Pattern} (h : ∀ p ∈ ps, p.isText = true) :
    concat ps = seqs (joinChars ps) := by
  rw [concat, flatMap_elements h]

/-- All characters of a text up to case are parts of a text. -/
theorem isText_of_mem_map_alike (cs : List Char) :
    ∀ p ∈ cs.map fun c => ofSet (.alike c), p.isText = true := by
  intro p hp
  obtain ⟨c, -, rfl⟩ := List.mem_map.mp hp
  exact isText_ofSet_alike c

theorem loopFree_upToCase (cs : List Char) : (upToCase cs).loopFree = true := by
  have hText := isText_of_mem_map_alike cs
  rw [upToCase, concat_eq_seqs hText]
  exact loopFree_seqs (isText_of_mem_joinChars hText)

/-- The pattern for a text occurs in the texts that contain a spelling of it. -/
theorem occursIn_upToCase (cs text : List Char) :
    (upToCase cs).occursIn text = true ↔
      ∃ before run after, text = before ++ run ++ after ∧ Alike cs run := by
  rw [occursIn_iff (loopFree_upToCase cs)]
  constructor
  · rintro ⟨before, rest, rfl, u, hTakes⟩
    obtain ⟨run, after, rfl, hAlike, -⟩ := takes_upToCase_place.mp hTakes
    exact ⟨before, run, after, (List.append_assoc ..).symm, hAlike⟩
  · rintro ⟨before, run, after, rfl, hAlike⟩
    exact ⟨before, run ++ after, List.append_assoc .., _,
      takes_upToCase_place.mpr ⟨run, after, rfl, hAlike, rfl⟩⟩

end CommentSieve.Pattern
