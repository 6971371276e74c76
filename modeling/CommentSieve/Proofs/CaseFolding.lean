import CommentSieve.Pattern.CharSet

/-!
# Case and words

Characters that agree up to case are alike in other respects as well. Either all of them
are word characters or none is, so that a word stays a word in any spelling; and those that
agree with an ASCII letter are the letter in both cases, and for `s` and `k` one more
character each, the long s and the sign for kelvins.

The tables are compared as wholes. A table of ranges is the set of the bits of one number,
so that the question for a code point is one about a single bit.

Main results:

* `mem_caseVariants` — the variants of a character are all that agree with it up to case.
* `eq_of_mem_caseVariants` — characters that are no word characters have no variants.
* `isWord_eq_of_sameFold` — case does not matter for what a word character is.
* `spelling_of_sameFold` — the spellings of an ASCII character.
-/

namespace CommentSieve.Text

/-! ## Tables of ranges -/

/-- The code points in a list of ranges as the bits of a number. -/
def bitsOf (ranges : List (Nat × Nat)) : Nat :=
  ranges.foldr (fun r bits => bits ||| (1 <<< (r.2 + 1 - r.1) - 1) <<< r.1) 0

/-- Whether `n` lies in a range. -/
def inRange (n : Nat) (r : Nat × Nat) : Bool := decide (r.1 ≤ n) && decide (n ≤ r.2)

/-- The bits that are set are the numbers in the ranges. -/
theorem testBit_bitsOf (ranges : List (Nat × Nat)) (n : Nat) :
    (bitsOf ranges).testBit n = ranges.any (inRange n) := by
  induction ranges with
  | nil => simp [bitsOf]
  | cons r ranges ih =>
    have hRange : ((1 <<< (r.2 + 1 - r.1) - 1) <<< r.1).testBit n = inRange n r := by
      rw [Nat.testBit_shiftLeft, Nat.one_shiftLeft, Nat.testBit_two_pow_sub_one, inRange,
        Bool.eq_iff_iff]
      simp only [ge_iff_le, Bool.and_eq_true, decide_eq_true_eq]
      omega
    rw [bitsOf, List.foldr_cons, Nat.testBit_or, hRange, List.any_cons, ← ih, Bool.or_comm]
    rfl

/-- Whether ranges ascend from a code point on. -/
def ascend (low : Nat) : List (Nat × Nat) → Bool
  | [] => true
  | r :: more => decide (low ≤ r.1) && decide (r.1 ≤ r.2) && ascend (r.2 + 1) more

/-- Ascending ranges contain nothing below the first of them. -/
theorem any_eq_false_of_ascend {low n : Nat} {ranges : List (Nat × Nat)}
    (h : ascend low ranges = true) (hLow : n < low) : ranges.any (inRange n) = false := by
  induction ranges generalizing low with
  | nil => rfl
  | cons r more ih =>
    simp only [ascend, Bool.and_eq_true, decide_eq_true_eq] at h
    rw [List.any_cons, ih h.2 (by omega), Bool.or_false, inRange, Bool.and_eq_false_iff]
    exact .inl (decide_eq_false (by omega))

/-- Walking ascending ranges from the front finds the one that a code point lies in. -/
theorem inRanges_eq_any {low : Nat} {ranges : List (Nat × Nat)} (h : ascend low ranges = true)
    (n : Nat) : inRanges n ranges = ranges.any (inRange n) := by
  induction ranges generalizing low with
  | nil => rfl
  | cons r more ih =>
    simp only [ascend, Bool.and_eq_true, decide_eq_true_eq] at h
    rw [inRanges, List.any_cons]
    by_cases hBefore : n < r.1
    · rw [if_pos hBefore, any_eq_false_of_ascend h.2 (by omega), inRange,
        decide_eq_false (by omega : ¬ r.1 ≤ n)]
      rfl
    -- The walk stops here or goes on; ranges that come later lie further on.
    by_cases hLast : n ≤ r.2
    · rw [if_neg hBefore, if_pos hLast, inRange, decide_eq_true hLast,
        decide_eq_true (Nat.le_of_not_lt hBefore)]
      rfl
    · rw [if_neg hBefore, if_neg hLast, ih h.2, inRange, decide_eq_false hLast]
      simp

theorem inRanges_eq_testBit {ranges : List (Nat × Nat)} (h : ascend 0 ranges = true) (n : Nat) :
    inRanges n ranges = (bitsOf ranges).testBit n := by
  rw [inRanges_eq_any h, testBit_bitsOf]

/-! ## Characters with a case -/

/-- Every character that has a case is a word character. -/
theorem isWord_of_mem_casedChars {c : Char} (h : c ∈ casedChars) : isWord c = true := by
  have hTables : casedChars.all (fun c => (bitsOf alphabeticRanges).testBit c.toNat &&
      !(bitsOf recentRanges).testBit c.toNat) = true := by
    decide +kernel
  have hAlphabetic : ascend 0 alphabeticRanges = true := by decide +kernel
  have hRecent : ascend 0 recentRanges = true := by decide +kernel
  have hBits := List.all_eq_true.mp hTables c h
  rw [← inRanges_eq_testBit hAlphabetic, ← inRanges_eq_testBit hRecent] at hBits
  rw [isWord, isAlphabetic, hBits]
  rfl

namespace Shift

/-- The two ends of each step of a shift have a case. -/
theorem mem_casedChars {s : Shift} (hs : s ∈ foldShifts) {i : Nat}
    (hi : i ≤ (s.last - s.first) / s.step) :
    Char.ofNat (s.first + i * s.step) ∈ casedChars ∧
      Char.ofNat (s.image + i * s.step) ∈ casedChars := by
  have hStep : ∀ c ∈ [Char.ofNat (s.first + i * s.step), Char.ofNat (s.image + i * s.step)],
      c ∈ casedChars := by
    intro c hc
    exact List.mem_flatMap.mpr ⟨s, hs, List.mem_flatMap.mpr
      ⟨i, List.mem_range.mpr (Nat.lt_succ_of_le hi), hc⟩⟩
  exact ⟨hStep _ (by simp), hStep _ (by simp)⟩

/-- What a shift moves is one of its code points, and the image is one of its images. -/
theorem eq_of_applied {s : Shift} {n m : Nat} (h : s.apply? n = some m) :
    ∃ i ≤ (s.last - s.first) / s.step, n = s.first + i * s.step ∧ m = s.image + i * s.step := by
  rw [ Shift.apply?, Option.ite_none_right_eq_some] at h
  obtain ⟨⟨hFirst, hLast, hMod⟩, hImage⟩ := h
  have hMul : (n - s.first) / s.step * s.step = n - s.first :=
    Nat.div_mul_cancel (Nat.dvd_of_mod_eq_zero hMod)
  refine ⟨(n - s.first) / s.step, Nat.div_le_div_right (by omega), by omega, ?_⟩
  have hImage := Option.some.inj hImage
  omega

/-- What a shift is found to have moved is one of its code points, and the image is one of its
images. -/
theorem eq_of_source? {s : Shift} {n m : Nat} (h : s.source? m = some n) :
    ∃ i ≤ (s.last - s.first) / s.step, n = s.first + i * s.step ∧ m = s.image + i * s.step := by
  rw [source?, Option.ite_none_right_eq_some] at h
  obtain ⟨⟨hImage, hLast, hMod⟩, hFirst⟩ := h
  have hMul : (m - s.image) / s.step * s.step = m - s.image :=
    Nat.div_mul_cancel (Nat.dvd_of_mod_eq_zero hMod)
  refine ⟨(m - s.image) / s.step, Nat.div_le_div_right hLast, ?_, by omega⟩
  have hFirst := Option.some.inj hFirst
  omega

/-- Looking for the source of an image gives what was moved. -/
theorem source?_of_applied {s : Shift} {n m : Nat} (h : s.apply? n = some m) :
    s.source? m = some n := by
  rw [ Shift.apply?, Option.ite_none_right_eq_some] at h
  obtain ⟨⟨hFirst, hLast, hMod⟩, hImage⟩ := h
  have hImage := Option.some.inj hImage
  have hSame : m - s.image = n - s.first := by omega
  rw [source?, hSame, if_pos ⟨by omega, by omega, hMod⟩]
  congr 1
  omega

end Shift

/-- What is moved is moved by one of the shifts. -/
theorem exists_shift_of_shifted? {n m : Nat} {shifts : List Shift}
    (h : shifted? n shifts = some m) : ∃ s ∈ shifts, s.apply? n = some m := by
  induction shifts with
  | nil => simp [shifted?] at h
  | cons s more ih =>
    rw [shifted?, Option.ite_none_left_eq_some] at h
    obtain ⟨-, h⟩ := h
    split at h
    · rename_i hApply
      exact ⟨s, List.mem_cons_self .., hApply.trans h⟩
    · obtain ⟨t, ht, hApply⟩ := ih h
      exact ⟨t, List.mem_cons_of_mem _ ht, hApply⟩

/-- A character folds to itself, or a shift takes it to its folding. -/
theorem foldCase_cases (c : Char) :
    foldCase c = c ∨ ∃ s ∈ foldShifts, ∃ n, s.apply? c.toNat = some n ∧
      foldCase c = Char.ofNat n := by
  rw [foldCase]
  split
  · rename_i n hShifted
    obtain ⟨s, hs, hApply⟩ := exists_shift_of_shifted? hShifted
    exact .inr ⟨s, hs, n, hApply, rfl⟩
  · exact .inl rfl

/-- Images of shifts are characters. -/
theorem isValidChar_of_applied {s : Shift} (hs : s ∈ foldShifts) {n m : Nat}
    (h : s.apply? n = some m) : m.isValidChar := by
  have hTable : ∀ s ∈ foldShifts, s.image + (s.last - s.first) < 0xD800 ∨
      0xDFFF < s.image ∧ s.image + (s.last - s.first) < 0x110000 := by
    decide +kernel
  obtain ⟨i, hi, -, rfl⟩ := Shift.eq_of_applied h
  -- The image of a range is as long as the range and lies on one side of the surrogates.
  have hLe : i * s.step ≤ s.last - s.first :=
    Nat.le_trans (Nat.mul_le_mul_right _ hi) (Nat.div_mul_le_self _ _)
  have hTable := hTable s hs
  unfold Nat.isValidChar
  omega

theorem toNat_ofNat {n : Nat} (h : n.isValidChar) : (Char.ofNat n).toNat = n := by
  rw [Char.ofNat, dif_pos h]
  rfl

/-- The variants of a character are all that agree with it up to case. -/
theorem mem_caseVariants {c d : Char} (h : sameFold c d = true) : d ∈ caseVariants c := by
  have hSame : foldCase c = foldCase d := by simpa [sameFold] using h
  rw [caseVariants, hSame]
  rcases foldCase_cases d with hSelf | ⟨s, hs, n, hApply, hFold⟩
  · rw [hSelf]
    exact List.mem_cons_self ..
  · -- The shift that takes the character to its folding leads back to it.
    have hSource : s.source? (foldCase d).toNat = some d.toNat := by
      rw [hFold, toNat_ofNat (isValidChar_of_applied hs hApply)]
      exact Shift.source?_of_applied hApply
    refine List.mem_cons_of_mem _ (List.mem_filterMap.mpr ⟨s, hs, ?_⟩)
    rw [hSource, Option.map_some, Char.ofNat_toNat]

/-! ## Words -/

/-- Folding leads neither into words nor out of them. -/
theorem isWord_foldCase (c : Char) : isWord (foldCase c) = isWord c := by
  rcases foldCase_cases c with hSelf | ⟨s, hs, n, hApply, hFold⟩
  · rw [hSelf]
  · obtain ⟨i, hi, hFirst, hImage⟩ := Shift.eq_of_applied hApply
    obtain ⟨hSource, hTarget⟩ := Shift.mem_casedChars hs hi
    rw [← hFirst, Char.ofNat_toNat] at hSource
    rw [hFold, hImage, isWord_of_mem_casedChars hTarget, isWord_of_mem_casedChars hSource]

/-- Case does not matter for what a word character is. -/
theorem isWord_eq_of_sameFold {c d : Char} (h : sameFold c d = true) : isWord c = isWord d := by
  have hSame : foldCase c = foldCase d := by simpa [sameFold] using h
  rw [← isWord_foldCase c, hSame, isWord_foldCase]

/-- All variants of a character are word characters, or none is. -/
theorem isWord_of_mem_caseVariants {c d : Char} (h : d ∈ caseVariants c) :
    isWord d = isWord c := by
  rw [← isWord_foldCase c]
  rcases List.mem_cons.mp h with rfl | h
  · rfl
  · obtain ⟨s, hs, h⟩ := List.mem_filterMap.mp h
    obtain ⟨n, hSource, rfl⟩ := Option.map_eq_some_iff.mp h
    obtain ⟨i, hi, rfl, hImage⟩ := Shift.eq_of_source? hSource
    obtain ⟨hFirst, hTarget⟩ := Shift.mem_casedChars hs hi
    rw [← hImage, Char.ofNat_toNat] at hTarget
    rw [isWord_of_mem_casedChars hFirst, isWord_of_mem_casedChars hTarget]

/-- Characters that are no word characters have no case. -/
theorem eq_of_mem_caseVariants {c d : Char} (hc : isWord c = false) (h : d ∈ caseVariants c) :
    d = c := by
  have hUncased : ∀ e ∈ casedChars, isWord e ≠ false := by
    intro e he
    rw [isWord_of_mem_casedChars he]
    exact Bool.noConfusion
  have hd : isWord d = false := (isWord_of_mem_caseVariants h).trans hc
  have hFold : foldCase c = c := by
    rcases foldCase_cases c with hSelf | ⟨s, hs, n, hApply, -⟩
    · exact hSelf
    · obtain ⟨i, hi, hFirst, -⟩ := Shift.eq_of_applied hApply
      have hCased := (Shift.mem_casedChars hs hi).1
      rw [← hFirst, Char.ofNat_toNat] at hCased
      exact absurd hc (hUncased c hCased)
  rcases List.mem_cons.mp h with rfl | h
  · exact hFold
  · obtain ⟨s, hs, h⟩ := List.mem_filterMap.mp h
    obtain ⟨n, hSource, rfl⟩ := Option.map_eq_some_iff.mp h
    obtain ⟨i, hi, rfl, -⟩ := Shift.eq_of_source? hSource
    exact absurd hd (hUncased _ (Shift.mem_casedChars hs hi).1)

/-- Case adds nothing to a set that has all word characters. -/
theorem mem_folded_word (s : CharSet) (c : Char) :
    (CharSet.folded (.union .word s)).mem c = (isWord c || s.mem c) := by
  rw [CharSet.mem, Bool.eq_iff_iff, List.any_eq_true]
  constructor
  · rintro ⟨d, hd, hMem⟩
    by_cases hc : isWord c = true
    · rw [hc, Bool.true_or]
    · rwa [← eq_of_mem_caseVariants (by simpa using hc) hd]
  · exact fun h => ⟨c, mem_caseVariants (by simp [sameFold]), h⟩

/-- The set of a character has no other member. -/
theorem mem_single (c d : Char) : (CharSet.single c).mem d = (d == c) := by
  rw [CharSet.single, CharSet.mem, Bool.eq_iff_iff, Bool.and_eq_true, decide_eq_true_eq,
    decide_eq_true_eq, beq_iff_eq]
  constructor
  · rintro ⟨hLe, hGe⟩
    exact Char.le_antisymm hGe hLe
  · rintro rfl
    exact ⟨Char.le_refl _, Char.le_refl _⟩

/-- Blanks are no word characters. -/
theorem isWord_of_isBlank {c : Char} (h : isBlank c = true) : isWord c = false := by
  have hBlanks : ∀ r ∈ blankRanges, ∀ i ≤ r.2 - r.1, isWord (Char.ofNat (r.1 + i)) = false := by
    decide +kernel
  have hAscend : ascend 0 blankRanges = true := by decide
  rw [isBlank, inRanges_eq_any hAscend, List.any_eq_true] at h
  obtain ⟨r, hr, hRange⟩ := h
  rw [inRange, Bool.and_eq_true, decide_eq_true_eq, decide_eq_true_eq] at hRange
  have hWord := hBlanks r hr (c.toNat - r.1) (by omega)
  rwa [Nat.add_sub_cancel' hRange.1, Char.ofNat_toNat] at hWord

/-! ## ASCII -/

/-- The shifts that lead to an ASCII character. -/
def asciiShifts : List Shift :=
  [⟨0x41, 0x5A, 1, 0x61⟩, ⟨0x17F, 0x17F, 1, 0x73⟩, ⟨0x212A, 0x212A, 1, 0x6B⟩]

theorem mem_asciiShifts {s : Shift} (hs : s ∈ foldShifts) (h : s.image < 0x80) :
    s ∈ asciiShifts := by
  have hShifts : ∀ s ∈ foldShifts, s.image < 0x80 → s ∈ asciiShifts := by decide +kernel
  exact hShifts s hs h

/-- The spellings of an ASCII character: both cases, for `s` the long s, and for `k` the sign
for kelvins. -/
theorem spelling_of_sameFold {c d : Char} (hAscii : c.toNat < 0x80) (h : sameFold c d = true) :
    d = c.toLower ∨ d = c.toUpper ∨ (c.toLower = 's' ∧ d = 'ſ') ∨
      (c.toLower = 'k' ∧ d = '\u212A') := by
  -- Three shifts lead to ASCII characters, so that the variants can be listed for all of them.
  have hSpellings : CharSet.asciiChars.all (fun c => decide ((foldCase c).toNat < 0x80) &&
      (foldCase c :: asciiShifts.filterMap fun s => (s.source? (foldCase c).toNat).map Char.ofNat).all
        fun d => decide (d = c.toLower ∨ d = c.toUpper ∨ (c.toLower = 's' ∧ d = 'ſ') ∨
          (c.toLower = 'k' ∧ d = '\u212A'))) = true := by
    decide +kernel
  have hMem : c ∈ CharSet.asciiChars :=
    List.mem_map.mpr ⟨c.toNat, List.mem_range.mpr hAscii, Char.ofNat_toNat c⟩
  have hChar := List.all_eq_true.mp hSpellings c hMem
  rw [Bool.and_eq_true, decide_eq_true_eq, List.all_eq_true] at hChar
  obtain ⟨hFold, hSpelling⟩ := hChar
  apply of_decide_eq_true
  apply hSpelling d
  rcases List.mem_cons.mp (mem_caseVariants h) with hSelf | hOther
  · exact hSelf ▸ List.mem_cons_self ..
  · obtain ⟨s, hs, hSource⟩ := List.mem_filterMap.mp hOther
    obtain ⟨n, hn, -⟩ := Option.map_eq_some_iff.mp hSource
    obtain ⟨i, -, -, hImage⟩ := Shift.eq_of_source? hn
    have hSmall : s.image < 0x80 := by omega
    exact List.mem_cons_of_mem _ (List.mem_filterMap.mpr ⟨s, mem_asciiShifts hs hSmall, hSource⟩)

/-! ## Texts -/

/-- Texts that agree up to case, character by character. -/
def Alike (a b : List Char) : Prop := a.map foldCase = b.map foldCase

/-- Whether texts agree up to case is decided character by character. -/
instance (a b : List Char) : Decidable (Alike a b) :=
  inferInstanceAs (Decidable (a.map foldCase = b.map foldCase))

@[simp] theorem alike_nil {b : List Char} : Alike [] b ↔ b = [] := by
  rw [Alike, List.map_nil, eq_comm, List.map_eq_nil_iff]

theorem alike_cons_cons {c d : Char} {a b : List Char} :
    Alike (c :: a) (d :: b) ↔ sameFold c d = true ∧ Alike a b := by
  simp [Alike, sameFold]

/-- A text that agrees with one that is not empty is not empty either. -/
theorem alike_cons {c : Char} {a b : List Char} :
    Alike (c :: a) b ↔ ∃ d ds, b = d :: ds ∧ sameFold c d = true ∧ Alike a ds := by
  constructor
  · intro h
    cases b with
    | nil => simp [Alike] at h
    | cons d ds => exact ⟨d, ds, rfl, alike_cons_cons.mp h⟩
  · rintro ⟨d, ds, rfl, h⟩
    exact alike_cons_cons.mpr h

/-- Every character of a spelling spells a character of the text. -/
theorem Alike.exists_of_mem {a b : List Char} (h : Alike a b) {d : Char} (hd : d ∈ b) :
    ∃ c ∈ a, sameFold c d = true := by
  have hFold : foldCase d ∈ a.map foldCase := h ▸ List.mem_map_of_mem hd
  obtain ⟨c, hc, hSame⟩ := List.mem_map.mp hFold
  exact ⟨c, hc, by rw [sameFold, hSame, beq_self_eq_true]⟩

theorem Alike.append {a b c d : List Char} (h : Alike a b) (h' : Alike c d) :
    Alike (a ++ c) (b ++ d) := by
  rw [Alike, List.map_append, List.map_append, h, h']

theorem Alike.length_eq {a b : List Char} (h : Alike a b) : a.length = b.length := by
  simpa using congrArg List.length h

end CommentSieve.Text
