import CommentSieve.Token.RegexLiteral
import Mathlib.Data.List.DropRight

/-!
# What stands before a slash

Whether a slash divides or opens a regular expression is decided on the text before it,
read backwards, and only on the nearest part of that. The blanks that may be skipped are
counted, and a keyword is looked for in a window of a few bytes, which may start inside of a
name. At the start of the window the text seems to begin, so that the end of a name could
be taken for a keyword there.

It never is. The window is longer than every keyword, so that a keyword in it is seen
together with the character before it, unless the text begins with the keyword indeed. What
is decided is therefore a matter of the name that the text ends in, however long that is.

Main results:

* `skipBlanks?_eq` — the blanks are skipped together, or not at all.
* `takeWhile_window` — a short run of characters is in a window exactly if it is in the text.
* `endsInKeyword_eq` — a keyword is found where it is the whole name before the slash.
* `opensAt?_eq_opensAfterText` — what is decided is what the whole text before the slash says.
-/

namespace CommentSieve.RegexLiteral

open Text

/-! ## By the whole text before a slash -/

/-- The name in which a text ends: as many characters of a name as there are. -/
def lastName (text : List Char) : List Char := text.rtakeWhile isNameChar

/-- Whether an expression may follow a text that does not end in a blank: if there is no
text, after a keyword and after an operator. -/
def expectsExpression (text : List Char) : Bool :=
  match text.getLast? with
  | none => true
  | some c =>
    if endsOperand c then keywords.any fun keyword => lastName text == keyword.toList
    else operators.contains c

/-- Whether a slash after a text opens a regular expression: at most `limit` blanks stand
before it, and an expression may follow what is before these. -/
def opensAfterText (limit : Nat) (text : List Char) : Bool :=
  decide ((text.rtakeWhile isBlank).length ≤ limit) &&
    expectsExpression (text.rdropWhile isBlank)

/-! ## Blanks -/

/-- Skipping blanks one by one leaves the text before all of them, or gives up. -/
theorem skipBlanks?_eq (limit : Nat) (before : List Char) :
    skipBlanks? limit before =
      if (before.takeWhile isBlank).length ≤ limit then some (before.dropWhile isBlank)
      else none := by
  induction before generalizing limit with
  | nil => simp [skipBlanks?]
  | cons c cs ih =>
    by_cases hBlank : isBlank c = true
    · cases limit with
      | zero => simp [skipBlanks?, hBlank]
      | succ limit =>
        -- one more blank, and one more that may be skipped
        rw [skipBlanks?, if_pos hBlank]
        simp only [ih, List.takeWhile_cons_of_pos hBlank, List.dropWhile_cons_of_pos hBlank,
          List.length_cons, Nat.succ_le_succ_iff]
    · -- nothing to skip, whatever the limit
      rw [skipBlanks?.eq_def]
      simp [hBlank]

/-! ## The window -/

/-- A window is a part of the text next to the slash. If it is not all of the text, it has as
many bytes as were asked for, or a few more where a character crosses its start. -/
theorem exists_append_of_window (bytes : Nat) (before : List Char) :
    ∃ rest, before = window bytes before ++ rest ∧
      (rest = [] ∨ bytes ≤ byteLength (window bytes before)) := by
  fun_induction window bytes before with
  | case1 before => exact ⟨before, rfl, .inr (Nat.zero_le _)⟩
  | case2 bytes => exact ⟨[], rfl, .inl rfl⟩
  | case3 bytes c cs ih =>
    -- a character that is wider than what is left to fill still belongs to the window
    obtain ⟨rest, hRest, hEnd⟩ := ih
    refine ⟨rest, by rw [List.cons_append, ← hRest], ?_⟩
    rcases hEnd with hAll | hFull
    · exact .inl hAll
    · right
      rw [byteLength_cons]
      omega

/-- A run of characters that is shorter than the window is the one next to the slash in the
window exactly if it is in the text: where the window cuts a run short, what is left of it is
still longer. -/
theorem takeWhile_window {p : Char → Bool} {bytes : Nat} {run : List Char}
    (hShort : byteLength run < bytes) (before : List Char) :
    (window bytes before).takeWhile p = run ↔ before.takeWhile p = run := by
  obtain ⟨rest, hRest, hAll | hFull⟩ := exists_append_of_window bytes before
  · rw [hAll, List.append_nil] at hRest
    rw [← hRest]
  · generalize window bytes before = near at hRest hFull
    subst hRest
    by_cases hCut : (near.takeWhile p).length = near.length
    · -- the run goes on to the start of the window, so that both runs are too long
      have hNear : near.takeWhile p = near :=
        (List.takeWhile_prefix p).eq_of_length hCut
      have hLong : ∀ more, near ++ more ≠ run := by
        rintro more rfl
        rw [byteLength_append] at hShort
        omega
      rw [List.takeWhile_append, if_pos hCut, hNear]
      constructor
      · intro hRun
        exact absurd (by rw [List.append_nil, hRun]) (hLong [])
      · intro hRun
        exact absurd hRun (hLong _)
    · rw [List.takeWhile_append, if_neg hCut]

/-! ## Keywords -/

/-- Keywords are names. -/
theorem isNameChar_of_mem_keywords {keyword : String} (h : keyword ∈ keywords) :
    ∀ c ∈ keyword.toList, isNameChar c = true := by
  have hAll : (keywords.all fun keyword => keyword.toList.all isNameChar) = true := by
    decide +kernel
  exact List.all_eq_true.mp (List.all_eq_true.mp hAll keyword h)

/-- Every keyword fits into the window, and one more character with it. -/
theorem byteLength_lt_window {keyword : String} (h : keyword ∈ keywords) :
    byteLength keyword.toList < keywordWindow := by
  revert keyword
  decide +kernel

/-- A text ends in a keyword, and in no more of a name, if the keyword is all of the name. -/
theorem endsInKeyword_eq {keyword : String} (hName : ∀ c ∈ keyword.toList, isNameChar c = true)
    (before : List Char) :
    endsInKeyword before keyword =
      decide (before.takeWhile isNameChar = keyword.toList.reverse) := by
  have hWord : ∀ c ∈ keyword.toList.reverse, isNameChar c = true := by
    intro c hc
    exact hName c (List.mem_reverse.mp hc)
  generalize hReverse : keyword.toList.reverse = word at hWord
  rw [endsInKeyword, hReverse]
  cases hStrip : stripStart? word before with
  | none =>
    -- a name that is the keyword would have been stripped off
    have hOther : before.takeWhile isNameChar ≠ word := by
      rintro rfl
      have hFound := stripStart?_append (before.takeWhile isNameChar)
        (before.dropWhile isNameChar)
      rw [List.takeWhile_append_dropWhile, hStrip] at hFound
      simp at hFound
    simp [hOther]
  | some rest =>
    rw [eq_append_of_stripStart? hStrip, List.takeWhile_append_of_pos hWord]
    cases rest with
    | nil => simp
    | cons c rest =>
      -- the name goes on if the next character belongs to one
      by_cases hMore : isNameChar c = true
      · simp [hMore]
      · simp [hMore]

/-- The window hides nothing that would make a difference. -/
theorem any_endsInKeyword_window (before : List Char) :
    keywords.any (endsInKeyword (window keywordWindow before)) =
      keywords.any fun keyword => lastName before.reverse == keyword.toList := by
  rw [Bool.eq_iff_iff, List.any_eq_true, List.any_eq_true]
  -- keyword by keyword, as the window is longer than each
  refine exists_congr fun keyword => and_congr_right fun hKeyword => ?_
  have hShort : byteLength keyword.toList.reverse < keywordWindow := by
    rw [byteLength_reverse]
    exact byteLength_lt_window hKeyword
  have hWindow := takeWhile_window (p := isNameChar) hShort before
  rw [endsInKeyword_eq (isNameChar_of_mem_keywords hKeyword), decide_eq_true_eq, hWindow,
    beq_iff_eq, lastName, List.rtakeWhile, List.reverse_reverse, List.reverse_eq_iff]

/-! ## The whole decision -/

/-- What the reader has gone by is the text before the slash, last character first. -/
theorem opensAfter_reverse (limit : Nat) (text : List Char) :
    opensAfter limit text.reverse = opensAfterText limit text := by
  rw [opensAfter, skipBlanks?_eq, opensAfterText, List.rtakeWhile, List.length_reverse,
    List.rdropWhile]
  by_cases hBlanks : (text.reverse.takeWhile isBlank).length ≤ limit
  · rw [if_pos hBlanks, decide_eq_true hBlanks, Bool.true_and]
    cases hLeft : text.reverse.dropWhile isBlank with
    | nil => rfl
    | cons c cs =>
      -- the character before the blanks is the last of the text up to there
      have hLast : (c :: cs).reverse.getLast? = some c := by
        rw [List.getLast?_reverse, List.head?_cons]
      rw [expectsExpression, hLast]
      show (if endsOperand c = true then
          keywords.any (endsInKeyword (window keywordWindow (c :: cs)))
        else operators.contains c) = _
      rw [any_endsInKeyword_window]
  · rw [if_neg hBlanks, decide_eq_false hBlanks, Bool.false_and]

/-- **Whether a slash opens a regular expression is a matter of the whole text before it.**
It does not open one behind too many blanks. Otherwise it does if nothing but blanks stands
before it, if the name in which the text before the blanks ends is a keyword, and after an
operator. The name may begin anywhere, and what follows the slash does not matter. -/
theorem opensAt?_eq_opensAfterText (before after : List Char) (maxLookback : Nat) :
    opensAt? (before ++ after) (byteLength before) maxLookback =
      some (opensAfterText maxLookback before) := by
  have hCut : cutExactly? (before ++ after) (byteLength before) = some (before, after) := by
    simp [cutExactly?, cut_append_left]
  rw [opensAt?, hCut, Option.map_some, opensAfter_reverse]

end CommentSieve.RegexLiteral
