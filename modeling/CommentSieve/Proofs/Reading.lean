import CommentSieve.Token.Scan

/-!
# Every reading takes a piece off the front

A reading names the characters of a token and the characters after it. Nothing in
its type says that the two are what it was given. This module proves it for every
reader, malformed input included: what was read and what is left make up the text,
and something was read. The loop that splits a text never has to step in, then.

For a literal the argument goes through the single steps: each moves some characters
of the rest over to those passed (`State.Moves`), and so does a whole run of steps.

Main results:

* `Literal.moves_run` — reading a literal only moves characters over.
* `Scan.readToken_splits` — every token is a piece of the text, and not an empty one.
* `Scan.loop_cons` — the loop takes every reading as it is.
-/

namespace CommentSieve

open Text

/-- A reading is the front of the text it was taken off, and not an empty one. -/
structure Reading.Splits (r : Reading) (cs : List Char) : Prop where
  append : r.text ++ r.rest = cs
  ne_nil : r.text ≠ []

/-- A reading leaves less than there was. -/
theorem Reading.Splits.length_lt {r : Reading} {cs : List Char} (h : r.Splits cs) :
    r.rest.length < cs.length := by
  have hPos : 0 < r.text.length := List.length_pos_iff.mpr h.ne_nil
  rw [← h.append, List.length_append]
  omega

/-- What was read starts with the first character of the text. -/
theorem Reading.Splits.exists_cons {r : Reading} {c : Char} {cs : List Char}
    (h : r.Splits (c :: cs)) : ∃ v, r.text = c :: v ∧ cs = v ++ r.rest := by
  obtain ⟨d, v, hText⟩ := List.exists_cons_of_ne_nil h.ne_nil
  have hAppend := h.append
  rw [hText, List.cons_append] at hAppend
  obtain ⟨rfl, rfl⟩ := List.cons.inj hAppend
  exact ⟨v, hText, rfl⟩

/-! ## Comments -/

namespace Comment

/-- A line comment is its opening and what follows on the line. -/
theorem readLine_eq {cs : List Char} (h : startsWith lineOpening cs = true) :
    ∃ body, cs = lineOpening ++ body ∧
      readLine cs =
        { context := .comment
          text := lineOpening ++ body.takeWhile (· != '\n')
          rest := body.dropWhile (· != '\n') } := by
  obtain ⟨body, hBody⟩ := Option.isSome_iff_exists.mp h
  refine ⟨body, eq_append_of_stripStart? hBody, ?_⟩
  rw [readLine, recogniseLine, hBody]

/-- A line comment splits the text. -/
theorem readLine_splits {cs : List Char} (h : startsWith lineOpening cs = true) :
    (readLine cs).Splits cs := by
  obtain ⟨body, hCs, hRead⟩ := readLine_eq h
  rw [hRead]
  refine ⟨?_, by simp [lineOpening]⟩
  rw [List.append_assoc, List.takeWhile_append_dropWhile, hCs]

/-- A comment with a terminator runs through it; without one it takes everything. -/
theorem read_cases {style : Style} {cs : List Char} (offset : Nat)
    (h : startsWith style.opening cs = true) :
    ∃ body, cs = style.opening ++ body ∧
      ((splitAround? style.terminator body = none ∧
          read style offset cs =
            { context := .comment, text := cs, rest := []
              findings := [.malformed style.malformed offset] }) ∨
        ∃ inner rest, splitAround? style.terminator body = some (inner, rest) ∧
          body = inner ++ (style.terminator ++ rest) ∧
          read style offset cs =
            { context := .comment
              text := style.opening ++ (inner ++ style.terminator)
              rest }) := by
  obtain ⟨body, hBody⟩ := Option.isSome_iff_exists.mp h
  refine ⟨body, eq_append_of_stripStart? hBody, ?_⟩
  -- The first terminator after the opening ends the comment, if there is one.
  cases hSplit : splitAround? style.terminator body with
  | none =>
    left
    rw [read, recognise, hBody]
    simp only [hSplit, and_self]
  | some pieces =>
    obtain ⟨inner, rest⟩ := pieces
    refine .inr ⟨inner, rest, rfl, ?_, ?_⟩
    · rw [eq_append_of_splitAround? hSplit, List.append_assoc]
    · rw [read, recognise, hBody]
      simp only [hSplit, List.append_assoc]

theorem Style.opening_ne_nil (style : Style) : style.opening ≠ [] := by
  cases style <;> simp [opening]

/-- A comment that is not a line comment splits the text, terminated or not. -/
theorem read_splits {style : Style} {cs : List Char} (offset : Nat)
    (h : startsWith style.opening cs = true) : (read style offset cs).Splits cs := by
  obtain ⟨body, hCs, ⟨-, hRead⟩ | ⟨inner, rest, -, hBody, hRead⟩⟩ := read_cases offset h
  · rw [hRead]
    refine ⟨List.append_nil cs, ?_⟩
    rw [hCs]
    exact List.append_ne_nil_of_left_ne_nil style.opening_ne_nil body
  · rw [hRead]
    refine ⟨?_, List.append_ne_nil_of_left_ne_nil style.opening_ne_nil _⟩
    rw [hCs, hBody]
    simp only [List.append_assoc]

end Comment

/-! ## Strings and templates -/

namespace Literal

namespace State

/-- From one state to another, characters were moved from the rest to those passed. -/
def Moves (s t : State) : Prop :=
  ∃ read, s.rest = read ++ t.rest ∧ t.passed = read.reverse ++ s.passed

theorem Moves.rfl {s : State} : s.Moves s := ⟨[], by simp, by simp⟩

/-- Moving on and on is moving on. -/
theorem Moves.trans {s t u : State} (h : s.Moves t) (h' : t.Moves u) : s.Moves u := by
  obtain ⟨read, hRest, hPassed⟩ := h
  obtain ⟨read', hRest', hPassed'⟩ := h'
  refine ⟨read ++ read', ?_, ?_⟩
  · rw [hRest, hRest', List.append_assoc]
  · rw [hPassed', hPassed, List.reverse_append, List.append_assoc]

/-- Only the characters matter, not the open literals, the depth or the findings. -/
theorem Moves.congr_left {s s' t : State} (h : s.Moves t) (hRest : s'.rest = s.rest)
    (hPassed : s'.passed = s.passed) : s'.Moves t := by
  obtain ⟨read, hr, hp⟩ := h
  exact ⟨read, by rw [hRest, hr], by rw [hPassed, hp]⟩

/-- Taking a character moves on. -/
theorem moves_advance (s : State) : s.Moves s.advance := by
  unfold advance
  split
  · exact .rfl
  · rename_i c cs hRest
    exact ⟨[c], by simp [hRest], by simp⟩

/-- Taking an escape moves on. -/
theorem moves_skipEscape (form : Escape.Form) (s : State) : s.Moves (s.skipEscape form) := by
  unfold skipEscape
  split
  · exact .rfl
  · rename_i c cs hRest
    refine ⟨c :: (Escape.split form cs).1, ?_, by simp⟩
    rw [hRest, List.cons_append, Escape.after, Escape.split_append]

@[simp] theorem passed_openLiteral (start : Nat) (context : Context) (s : State) :
    (s.openLiteral start context).passed = s.passed := by
  unfold openLiteral
  split <;> rfl

end State

/-- Every step in a string moves on. -/
theorem moves_stepString (form : Escape.Form) (start : Nat) (quote c : Char) (s : State) :
    s.Moves (stepString form start quote c s) := by
  unfold stepString
  split
  · exact s.moves_skipEscape form
  · split
    · split <;> exact ⟨[], rfl, rfl⟩
    · split
      · exact s.close.moves_advance.congr_left rfl rfl
      · exact s.moves_advance

/-- Every step in the text of a template moves on. -/
theorem moves_stepTemplate (form : Escape.Form) (c : Char) (next : List Char) (s : State) :
    s.Moves (stepTemplate form c next s) := by
  unfold stepTemplate
  split
  · exact s.moves_skipEscape form
  · split
    · exact s.close.moves_advance.congr_left rfl rfl
    · split
      · have hFirst : s.Moves s.enterInterpolation.advance :=
          s.enterInterpolation.moves_advance.congr_left rfl rfl
        exact hFirst.trans (State.moves_advance _)
      · exact s.moves_advance

/-- Every step in an interpolation moves on. -/
theorem moves_stepInterpolation (start braces : Nat) (c : Char) (s : State) :
    s.Moves (stepInterpolation start braces c s) := by
  have hOpen : ∀ context, s.Moves (s.openLiteral start context).advance := by
    intro context
    exact (State.moves_advance _).congr_left (by simp) (by simp)
  unfold stepInterpolation
  repeat' split
  · exact (State.moves_advance (s.setBraces _)).congr_left rfl rfl
  · exact (State.moves_advance (s.setBraces _)).congr_left rfl rfl
  · exact hOpen _
  · exact hOpen _
  · exact s.moves_advance

/-- Every step moves on. -/
theorem moves_step {form : Escape.Form} {start : Nat} {s t : State}
    (h : step form start s = some t) : s.Moves t := by
  unfold step at h
  split at h
  · simp at h
  · simp at h
  · rw [← Option.some.inj h]
    exact moves_stepString ..
  · rw [← Option.some.inj h]
    exact moves_stepTemplate ..
  · rw [← Option.some.inj h]
    exact moves_stepInterpolation ..
  all_goals
    rw [← Option.some.inj h]
    exact ⟨[], rfl, rfl⟩

/-- Reading a literal only moves characters over. -/
theorem moves_run (form : Escape.Form) (start : Nat) (s : State) :
    s.Moves (run form start s) := by
  fun_induction run form start s with
  | case1 s hStep => exact .rfl
  | case2 s t hStep ih => exact (moves_step hStep).trans ih

/-- What was read and what is left when a literal that started with `c` has been read. -/
theorem splits_of_moves {c : Char} {cs : List Char} {frames : Frames} {t : State}
    {context : Context} {findings : List Finding}
    (h : State.Moves { frames, passed := [c], rest := cs } t) :
    Reading.Splits { context, text := t.passed.reverse, rest := t.rest, findings } (c :: cs) := by
  obtain ⟨read, hRest, hPassed⟩ := h
  have hText : t.passed.reverse = c :: read := by rw [hPassed]; simp
  refine ⟨?_, by simp [hText]⟩
  show t.passed.reverse ++ t.rest = c :: cs
  rw [hText, List.cons_append, ← hRest]

/-- A flat string splits the text. -/
theorem splitFlat_append (form : Escape.Form) (quote : Char) (passed cs : List Char) :
    (splitFlat form quote passed cs).2.1.reverse ++ (splitFlat form quote passed cs).2.2 =
      passed.reverse ++ cs := by
  fun_induction splitFlat form quote passed cs with
  | case1 => rfl
  | case2 passed cs ih =>
    rw [ih, List.reverse_append, List.reverse_reverse, List.reverse_cons]
    simp [Escape.after, Escape.split_append]
  | case3 => rfl
  | case4 => simp
  | case5 passed c cs _ _ _ ih => rw [ih]; simp

/-- The text of a flat string holds what was passed before. -/
theorem splitFlat_ne_nil (form : Escape.Form) (quote : Char) {passed : List Char}
    (cs : List Char) (h : passed ≠ []) : (splitFlat form quote passed cs).2.1 ≠ [] := by
  fun_induction splitFlat form quote passed cs with
  | case1 => exact h
  | case2 passed cs ih => exact ih (by simp)
  | case3 => exact h
  | case4 => simp
  | case5 passed c cs _ _ _ ih => exact ih (by simp)

/-- A string splits the text, flat or not. -/
theorem readString_splits (form : Escape.Form) (limit start : Nat) (quote : Char)
    (cs : List Char) : (readString form limit start quote cs).Splits (quote :: cs) := by
  unfold readString
  split
  · exact splits_of_moves (moves_run ..)
  · have hAppend := splitFlat_append form quote [quote] cs
    have hNe := splitFlat_ne_nil form quote cs (List.cons_ne_nil quote [])
    exact ⟨hAppend, by simpa using hNe⟩

/-- A template splits the text. -/
theorem readTemplate_splits (form : Escape.Form) (limit start : Nat) (cs : List Char) :
    (readTemplate form limit start cs).Splits ('`' :: cs) := by
  unfold readTemplate
  split
  · exact splits_of_moves (moves_run ..)
  · exact ⟨List.append_nil _, by simp⟩

end Literal

/-! ## Regular expressions -/

namespace RegexLiteral

/-- A class splits the text. -/
theorem splitClass_append {passed cs passed' rest : List Char}
    (h : splitClass passed cs = some (passed', rest)) :
    passed'.reverse ++ rest = passed.reverse ++ cs := by
  fun_induction splitClass passed cs with
  | case1 => simp at h
  | case2 => simp at h
  | case3 passed c cs _ ih => rw [ih h]; simp
  | case4 =>
    obtain ⟨rfl, rfl⟩ := Prod.mk.inj (Option.some.inj h)
    simp
  | case5 => simp at h
  | case6 passed c cs _ _ _ ih => rw [ih h]; simp

/-- The body of a regular expression splits the text. -/
theorem splitBody_append (passed cs : List Char) :
    (splitBody passed cs).1.reverse ++ (splitBody passed cs).2 = passed.reverse ++ cs := by
  fun_induction splitBody passed cs with
  | case1 => rfl
  | case2 => rfl
  | case3 => rfl
  | case4 passed d ds _ ih => rw [ih]; simp
  | case5 passed cs _ passed' rest hClass ih =>
    rw [ih, splitClass_append hClass]
    simp
  | case6 => rfl
  | case7 => rfl
  | case8 passed c cs _ _ _ ih => rw [ih]; simp

/-- What is recognised is the front of the text, and not empty. -/
theorem recognise_append {cs text rest : List Char} (h : recognise cs = .ok (text, rest)) :
    text ++ rest = cs ∧ text ≠ [] := by
  unfold recognise at h
  split at h
  · rename_i inner
    have hAppend := splitBody_append ['/'] inner
    split at h
    · rename_i passed after hBody
      obtain ⟨rfl, rfl⟩ := Prod.mk.inj (Except.ok.inj h)
      rw [hBody] at hAppend
      refine ⟨?_, by simp⟩
      rw [List.append_assoc, List.cons_append, List.takeWhile_append_dropWhile]
      exact hAppend
    · simp at h
  · simp at h

theorem read_splits (offset : Nat) (cs : List Char) :
    (read offset ('/' :: cs)).Splits ('/' :: cs) := by
  unfold read
  split
  · rename_i text rest hRead
    obtain ⟨hAppend, hNe⟩ := recognise_append hRead
    exact ⟨hAppend, hNe⟩
  · exact ⟨List.takeWhile_append_dropWhile, by simp⟩

end RegexLiteral

/-! ## Code -/

namespace Scan

/-- Code splits the text. -/
theorem splitCode_append (passed cs : List Char) :
    (splitCode passed cs).1.reverse ++ (splitCode passed cs).2 = passed.reverse ++ cs := by
  fun_induction splitCode passed cs with
  | case1 => rfl
  | case2 => rfl
  | case3 => simp
  | case4 passed c cs _ _ ih => rw [ih]; simp

/-- A run of code holds what was passed before. -/
theorem splitCode_ne_nil {passed : List Char} (cs : List Char) (h : passed ≠ []) :
    (splitCode passed cs).1 ≠ [] := by
  fun_induction splitCode passed cs with
  | case1 => exact h
  | case2 => exact h
  | case3 => simp
  | case4 passed c cs _ _ ih => exact ih (by simp)

/-- A run of code splits the text and is not empty. -/
theorem readCode_splits (c : Char) (cs : List Char) : (readCode c cs).Splits (c :: cs) := by
  unfold readCode
  split
  · exact ⟨rfl, by simp⟩
  · have hAppend := splitCode_append [c] cs
    have hNe := splitCode_ne_nil cs (List.cons_ne_nil c [])
    exact ⟨hAppend, by simpa using hNe⟩

/-! ## Tokens -/

/-- The characters that open a string or a template. -/
def isQuote (c : Char) : Bool := c == '\'' || c == '"' || c == '`'

/-- Whether a comment of any kind starts here. -/
def opensComment (cs : List Char) : Bool :=
  startsWith Comment.Style.block.opening cs || startsWith Comment.lineOpening cs ||
    startsWith Comment.Style.html.opening cs

/-- A comment starts with a slash or an angle bracket. -/
theorem opensComment_of_ne {c : Char} (hSlash : c ≠ '/') (hAngle : c ≠ '<') (cs : List Char) :
    opensComment (c :: cs) = false := by
  simp [opensComment, startsWith, stripStart?, Comment.Style.opening, Comment.lineOpening,
    Ne.symm hSlash, Ne.symm hAngle]

/-- A slash opens a comment with a star or another slash. -/
theorem opensComment_slash (cs : List Char) :
    opensComment ('/' :: cs) = (cs.head? == some '*' || cs.head? == some '/') := by
  cases cs with
  | nil => rfl
  | cons c cs =>
    by_cases hStar : c = '*'
    · simp [opensComment, startsWith, stripStart?, Comment.Style.opening, hStar]
    · by_cases hSlash : c = '/'
      · simp [opensComment, startsWith, stripStart?, Comment.lineOpening, hSlash]
      · simp [opensComment, startsWith, stripStart?, Comment.Style.opening, Comment.lineOpening,
          hStar, hSlash, Ne.symm hStar, Ne.symm hSlash]

/-- An angle bracket without an exclamation mark opens none. -/
theorem opensComment_angle {cs : List Char} (h : cs.head? ≠ some '!') :
    opensComment ('<' :: cs) = false := by
  cases cs with
  | nil => rfl
  | cons c cs =>
    have hMark : '!' ≠ c := by simpa [eq_comm] using h
    simp [opensComment, startsWith, stripStart?, Comment.Style.opening, Comment.lineOpening, hMark]

/-- No comment starts with a quote. -/
theorem isQuote_of_opensComment {c : Char} {cs : List Char}
    (h : opensComment (c :: cs) = true) : isQuote c = false := by
  rw [← Bool.not_eq_true]
  intro hQuote
  have hNone : opensComment (c :: cs) = false := by
    simp only [isQuote, Bool.or_eq_true, beq_iff_eq] at hQuote
    rcases hQuote with (rfl | rfl) | rfl <;> exact opensComment_of_ne (by decide) (by decide) cs
  exact Bool.false_ne_true (hNone.symm.trans h)

/-- A place where no construct starts is a place in code. -/
theorem code_of_startsConstruct {c : Char} {cs : List Char}
    (h : startsConstruct (c :: cs) = false) :
    isQuote c = false ∧ c ≠ '/' ∧ opensComment (c :: cs) = false := by
  simp only [startsConstruct, Bool.or_eq_false_iff, beq_eq_false_iff_ne] at h
  obtain ⟨⟨⟨⟨hSingle, hDouble⟩, hTick⟩, hSlash⟩, hHtml⟩ := h
  refine ⟨by simp [isQuote, hSingle, hDouble, hTick], hSlash, ?_⟩
  have hBlock : startsWith Comment.Style.block.opening (c :: cs) = false := by
    simp [startsWith, stripStart?, Comment.Style.opening, Ne.symm hSlash]
  have hLine : startsWith Comment.lineOpening (c :: cs) = false := by
    simp [startsWith, stripStart?, Comment.lineOpening, Ne.symm hSlash]
  rw [opensComment, hBlock, hLine, hHtml]
  rfl

/-- How the token that starts with `c` is read: one case for each kind of token, with
what the text looks like there. -/
inductive Branch (form : Escape.Form) (o : Options) (before : List Char) (offset : Nat)
    (c : Char) (cs : List Char) : Reading → Prop
  | string (hQuote : c = '\'' ∨ c = '"') :
      Branch form o before offset c cs (Literal.readString form o.maxDepth offset c cs)
  | template (hTick : c = '`') :
      Branch form o before offset c cs (Literal.readTemplate form o.maxDepth offset cs)
  | delimited (style : Comment.Style) (hOpening : startsWith style.opening (c :: cs) = true) :
      Branch form o before offset c cs (Comment.read style offset (c :: cs))
  | line (hOpening : startsWith Comment.lineOpening (c :: cs) = true) :
      Branch form o before offset c cs (Comment.readLine (c :: cs))
  | regex (hSlash : c = '/') (hPlain : opensComment (c :: cs) = false)
      (hOpens : RegexLiteral.opensAfter o.maxLookback before = true) :
      Branch form o before offset c cs (RegexLiteral.read offset (c :: cs))
  | code (hQuote : isQuote c = false) (hPlain : opensComment (c :: cs) = false)
      (hDivides : c = '/' → RegexLiteral.opensAfter o.maxLookback before = false) :
      Branch form o before offset c cs (readCode c cs)

/-- Every token is read in one of these ways. -/
theorem readToken_branch (form : Escape.Form) (o : Options) (before : List Char) (offset : Nat)
    (c : Char) (cs : List Char) :
    Branch form o before offset c cs (readToken form o before offset c cs) := by
  -- The tests are made in this order; a test that fails is known in all later cases.
  simp only [readToken]
  by_cases hQuote : c = '\'' ∨ c = '"'
  · rw [if_pos hQuote]
    exact .string hQuote
  rw [if_neg hQuote]
  by_cases hTick : c = '`'
  · rw [if_pos hTick]
    exact .template hTick
  rw [if_neg hTick]
  by_cases hBlock : startsWith Comment.Style.block.opening (c :: cs) = true
  · rw [if_pos hBlock]
    exact .delimited .block hBlock
  rw [if_neg hBlock]
  by_cases hLine : startsWith Comment.lineOpening (c :: cs) = true
  · rw [if_pos hLine]
    exact .line hLine
  rw [if_neg hLine]
  by_cases hHtml : startsWith Comment.Style.html.opening (c :: cs) = true
  · rw [if_pos hHtml]
    exact .delimited .html hHtml
  rw [if_neg hHtml]
  have hPlain : opensComment (c :: cs) = false := by simp [opensComment, hBlock, hLine, hHtml]
  by_cases hRegex : c = '/' ∧ RegexLiteral.opensAfter o.maxLookback before = true
  · rw [if_pos hRegex]
    exact .regex hRegex.1 hPlain hRegex.2
  · rw [if_neg hRegex]
    refine .code ?_ hPlain fun hSlash => ?_
    · rw [not_or] at hQuote
      simp [isQuote, hQuote, hTick]
    · simpa using fun hOpens => hRegex ⟨hSlash, hOpens⟩

/-- Every token splits the text and is not empty. -/
theorem Branch.splits {form : Escape.Form} {o : Options} {before : List Char} {offset : Nat}
    {c : Char} {cs : List Char} {r : Reading} (h : Branch form o before offset c cs r) :
    r.Splits (c :: cs) := by
  cases h with
  | string => exact Literal.readString_splits ..
  | template hTick =>
    rw [hTick]
    exact Literal.readTemplate_splits ..
  | delimited style hOpening => exact Comment.read_splits offset hOpening
  | line hOpening => exact Comment.readLine_splits hOpening
  | regex hSlash =>
    rw [hSlash]
    exact RegexLiteral.read_splits ..
  | code => exact readCode_splits ..

/-- Whatever starts with `c`, the token is the front of the text and not empty. -/
theorem readToken_splits (form : Escape.Form) (o : Options) (before : List Char) (offset : Nat)
    (c : Char) (cs : List Char) : (readToken form o before offset c cs).Splits (c :: cs) :=
  (readToken_branch form o before offset c cs).splits

/-- The loop takes every reading as it is: none is empty, and each is the front of the
text. -/
theorem loop_cons {form : Escape.Form} {o : Options} {ceiling budget : Nat} {s : State}
    {c : Char} {cs : List Char} (h : s.rest = c :: cs) :
    loop form o ceiling (budget + 1) s =
      loop form o ceiling budget (s.take (readToken form o s.before s.offset c cs)) := by
  have hSplits := readToken_splits form o s.before s.offset c cs
  have hSame : atLeastOne s.offset c (readToken form o s.before s.offset c cs) =
      readToken form o s.before s.offset c cs := by
    rw [atLeastOne, if_neg (by simpa using hSplits.ne_nil)]
  have hStrip : stripStart? (readToken form o s.before s.offset c cs).text (c :: cs) =
      some (readToken form o s.before s.offset c cs).rest := by
    rw [← hSplits.append]
    exact stripStart?_append ..
  rw [loop, h]
  simp only [hSame, hStrip]

end Scan

end CommentSieve
