import CommentSieve.Proofs.Steps

/-!
# What follows a token does not matter

How a token is read hardly depends on the text after it. A string, template or comment
that has its end is read in the same way whatever follows. One that is broken off by the
end of the line or of the text is read in the same way as long as that end is still there.
A regular expression may take more flags, if letters come to follow it.

The proofs are about the short form of escapes, which never looks further ahead than one
character; `Scan.readToken_extended` carries them over.

Main results:

* `Literal.run_withRest` — reading a literal depends on the text after it only as far as
  that ends the line or the text.
* `Scan.readToken_withRest` — the same for strings, templates and comments as tokens.
* `RegexLiteral.read_withRest` — and for regular expressions, apart from flags.
-/

namespace CommentSieve

open Text

/-- If one text is empty or starts with a line end, so does the other. -/
structure EndsAlike (rest rest' : List Char) : Prop where
  nil : rest = [] → rest' = []
  line : rest.head? = some '\n' → rest'.head? = some '\n'

/-! ## Strings and templates -/

namespace Literal

/-- Reading a literal leaves no more than there was. -/
theorem length_run_le (form : Escape.Form) (start : Nat) (s : State) :
    (run form start s).rest.length ≤ s.rest.length := by
  obtain ⟨read, hRest, -⟩ := moves_run form start s
  rw [hRest, List.length_append]
  omega

/-- In template text something is read as long as there is something. -/
theorem length_run_lt (start : Nat) {s : State} (hTop : s.frames.top? = some (.template 0))
    (hRest : s.rest ≠ []) : (run .single start s).rest.length < s.rest.length := by
  obtain ⟨c, cs, hRest⟩ := List.exists_cons_of_ne_nil hRest
  have hTaken : (action start s (.template 0) c cs.head?).2 ≠ 0 := by
    intro hZero
    obtain ⟨⟨quote, hContext⟩, -⟩ := line_of_taken_eq_zero rfl hZero
    simp at hContext
  rw [run_of_step (step_eq_action start hTop hRest)]
  refine Nat.lt_of_le_of_lt (length_run_le ..) ?_
  simp only [State.moveOver, rest_action, hRest, List.length_drop, List.length_cons]
  omega

/-- A character that looks ahead is never the last of a literal that is followed by more. -/
theorem length_run_lt_of_looksAhead (start : Nat) {s : State} {context : Context} {c : Char}
    {rest : List Char} (hTop : s.frames.top? = some context) (hRest : s.rest = c :: rest)
    (hNe : rest ≠ []) (hAhead : context.looksAhead c = true) :
    (run .single start s).rest.length < rest.length := by
  have hPos := List.length_pos_iff.mpr hNe
  rw [run_of_step (step_eq_action start hTop hRest)]
  -- Two characters are taken, or one and then template text goes on.
  have hTwo : (action start s context c rest.head?).2 = 2 ∨
      (context = .template 0 ∧ action start s context c rest.head? = (s, 1)) := by
    match context with
    | .string quote =>
      have hEscape : c = '\\' := by simpa [Context.looksAhead] using hAhead
      simp [action, hEscape]
    | .template 0 =>
      rcases (by simpa [Context.looksAhead] using hAhead : c = '\\' ∨ c = '$') with rfl | rfl
      · simp [action]
      · by_cases hBrace : rest.head? = some '{'
        · simp [action, hBrace]
        · simp [action, hBrace]
  rcases hTwo with hTwo | ⟨rfl, hOne⟩
  · refine Nat.lt_of_le_of_lt (length_run_le ..) ?_
    simp only [hTwo, State.moveOver, rest_action, hRest, List.length_drop, List.length_cons]
    omega
  · have hMoved : (s.moveOver 1).rest = rest := by simp [State.moveOver, hRest]
    rw [hOne]
    have hLess := length_run_lt start (s := s.moveOver 1) hTop (hMoved ▸ hNe)
    rwa [hMoved] at hLess

/-- A step in another text that has the characters it takes and looks at. -/
theorem step_withRest (start : Nat) {s : State} {context : Context} {c : Char}
    {cs : List Char} (cs' : List Char) (hTop : s.frames.top? = some context)
    (hRest : s.rest = c :: cs)
    (hNext : action start s context c cs.head? = action start s context c cs'.head?)
    (hTaken : (c :: cs).take (action start s context c cs.head?).2 =
      (c :: cs').take (action start s context c cs.head?).2) :
    step .single start (s.withRest (c :: cs')) =
      some (((action start s context c cs.head?).1.moveOver
        (action start s context c cs.head?).2).withRest
          ((c :: cs').drop (action start s context c cs.head?).2)) := by
  have hTop' : (s.withRest (c :: cs')).frames.top? = some context := hTop
  rw [step_eq_action start hTop' rfl, action_withRest, ← hNext]
  simp only [State.moveOver, State.withRest, rest_action, hRest, hTaken]

/-- A step that takes nothing, before another text: it is a line end that breaks a string,
and the other text starts with one as well. -/
theorem step_withRest_line {start : Nat} {s : State} {context : Context} {c : Char}
    {cs rest' : List Char} (hTop : s.frames.top? = some context)
    (hSound : context.isSound = true) (hRest : s.rest = c :: cs)
    (hZero : (action start s context c cs.head?).2 = 0) (hAlike : EndsAlike (c :: cs) rest') :
    step .single start (s.withRest rest') =
      some ((action start s context c cs.head?).1.withRest rest') := by
  obtain ⟨⟨quote, rfl⟩, rfl⟩ := line_of_taken_eq_zero hSound hZero
  obtain ⟨cs', rfl⟩ := List.head?_eq_some_iff.mp (hAlike.line rfl)
  have hAlone : (Context.string quote).looksAhead '\n' = false := rfl
  have hNext := (action_of_looksAhead_eq_false start s hAlone cs.head? cs'.head?).1
  have hSame := step_withRest start cs' hTop hRest hNext (by rw [hZero]; rfl)
  rw [hZero] at hSame
  exact hSame

/-- What a character of the literal does is the same before another text: where the next
character matters it belongs to the literal as well. -/
theorem action_within {start : Nat} {s : State} {context : Context} {c : Char}
    {v rest : List Char} (hTop : s.frames.top? = some context)
    (hRest : s.rest = c :: (v ++ rest)) (hNe : rest ≠ [])
    (hStop : (run .single start s).rest = rest) (rest' : List Char) :
    action start s context c (v ++ rest).head? = action start s context c (v ++ rest').head? ∧
      (action start s context c (v ++ rest).head?).2 ≤ (c :: v).length := by
  cases v with
  | nil =>
    have hAlone : context.looksAhead c = false := by
      by_contra hAhead
      have hLess := length_run_lt_of_looksAhead start hTop hRest hNe (by simpa using hAhead)
      rw [hStop] at hLess
      exact absurd hLess (Nat.lt_irrefl _)
    exact action_of_looksAhead_eq_false start s hAlone _ _
  | cons e v => exact ⟨rfl, Nat.le_trans (taken_le_two ..) (by simp)⟩

/-- Reading a literal depends on the text after it only as far as that ends the line or the
text. -/
theorem run_withRest (start : Nat) {s : State} {v rest rest' : List Char}
    (hSound : s.frames.Sound) (hRest : s.rest = v ++ rest)
    (hStop : (run .single start s).rest = rest) (hAlike : EndsAlike rest rest') :
    run .single start (s.withRest (v ++ rest')) = (run .single start s).withRest rest' := by
  by_cases hNe : rest = []
  · -- The text ends with the literal in both cases.
    rw [hAlike.nil hNe, ← hNe, ← hRest, ← hStop]
    rfl
  fun_induction run .single start s generalizing v with
  | case1 s hStep =>
    have hv : v = [] := by simpa [hStop] using hRest
    have hClosed : s.frames.top? = none :=
      ((step_eq_none_iff start).mp hStep).resolve_right (hStop ▸ hNe)
    have hStuck : step .single start (s.withRest (v ++ rest')) = none :=
      (step_eq_none_iff start).mpr (.inl hClosed)
    rw [run_of_stuck hStuck, hv]
    rfl
  | case2 s t hStep ih =>
    have hEnd : (run .single start s).rest = rest := by rw [run_of_step hStep, hStop]
    obtain ⟨context, c, cs, hTop, hCons⟩ := exists_of_step hStep
    -- What is left after the step still ends in `rest`.
    obtain ⟨w, hw, -⟩ := moves_run .single start t
    rw [hStop] at hw
    have hSoundNext := sound_step hStep hSound
    have hAction := step_eq_action start hTop hCons
    rw [hStep] at hAction
    have ht := Option.some.inj hAction
    have hLeft : (c :: cs).drop (action start s context c cs.head?).2 = w ++ rest := by
      rw [← hw, ht, State.moveOver, rest_action, hCons]
    -- It is enough that the step is the same before the other text.
    suffices hSame :
        step .single start (s.withRest (v ++ rest')) = some (t.withRest (w ++ rest')) by
      rw [run_of_step hSame]
      exact ih hSoundNext hw hStop
    rw [hCons] at hRest
    cases v with
    | nil =>
      -- The literal has been read but is still open, so that the step takes nothing.
      obtain rfl : c :: cs = rest := hRest
      have hZero : (action start s context c cs.head?).2 = 0 := by
        have hLength := congrArg List.length hLeft
        rw [List.length_append, List.length_drop, List.length_cons] at hLength
        omega
      have hw : w = [] := by
        rw [hZero] at hLeft
        simpa using hLeft
      rw [hZero] at ht
      rw [hw, ht]
      exact step_withRest_line hTop (hSound.top? hTop) hCons hZero hAlike
    | cons d v =>
      obtain ⟨rfl, rfl⟩ : c = d ∧ cs = v ++ rest := by simpa using hRest
      obtain ⟨hNext, hTaken⟩ := action_within hTop hCons hNe hEnd rest'
      have hw : w = (c :: v).drop (action start s context c (v ++ rest).head?).2 := by
        rw [← List.cons_append, List.drop_append_of_le_length hTaken] at hLeft
        exact (List.append_cancel_right hLeft).symm
      have hSame := step_withRest start (v ++ rest') hTop hCons hNext (by
        rw [← List.cons_append, ← List.cons_append, List.take_append_of_le_length hTaken,
          List.take_append_of_le_length hTaken])
      rw [← List.cons_append, List.drop_append_of_le_length hTaken, ← hw, ← ht] at hSame
      exact hSame

/-- How a flat string is read does not depend on what comes after it. -/
theorem splitFlat_withRest {quote : Char} (hQuote : quote = '\'' ∨ quote = '"')
    {passed v rest rest' : List Char}
    (hStop : (splitFlat .single quote passed (v ++ rest)).2.2 = rest)
    (hAlike : EndsAlike rest rest') :
    (splitFlat .single quote passed (v ++ rest')).2.1 =
        (splitFlat .single quote passed (v ++ rest)).2.1 ∧
      (splitFlat .single quote passed (v ++ rest')).2.2 = rest' := by
  -- The string is read on its own, with a stack that has room for it.
  have hString : ∀ text, run .single 0 ⟨⟨1, [.string quote]⟩, passed, text, 0, []⟩ =
      stringEnd 0 ⟨⟨1, [.string quote]⟩, passed, text, 0, []⟩
        (splitFlat .single quote passed text) := fun text => run_string .single 0 rfl
  have hSound : Frames.Sound ⟨1, [.string quote]⟩ := by
    simpa [Frames.Sound, Context.isSound] using hQuote
  have hRun := run_withRest 0 (s := ⟨⟨1, [.string quote]⟩, passed, v ++ rest, 0, []⟩)
    hSound rfl (by rw [hString, rest_stringEnd, hStop]) hAlike
  rw [State.withRest, hString, hString] at hRun
  constructor
  · simpa [State.withRest] using congrArg State.passed hRun
  · simpa [State.withRest] using congrArg State.rest hRun

/-- How a string is read does not depend on what comes after it. -/
theorem readString_withRest {limit start : Nat} {quote : Char} {v rest rest' : List Char}
    (hQuote : quote = '\'' ∨ quote = '"')
    (hStop : (readString .single limit start quote (v ++ rest)).rest = rest)
    (hAlike : EndsAlike rest rest') (start' : Nat) :
    (readString .single limit start' quote (v ++ rest')).text =
        (readString .single limit start quote (v ++ rest)).text ∧
      (readString .single limit start' quote (v ++ rest')).rest = rest' := by
  obtain ⟨hText, hRest⟩ := readString_extent .single limit start quote (v ++ rest)
  obtain ⟨hText', hRest'⟩ := readString_extent .single limit start' quote (v ++ rest')
  obtain ⟨hPassed, hLeft⟩ := splitFlat_withRest hQuote (hRest ▸ hStop) hAlike
  exact ⟨by rw [hText, hText', hPassed], by rw [hRest', hLeft]⟩

/-- How a template is read, with all that is open in it, does not depend on what comes after it. -/
theorem readTemplate_withRest {limit start : Nat} {v rest rest' : List Char}
    (hStop : (readTemplate .single limit start (v ++ rest)).rest = rest)
    (hAlike : EndsAlike rest rest') (start' : Nat) :
    (readTemplate .single limit start' (v ++ rest')).text =
        (readTemplate .single limit start (v ++ rest)).text ∧
      (readTemplate .single limit start' (v ++ rest')).rest = rest' ∧
      (readTemplate .single limit start' (v ++ rest')).context =
        (readTemplate .single limit start (v ++ rest)).context := by
  unfold readTemplate at hStop ⊢
  cases hPush : Frames.push? { limit } (.template 0) with
  | none =>
    -- Without room nothing is opened, and all of the text is taken.
    rw [hPush] at hStop
    obtain rfl : [] = rest := hStop
    obtain rfl := hAlike.nil rfl
    exact ⟨rfl, rfl, rfl⟩
  | some frames =>
    rw [hPush] at hStop
    have hRun := run_withRest start (s := ⟨frames, ['`'], v ++ rest, 0, []⟩)
      (sound_singleton hPush rfl) rfl hStop hAlike
    -- The start of the literal is only named in findings, which are left out here.
    have hSame : State.quiet ⟨frames, ['`'], v ++ rest', 0, []⟩ =
        State.quiet ⟨frames, ['`'], v ++ rest', 0, []⟩ := rfl
    have hQuiet := quiet_run start' start hSame
    rw [State.withRest] at hRun
    rw [hRun] at hQuiet
    have hPassed := congrArg State.passed hQuiet
    have hNesting := congrArg State.nesting hQuiet
    refine ⟨congrArg List.reverse hPassed, rest_of_quiet hQuiet, ?_⟩
    exact congrArg Context.template hNesting

end Literal

/-! ## Comments -/

namespace Text

/-- Whether a text begins with a run of characters is seen from as many characters. -/
theorem stripStart?_append_of_le {start as : List Char} (h : start.length ≤ as.length)
    (rest : List Char) :
    stripStart? start (as ++ rest) = (stripStart? start as).map (· ++ rest) := by
  induction start generalizing as with
  | nil => rfl
  | cons s start ih =>
    cases as with
    | nil => simp at h
    | cons a as =>
      rw [List.cons_append, stripStart?, stripStart?]
      split
      · exact ih (by simpa using h)
      · rfl

/-- Where a run of characters first occurs is seen from the text through it. -/
theorem splitAround?_withRest {run inner rest : List Char}
    (h : splitAround? run (inner ++ (run ++ rest)) = some (inner, rest)) (rest' : List Char) :
    splitAround? run (inner ++ (run ++ rest')) = some (inner, rest') := by
  induction inner with
  | nil => exact splitAround?_of_some (stripStart?_append run rest')
  | cons c inner ih =>
    have hLength : run.length ≤ (c :: inner ++ run).length := by
      simp only [List.length_append]
      omega
    -- The run does not start here: it would have been found here.
    have hNone : stripStart? run (c :: inner ++ run) = none := by
      by_contra hSome
      obtain ⟨after, hAfter⟩ := Option.ne_none_iff_exists'.mp hSome
      have hFound := stripStart?_append_of_le hLength rest
      rw [hAfter, List.append_assoc] at hFound
      rw [splitAround?_of_some hFound] at h
      simp at h
    have hMissing : ∀ after, stripStart? run (c :: (inner ++ (run ++ after))) = none := by
      intro after
      have hFound := stripStart?_append_of_le hLength after
      rwa [hNone, List.append_assoc, List.cons_append] at hFound
    rw [List.cons_append, splitAround?_cons_of_none (hMissing _)] at h ⊢
    have hMore : splitAround? run (inner ++ (run ++ rest)) = some (inner, rest) := by
      simpa using h
    rw [ih hMore]
    rfl

/-- A line ends with the text or at a line end. -/
theorem line_cases (cs : List Char) :
    cs.dropWhile (· != '\n') = [] ∨ (cs.dropWhile (· != '\n')).head? = some '\n' := by
  have hFirst := List.head?_dropWhile_not (· != '\n') cs
  cases hLeft : cs.dropWhile (· != '\n') with
  | nil => exact .inl rfl
  | cons c x =>
    rw [hLeft] at hFirst
    right
    simpa using hFirst

/-- What is left of a line is seen from it, if it ends as before. -/
theorem line_withRest {cs rest' : List Char}
    (hAlike : EndsAlike (cs.dropWhile (· != '\n')) rest') :
    (cs.takeWhile (· != '\n') ++ rest').takeWhile (· != '\n') = cs.takeWhile (· != '\n') ∧
      (cs.takeWhile (· != '\n') ++ rest').dropWhile (· != '\n') = rest' := by
  have hLine : ∀ c ∈ cs.takeWhile (· != '\n'), (c != '\n') = true := by
    intro c hc
    exact List.mem_takeWhile_imp (p := (· != '\n')) hc
  have hStops : rest'.takeWhile (· != '\n') = [] ∧ rest'.dropWhile (· != '\n') = rest' := by
    rcases line_cases cs with hEnd | hEnd
    · simp [hAlike.nil hEnd]
    · obtain ⟨x, rfl⟩ := List.head?_eq_some_iff.mp (hAlike.line hEnd)
      simp
  rw [List.takeWhile_append_of_pos hLine, List.dropWhile_append_of_pos hLine, hStops.1, hStops.2,
    List.append_nil]
  exact ⟨rfl, rfl⟩

end Text

namespace Comment

theorem startsWith_append (start rest : List Char) : startsWith start (start ++ rest) = true := by
  rw [startsWith, stripStart?_append]
  rfl

/-- A line comment does not depend on what comes after its line. -/
theorem readLine_withRest {cs : List Char} (h : startsWith lineOpening cs = true)
    {rest' : List Char} (hAlike : EndsAlike (readLine cs).rest rest') :
    readLine ((readLine cs).text ++ rest') = { readLine cs with rest := rest' } := by
  obtain ⟨body, hCs, hRead⟩ := readLine_eq h
  rw [hRead] at hAlike ⊢
  obtain ⟨hLine, hRest⟩ := line_withRest hAlike
  obtain ⟨body', hCs', hRead'⟩ := readLine_eq
    (startsWith_append lineOpening (body.takeWhile (· != '\n') ++ rest'))
  dsimp only
  rw [List.append_assoc, hRead', ← List.append_cancel_left hCs', hLine, hRest]

/-- How a delimited comment is read does not depend on what comes after it. -/
theorem read_withRest {style : Style} {cs : List Char} {offset : Nat}
    (h : startsWith style.opening cs = true) {rest' : List Char}
    (hAlike : EndsAlike (read style offset cs).rest rest') (offset' : Nat) :
    (read style offset' ((read style offset cs).text ++ rest')).text =
        (read style offset cs).text ∧
      (read style offset' ((read style offset cs).text ++ rest')).rest = rest' := by
  obtain ⟨body, hCs, ⟨hNone, hRead⟩ | ⟨inner, rest, hSplit, hBody, hRead⟩⟩ := read_cases offset h
  · -- A comment without its end is followed by nothing.
    rw [hRead] at hAlike ⊢
    obtain rfl := hAlike.nil rfl
    dsimp only
    rw [List.append_nil]
    obtain ⟨body', hCs', ⟨-, hRead'⟩ | ⟨inner, rest, hSplit, -, -⟩⟩ := read_cases offset' h
    · rw [hRead']
      exact ⟨rfl, rfl⟩
    · rw [List.append_cancel_left (hCs.symm.trans hCs'), hSplit] at hNone
      simp at hNone
  · rw [hRead]
    dsimp only
    rw [List.append_assoc, List.append_assoc]
    have hSplit' := splitAround?_withRest (hBody ▸ hSplit) rest'
    obtain ⟨body', hCs', ⟨hNone, -⟩ | ⟨inner', rest'', hSplit'', -, hRead'⟩⟩ :=
      read_cases offset' (startsWith_append style.opening (inner ++ (style.terminator ++ rest')))
    · rw [← List.append_cancel_left hCs', hSplit'] at hNone
      simp at hNone
    · rw [← List.append_cancel_left hCs', hSplit'] at hSplit''
      obtain ⟨rfl, rfl⟩ := Prod.mk.inj (Option.some.inj hSplit'')
      rw [hRead']
      exact ⟨rfl, rfl⟩

end Comment

/-! ## Regular expressions -/

namespace RegexLiteral

/-- A text that starts with a character and ends in a rest, the rest coming later. -/
theorem exists_cons_of_length_le {c : Char} {cs v rest : List Char} (h : v ++ rest = c :: cs)
    (hLength : rest.length ≤ cs.length) : ∃ w, v = c :: w ∧ cs = w ++ rest := by
  cases v with
  | nil =>
    obtain rfl : rest = c :: cs := h
    exact absurd hLength (Nat.not_succ_le_self _)
  | cons d w =>
    obtain ⟨rfl, rfl⟩ : d = c ∧ w ++ rest = cs := by simpa using h
    exact ⟨w, rfl, rfl⟩

/-- What is left after a class is an end of the text. -/
theorem suffix_of_splitClass {passed cs passed' rest : List Char}
    (h : splitClass passed cs = some (passed', rest)) : rest <:+ cs := by
  have hAppend := splitClass_append h
  refine List.suffix_of_suffix_length_le ⟨passed'.reverse, hAppend⟩ (List.suffix_append ..) ?_
  exact Nat.le_of_lt (length_splitClass_lt h)

/-- A class goes on over any other character. -/
theorem splitClass_plain {c : Char} (hClose : c ≠ ']') (hPlain : ¬ (c = '\\' ∨ c = '\n'))
    (passed cs : List Char) : splitClass passed (c :: cs) = splitClass (c :: passed) cs := by
  rw [splitClass, if_neg hClose, if_neg hPlain]
  intro d ds hEscape
  exact absurd (.inl hEscape) hPlain

/-- A class that is closed is read in the same way before another text. -/
theorem splitClass_withRest {passed v rest passed' : List Char}
    (h : splitClass passed (v ++ rest) = some (passed', rest)) (rest' : List Char) :
    splitClass passed (v ++ rest') = some (passed', rest') := by
  -- What is read is part of `v`, since the class leaves `rest`.
  generalize hText : v ++ rest = text at h
  fun_induction splitClass passed text generalizing v with
  | case1 => simp at h
  | case2 => simp at h
  | case3 passed c cs hLine ih =>
    have hLength := length_splitClass_lt h
    obtain ⟨w, rfl, hw⟩ := exists_cons_of_length_le hText (by simp only [List.length_cons]; omega)
    obtain ⟨w, rfl, rfl⟩ := exists_cons_of_length_le hw.symm (Nat.le_of_lt hLength)
    rw [List.cons_append, List.cons_append, splitClass, if_neg hLine]
    exact ih rfl h
  | case4 passed cs =>
    obtain ⟨rfl, rfl⟩ := Prod.mk.inj (Option.some.inj h)
    obtain ⟨w, rfl, hw⟩ := exists_cons_of_length_le hText (Nat.le_refl _)
    obtain rfl : w = [] := by simpa using hw
    rw [List.cons_append, List.nil_append, splitClass, if_pos rfl]
    simp
  | case5 => simp at h
  | case6 passed c cs hEscape hClose hPlain ih =>
    obtain ⟨w, rfl, rfl⟩ := exists_cons_of_length_le hText (Nat.le_of_lt (length_splitClass_lt h))
    rw [List.cons_append, splitClass_plain hClose hPlain]
    exact ih rfl h

/-- A class that is not closed on its line stays so, whatever the next lines. -/
theorem splitClass_line {passed line : List Char} (h : splitClass passed line = none)
    (hLine : '\n' ∉ line) (rest : List Char) : splitClass passed (line ++ '\n' :: rest) = none := by
  fun_induction splitClass passed line with
  | case1 => simp [splitClass]
  | case2 => simp at hLine
  | case3 passed c cs hc ih =>
    rw [List.cons_append, List.cons_append, splitClass, if_neg hc]
    exact ih h (by simp_all)
  | case4 => simp at h
  | case5 passed c cs hAlone hClose hStop =>
    -- A backslash at the end of the line.
    have hEscape : c = '\\' := by
      rcases hStop with hEscape | rfl
      · exact hEscape
      · simp at hLine
    subst hEscape
    cases cs with
    | nil => simp [splitClass]
    | cons d ds => exact absurd rfl (hAlone d ds rfl)
  | case6 passed c cs hAlone hClose hPlain ih =>
    rw [List.cons_append, splitClass_plain hClose hPlain]
    exact ih h (by simp_all)

/-- The body of a regular expression leaves no more than there was. -/
theorem length_splitBody_le (passed cs : List Char) :
    (splitBody passed cs).2.length ≤ cs.length := by
  fun_induction splitBody passed cs with
  | case1 => exact Nat.le_refl _
  | case2 => exact Nat.le_refl _
  | case3 => exact Nat.le_refl _
  | case4 passed d ds _ ih =>
    simp only [List.length_cons]
    omega
  | case5 passed cs _ passed' rest hClass ih =>
    have hLength := length_splitClass_lt hClass
    simp only [List.length_cons]
    omega
  | case6 => exact Nat.le_refl _
  | case7 => exact Nat.le_refl _
  | case8 passed c cs _ _ _ ih =>
    simp only [List.length_cons]
    omega

/-- The body goes on over a character that means nothing. -/
theorem splitBody_plain {c : Char} (hEscape : c ≠ '\\') (hClass : c ≠ '[')
    (hPlain : ¬ (c = '/' ∨ c = '\n')) (passed cs : List Char) :
    splitBody passed (c :: cs) = splitBody (c :: passed) cs := by
  rw [splitBody.eq_def]
  simp only [if_neg hEscape, if_neg hClass, if_neg hPlain]

theorem splitBody_escape {d : Char} (hd : d ≠ '\n') (passed ds : List Char) :
    splitBody passed ('\\' :: d :: ds) = splitBody (d :: '\\' :: passed) ds := by
  rw [splitBody.eq_def]
  simp only [if_pos, if_neg hd]

/-- The body of a regular expression goes on over a class. -/
theorem splitBody_class {passed cs passed' rest : List Char}
    (h : splitClass ('[' :: passed) cs = some (passed', rest)) :
    splitBody passed ('[' :: cs) = splitBody passed' rest := by
  rw [splitBody.eq_def]
  simp only [show ('[' : Char) ≠ '\\' by decide, if_false, if_true]
  split
  · rename_i hSome
    rw [h] at hSome
    obtain ⟨rfl, rfl⟩ := Prod.mk.inj (Option.some.inj hSome)
    rfl
  · rename_i hNone
    rw [h] at hNone
    simp at hNone

theorem suffix_splitBody (passed cs : List Char) : (splitBody passed cs).2 <:+ cs :=
  List.suffix_of_suffix_length_le ⟨_, splitBody_append passed cs⟩ (List.suffix_append ..)
    (length_splitBody_le passed cs)

/-- A body that is closed by a slash is read in the same way before another text. -/
theorem splitBody_withRest {passed v rest passed' : List Char}
    (h : splitBody passed (v ++ '/' :: rest) = (passed', '/' :: rest)) (rest' : List Char) :
    splitBody passed (v ++ '/' :: rest') = (passed', '/' :: rest') := by
  generalize hText : v ++ '/' :: rest = text at h
  fun_induction splitBody passed text generalizing v with
  | case1 => simp at hText
  | case2 => simp at h
  | case3 => simp at h
  | case4 passed d ds hd ih =>
    have hLength := length_splitBody_le (d :: '\\' :: passed) ds
    rw [h] at hLength
    obtain ⟨w, rfl, hw⟩ := exists_cons_of_length_le hText (by
      simp only [List.length_cons] at *
      omega)
    obtain ⟨w, rfl, rfl⟩ := exists_cons_of_length_le hw.symm hLength
    rw [List.cons_append, List.cons_append, splitBody_escape hd]
    exact ih rfl h
  | case5 passed cs passed₁ rest₁ hNot hClass ih =>
    have hLength := length_splitBody_le passed₁ rest₁
    rw [h] at hLength
    have hLess := length_splitClass_lt hClass
    obtain ⟨w, rfl, rfl⟩ := exists_cons_of_length_le hText (by
      simp only [List.length_cons] at *
      omega)
    -- The class lies before the slash.
    obtain ⟨inside, hInside⟩ := suffix_of_splitClass hClass
    obtain ⟨after, hAfter⟩ := suffix_splitBody passed₁ rest₁
    rw [h] at hAfter
    dsimp only at hAfter
    subst hAfter
    obtain rfl : inside ++ after = w := by
      rw [← List.append_assoc] at hInside
      exact List.append_cancel_right hInside
    have hClass' := splitClass_withRest (List.append_assoc .. ▸ hClass) (after ++ '/' :: rest')
    rw [← List.append_assoc] at hClass'
    rw [List.cons_append, splitBody_class hClass']
    exact ih rfl h
  | case6 => simp at h
  | case7 passed c cs hEscape hClass hStop =>
    obtain ⟨rfl, rfl, rfl⟩ : passed = passed' ∧ c = '/' ∧ cs = rest := by simpa using h
    obtain rfl : v = [] := by
      have hLength := congrArg List.length hText
      rw [List.length_append, List.length_cons] at hLength
      exact List.length_eq_zero_iff.mp (by omega)
    rw [List.nil_append, splitBody.eq_def]
    rfl
  | case8 passed c cs hEscape hClass hPlain ih =>
    have hLength := length_splitBody_le (c :: passed) cs
    rw [h] at hLength
    obtain ⟨w, rfl, rfl⟩ := exists_cons_of_length_le hText hLength
    rw [List.cons_append, splitBody_plain hEscape hClass hPlain]
    exact ih rfl h

/-- Where the body of a literal stops on its line does not depend on the next lines. -/
theorem splitBody_line {line : List Char} (passed : List Char) (hLine : '\n' ∉ line) :
    ∃ passed' left, ∀ rest,
      splitBody passed (line ++ '\n' :: rest) = (passed', left ++ '\n' :: rest) := by
  fun_induction splitBody passed line with
  | case1 passed =>
    refine ⟨passed, [], fun rest => ?_⟩
    rw [List.nil_append, splitBody.eq_def]
    rfl
  | case2 passed =>
    refine ⟨passed, ['\\'], fun rest => ?_⟩
    rw [List.cons_append, splitBody.eq_def]
    rfl
  -- No end of line is escaped in a line.
  | case3 => simp at hLine
  | case4 passed d ds hd ih =>
    obtain ⟨passed', left, hBody⟩ := ih (by simp_all)
    refine ⟨passed', left, fun rest => ?_⟩
    rw [List.cons_append, List.cons_append, splitBody_escape hd, hBody]
  | case5 passed cs passed₁ rest₁ _ hClass ih =>
    obtain ⟨inside, rfl⟩ := suffix_of_splitClass hClass
    obtain ⟨passed', left, hBody⟩ := ih (by simp_all)
    refine ⟨passed', left, fun rest => ?_⟩
    have hClass' := splitClass_withRest hClass (rest₁ ++ '\n' :: rest)
    rw [List.cons_append, List.append_assoc, splitBody_class hClass', hBody]
  | case6 passed cs _ hClass =>
    -- A class that is not closed in the line is not closed in front of its end either.
    have hNone := splitClass_line hClass (fun h => hLine (List.mem_cons_of_mem _ h))
    refine ⟨passed, '[' :: cs, fun rest => ?_⟩
    rw [List.cons_append, splitBody.eq_def]
    simp only [show ('[' : Char) ≠ '\\' by decide, if_false, if_true]
    split
    · rename_i hSome
      rw [hNone] at hSome
      simp at hSome
    · rfl
  | case7 passed c cs hEscape hClass hStop =>
    refine ⟨passed, c :: cs, fun rest => ?_⟩
    rw [List.cons_append, splitBody.eq_def]
    simp only [if_neg hEscape, if_neg hClass, if_pos hStop]
  | case8 passed c cs hEscape hClass hPlain ih =>
    obtain ⟨passed', left, hBody⟩ := ih (by simp_all)
    refine ⟨passed', left, fun rest => ?_⟩
    rw [List.cons_append, splitBody_plain hEscape hClass hPlain, hBody]

/-- A literal with its end, as it was recognised. -/
theorem recognise_ok {inner text rest : List Char}
    (h : recognise ('/' :: inner) = .ok (text, rest)) :
    ∃ v after, inner = v ++ '/' :: after ∧
      splitBody ['/'] (v ++ '/' :: after) = (('/' :: v).reverse, '/' :: after) ∧
      text = '/' :: (v ++ '/' :: after.takeWhile isFlag) ∧ rest = after.dropWhile isFlag := by
  simp only [recognise] at h
  split at h
  · rename_i passed after hBody
    obtain ⟨rfl, rfl⟩ := Prod.mk.inj (Except.ok.inj h)
    obtain ⟨v, rfl⟩ : ∃ v, v ++ '/' :: after = inner := by
      have hSuffix := suffix_splitBody ['/'] inner
      rwa [hBody] at hSuffix
    have hAppend := splitBody_append ['/'] (v ++ '/' :: after)
    rw [hBody, ← List.append_assoc] at hAppend
    have hPassed : passed.reverse = '/' :: v := List.append_cancel_right hAppend
    refine ⟨v, after, rfl, ?_, ?_, rfl⟩
    · rw [hBody, ← hPassed, List.reverse_reverse]
    · rw [hPassed]
      rfl
  · simp at h

/-- With its second slash a regular expression is recognised, and takes its flags. -/
theorem recognise_of_splitBody {v after : List Char}
    (h : splitBody ['/'] (v ++ '/' :: after) = (('/' :: v).reverse, '/' :: after)) :
    recognise ('/' :: (v ++ '/' :: after)) =
      .ok ('/' :: (v ++ '/' :: after.takeWhile isFlag), after.dropWhile isFlag) := by
  simp only [recognise, h]
  simp

/-- A literal with its end is recognised before another text too; it takes the flags that
come to follow it. -/
theorem recognise_withRest {inner text rest : List Char}
    (h : recognise ('/' :: inner) = .ok (text, rest)) (rest' : List Char) :
    recognise (text ++ rest') =
      .ok (text ++ rest'.takeWhile isFlag, rest'.dropWhile isFlag) := by
  obtain ⟨v, after, rfl, hBody, rfl, rfl⟩ := recognise_ok h
  have hFlags : ∀ c ∈ after.takeWhile isFlag, isFlag c = true := fun c hc =>
    List.mem_takeWhile_imp hc
  have hBody' := splitBody_withRest hBody (after.takeWhile isFlag ++ rest')
  have hRecognised := recognise_of_splitBody hBody'
  rw [List.takeWhile_append_of_pos hFlags, List.dropWhile_append_of_pos hFlags] at hRecognised
  simpa using hRecognised

/-- A literal without its end on its line stays so, whatever the next lines. -/
theorem recognise_line {line rest : List Char} {complaints : List Complaint}
    (h : recognise ('/' :: (line ++ '\n' :: rest)) = .error complaints) (hLine : '\n' ∉ line)
    (rest' : List Char) :
    ∃ complaints', recognise ('/' :: (line ++ '\n' :: rest')) = .error complaints' := by
  obtain ⟨passed, left, hBody⟩ := splitBody_line ['/'] hLine
  simp only [recognise, hBody] at h ⊢
  cases left with
  | nil => exact ⟨_, rfl⟩
  | cons c left =>
    by_cases hSlash : c = '/'
    · subst hSlash
      simp at h
    · simp [hSlash]

/-- How a regular expression is read before another text: it may take flags that come to
follow it. -/
theorem read_withRest {offset : Nat} {inner rest' : List Char}
    (hAlike : EndsAlike (read offset ('/' :: inner)).rest rest') (offset' : Nat) :
    (read offset' ((read offset ('/' :: inner)).text ++ rest')).text =
        (read offset ('/' :: inner)).text ++ rest'.takeWhile isFlag ∧
      (read offset' ((read offset ('/' :: inner)).text ++ rest')).rest =
        rest'.dropWhile isFlag := by
  cases hRead : recognise ('/' :: inner) with
  | ok pieces =>
    obtain ⟨text, rest⟩ := pieces
    simp only [read, hRead, recognise_withRest hRead rest', and_self]
  | error complaints =>
    have hText : (read offset ('/' :: inner)).text = '/' :: inner.takeWhile (· != '\n') := by
      simp [read, hRead]
    have hRest : (read offset ('/' :: inner)).rest = inner.dropWhile (· != '\n') := by
      simp [read, hRead]
    rw [hRest] at hAlike
    rw [hText]
    have hLine : '\n' ∉ inner.takeWhile (· != '\n') := by
      intro hMem
      simpa using List.mem_takeWhile_imp (p := (· != '\n')) hMem
    obtain ⟨hTake, hDrop⟩ := line_withRest hAlike
    -- The line ends as before, so that there is no end of the literal on it, and no flag.
    have hFails : (∃ complaints', recognise ('/' :: (inner.takeWhile (· != '\n') ++ rest')) =
        .error complaints') ∧ rest'.takeWhile isFlag = [] ∧ rest'.dropWhile isFlag = rest' := by
      have hInner := List.takeWhile_append_dropWhile (p := (· != '\n')) (l := inner)
      rcases line_cases inner with hEnd | hEnd
      · rw [hEnd, List.append_nil] at hInner
        rw [hAlike.nil hEnd, List.append_nil, hInner]
        exact ⟨⟨_, hRead⟩, rfl, rfl⟩
      · obtain ⟨x, hx⟩ := List.head?_eq_some_iff.mp hEnd
        obtain ⟨x', rfl⟩ := List.head?_eq_some_iff.mp (hAlike.line hEnd)
        rw [← hInner, hx] at hRead
        exact ⟨recognise_line hRead hLine x', rfl, rfl⟩
    obtain ⟨⟨complaints', hError⟩, hTakeFlags, hDropFlags⟩ := hFails
    rw [List.cons_append, hTakeFlags, hDropFlags, List.append_nil]
    simp only [read, hError]
    simpa using ⟨hTake, hDrop⟩

end RegexLiteral

/-! ## Tokens -/

@[simp] theorem Literal.context_readString (form : Escape.Form) (limit start : Nat) (quote : Char)
    (cs : List Char) : (readString form limit start quote cs).context = .string quote := by
  unfold readString
  split <;> rfl

@[simp] theorem Literal.kind_readTemplate (form : Escape.Form) (limit start : Nat)
    (cs : List Char) : (readTemplate form limit start cs).context.kind = .template := by
  unfold readTemplate
  split <;> rfl

@[simp] theorem RegexLiteral.context_read (offset : Nat) (cs : List Char) :
    (read offset cs).context = .regex := by
  unfold read
  split <;> rfl

@[simp] theorem Scan.context_readCode (c : Char) (cs : List Char) :
    (readCode c cs).context = .code := by
  unfold readCode
  split <;> rfl

namespace Comment

/-- A comment starts with its opening. -/
theorem text_read {style : Style} {cs : List Char} (offset : Nat)
    (h : startsWith style.opening cs = true) :
    ∃ more, (read style offset cs).text = style.opening ++ more := by
  obtain ⟨body, hCs, ⟨-, hRead⟩ | ⟨inner, rest, -, -, hRead⟩⟩ := read_cases offset h
  · exact ⟨body, by rw [hRead, hCs]⟩
  · exact ⟨_, by rw [hRead]⟩

theorem text_readLine {cs : List Char} (h : startsWith lineOpening cs = true) :
    ∃ more, (readLine cs).text = lineOpening ++ more := by
  obtain ⟨body, -, hRead⟩ := readLine_eq h
  exact ⟨_, by rw [hRead]⟩

@[simp] theorem context_read (style : Style) (offset : Nat) (cs : List Char) :
    (read style offset cs).context = .comment := by
  unfold read
  split <;> rfl

@[simp] theorem context_readLine (cs : List Char) : (readLine cs).context = .comment := by
  unfold readLine
  split <;> rfl

end Comment

namespace Scan

/-- Where the opening of a comment stands, the comment is read. -/
theorem readToken_of_delimited (form : Escape.Form) (o : Options) (before : List Char)
    (offset : Nat) {style : Comment.Style} {c : Char} {cs : List Char}
    (h : startsWith style.opening (c :: cs) = true) :
    readToken form o before offset c cs = Comment.read style offset (c :: cs) := by
  obtain ⟨body, hBody⟩ := Option.isSome_iff_exists.mp h
  have hCs := eq_append_of_stripStart? hBody
  simp only [readToken]
  cases style with
  | block =>
    obtain ⟨rfl, -⟩ := List.cons.inj hCs
    rw [if_neg (by decide), if_neg (by decide), if_pos h]
  | html =>
    obtain ⟨rfl, rfl⟩ := List.cons.inj hCs
    have hBlock :
        startsWith Comment.Style.block.opening ('<' :: (['!', '-', '-'] ++ body)) ≠ true := by
      simp [startsWith, stripStart?, Comment.Style.opening]
    have hLine : startsWith Comment.lineOpening ('<' :: (['!', '-', '-'] ++ body)) ≠ true := by
      simp [startsWith, stripStart?, Comment.lineOpening]
    exact (if_neg (by decide)).trans <| (if_neg (by decide)).trans <| (if_neg hBlock).trans <|
      (if_neg hLine).trans (if_pos h)

/-- Where the opening of a line comment stands, the comment is read. -/
theorem readToken_of_line (form : Escape.Form) (o : Options) (before : List Char)
    (offset : Nat) {c : Char} {cs : List Char}
    (h : startsWith Comment.lineOpening (c :: cs) = true) :
    readToken form o before offset c cs = Comment.readLine (c :: cs) := by
  obtain ⟨body, hBody⟩ := Option.isSome_iff_exists.mp h
  obtain ⟨rfl, rfl⟩ := List.cons.inj (eq_append_of_stripStart? hBody)
  simp only [readToken]
  have hBlock : startsWith Comment.Style.block.opening ('/' :: (['/'] ++ body)) ≠ true := by
    simp [startsWith, stripStart?, Comment.Style.opening]
  exact (if_neg (by decide)).trans <| (if_neg (by decide)).trans <| (if_neg hBlock).trans (if_pos h)

theorem not_opens_of_opensComment {cs : List Char} (h : opensComment cs = false) :
    startsWith Comment.Style.block.opening cs ≠ true ∧ startsWith Comment.lineOpening cs ≠ true ∧
      startsWith Comment.Style.html.opening cs ≠ true := by
  simpa [opensComment, and_assoc] using h

/-- A slash that opens a regular expression starts one. -/
theorem readToken_of_regex (form : Escape.Form) {o : Options} {before : List Char} (offset : Nat)
    {cs : List Char} (hPlain : opensComment ('/' :: cs) = false)
    (hOpens : RegexLiteral.opensAfter o.maxLookback before = true) :
    readToken form o before offset '/' cs = RegexLiteral.read offset ('/' :: cs) := by
  obtain ⟨hBlock, hLine, hHtml⟩ := not_opens_of_opensComment hPlain
  simp only [readToken]
  rw [if_neg (by decide), if_neg (by decide), if_neg hBlock, if_neg hLine, if_neg hHtml,
    if_pos ⟨trivial, hOpens⟩]

/-- Everything else is read as code. -/
theorem readToken_of_code (form : Escape.Form) {o : Options} {before : List Char} (offset : Nat)
    {c : Char} {cs : List Char} (hQuote : isQuote c = false)
    (hPlain : opensComment (c :: cs) = false)
    (hDivides : c = '/' → RegexLiteral.opensAfter o.maxLookback before = false) :
    readToken form o before offset c cs = readCode c cs := by
  obtain ⟨hBlock, hLine, hHtml⟩ := not_opens_of_opensComment hPlain
  have hMarks : (c ≠ '\'' ∧ c ≠ '"') ∧ c ≠ '`' := by simpa [isQuote] using hQuote
  have hRegex : ¬ (c = '/' ∧ RegexLiteral.opensAfter o.maxLookback before = true) := by
    rintro ⟨hSlash, hOpens⟩
    rw [hDivides hSlash] at hOpens
    exact absurd hOpens Bool.false_ne_true
  simp only [readToken]
  rw [if_neg (not_or.mpr hMarks.1), if_neg hMarks.2, if_neg hBlock, if_neg hLine, if_neg hHtml,
    if_neg hRegex]

/-- A string, template or comment is read in the same way wherever it stands and whatever
follows, as long as that ends the line or the text if it did so before. -/
theorem readToken_withRest {o : Options} {before : List Char} {offset : Nat} {c : Char}
    {cs : List Char}
    (hKind : (readToken .extended o before offset c cs).context.kind ∈
      [Token.Kind.string, .template, .comment])
    {rest' : List Char}
    (hAlike : EndsAlike (readToken .extended o before offset c cs).rest rest')
    (before' : List Char) (offset' : Nat) {cs' : List Char}
    (hCs : c :: cs' = (readToken .extended o before offset c cs).text ++ rest') :
    (readToken .extended o before' offset' c cs').text =
        (readToken .extended o before offset c cs).text ∧
      (readToken .extended o before' offset' c cs').rest = rest' ∧
      (readToken .extended o before' offset' c cs').context =
        (readToken .extended o before offset c cs).context := by
  rw [readToken_extended] at hKind hAlike hCs ⊢
  rw [readToken_extended]
  have hSplits := readToken_splits .single o before offset c cs
  have hBranch := readToken_branch .single o before offset c cs
  generalize readToken .single o before offset c cs = r at *
  obtain ⟨v, hv, hBefore⟩ := hSplits.exists_cons
  have hAfter : cs' = v ++ rest' := by
    rw [hv] at hCs
    exact (List.cons.inj hCs).2
  -- The kind of token is told by its first characters, which the two texts share.
  cases hBranch with
  | string hQuote =>
    have hRead : readToken .single o before' offset' c cs' =
        Literal.readString .single o.maxDepth offset' c cs' := by
      simp only [readToken, if_pos hQuote]
    obtain ⟨hText, hRest⟩ := Literal.readString_withRest hQuote (by rw [← hBefore]) hAlike offset'
    rw [hRead, hAfter, hText, ← hBefore, Literal.context_readString, Literal.context_readString]
    exact ⟨rfl, hRest, rfl⟩
  | template hTick =>
    have hRead : readToken .single o before' offset' c cs' =
        Literal.readTemplate .single o.maxDepth offset' cs' := by
      simp [readToken, hTick]
    obtain ⟨hText, hRest, hContext⟩ :=
      Literal.readTemplate_withRest (by rw [← hBefore]) hAlike offset'
    rw [hRead, hAfter, hText, hContext, ← hBefore]
    exact ⟨rfl, hRest, rfl⟩
  | delimited style hOpening =>
    obtain ⟨more, hMore⟩ := Comment.text_read offset hOpening
    have hStarts : startsWith style.opening (c :: cs') = true := by
      rw [hCs, hMore, List.append_assoc]
      exact Comment.startsWith_append ..
    obtain ⟨hText, hRest⟩ := Comment.read_withRest hOpening hAlike offset'
    rw [readToken_of_delimited _ _ _ _ hStarts, hCs, hText, hRest]
    simp
  | line hOpening =>
    obtain ⟨more, hMore⟩ := Comment.text_readLine hOpening
    have hStarts : startsWith Comment.lineOpening (c :: cs') = true := by
      rw [hCs, hMore, List.append_assoc]
      exact Comment.startsWith_append ..
    rw [readToken_of_line _ _ _ _ hStarts, hCs, Comment.readLine_withRest hOpening hAlike]
    exact ⟨rfl, rfl, rfl⟩
  | regex => simp [RegexLiteral.context_read, Context.kind] at hKind
  | code => simp [context_readCode, Context.kind] at hKind

end Scan

end CommentSieve
