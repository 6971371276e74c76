import CommentSieve.Proofs.Pieces
import Mathlib.Data.List.TakeWhile

/-!
# Long escapes hide nothing

A long escape such as `\u{41}` takes more characters than the backslash and the one after
it. All of these are hexadecimal digits and braces, which mean nothing in a string or in
template text. So reading goes through the same states whether they are taken together or
one by one, and everything about reading may be proved for the short form alone.

The stack of open literals matters here: only strings in single or double quotes and
templates are ever on it.

Main results:

* `Literal.run_extended` — a literal is read in the same way with either form of escapes.
* `Scan.pieces_extended`, `Scan.scanWith_extended` — so is every text.
-/

namespace CommentSieve

/-! ## What is on the stack -/

/-- The literals that are read: strings in single or double quotes, and templates. -/
def Context.isSound : Context → Bool
  | string quote => quote == '\'' || quote == '"'
  | template _ => true
  | code | regex | comment => false

/-- Only such literals are open. -/
def Frames.Sound (f : Frames) : Prop := ∀ context ∈ f.items, context.isSound = true

namespace Frames

theorem Sound.pop {f : Frames} (h : f.Sound) : f.pop.Sound := by
  intro context hContext
  exact h context (List.mem_of_mem_tail hContext)

/-- What is on top can be replaced by another literal. -/
theorem Sound.setTop {f : Frames} {context : Context} (h : f.Sound)
    (hContext : context.isSound = true) : (f.setTop context).Sound := by
  intro other hOther
  unfold Frames.setTop at hOther
  split at hOther
  · exact h other hOther
  · rename_i hItems
    rcases List.mem_cons.mp hOther with rfl | hOther
    · exact hContext
    · exact h other (hItems ▸ List.mem_cons_of_mem _ hOther)

/-- A literal can be opened. -/
theorem Sound.push? {f g : Frames} {context : Context} (h : f.Sound)
    (hPush : f.push? context = some g) (hContext : context.isSound = true) : g.Sound := by
  unfold Frames.push? at hPush
  split at hPush
  · obtain rfl := Option.some.inj hPush
    intro other hOther
    rcases List.mem_cons.mp hOther with rfl | hOther
    · exact hContext
    · exact h other hOther
  · simp at hPush

theorem Sound.top? {f : Frames} {context : Context} (h : f.Sound)
    (hTop : f.top? = some context) : context.isSound = true :=
  h context (List.mem_of_mem_head? hTop)

end Frames

namespace Literal

@[simp] theorem State.frames_advance (s : State) : s.advance.frames = s.frames := by
  unfold advance
  split <;> rfl

@[simp] theorem State.frames_skipEscape (form : Escape.Form) (s : State) :
    (s.skipEscape form).frames = s.frames := by
  unfold skipEscape
  split <;> rfl

/-- Opening a literal keeps the stack sound, whether there is room for it or not. -/
theorem sound_openLiteral {s : State} {context : Context} (h : s.frames.Sound)
    (hContext : context.isSound = true) (start : Nat) :
    (s.openLiteral start context).frames.Sound := by
  unfold State.openLiteral
  split
  · rename_i hPush
    exact h.push? hPush hContext
  · exact h

/-- Every step keeps to such literals. -/
theorem sound_step {form : Escape.Form} {start : Nat} {s t : State}
    (hStep : step form start s = some t) (h : s.frames.Sound) : t.frames.Sound := by
  have hClose : s.close.frames.Sound := h.pop
  have hBraces : ∀ braces, (s.setBraces braces).frames.Sound := fun _ => h.setTop rfl
  have hEnter : s.enterInterpolation.frames.Sound := h.setTop rfl
  -- A step closes a literal, sets the braces of a template, or opens a sound literal.
  unfold step at hStep
  split at hStep
  · simp at hStep
  · simp at hStep
  · rw [← Option.some.inj hStep]
    unfold stepString
    repeat' split
    · simpa using h
    · exact hClose
    · exact hClose
    · simpa using hClose
    · simpa using h
  · rw [← Option.some.inj hStep]
    unfold stepTemplate
    repeat' split
    · simpa using h
    · simpa using hClose
    · simpa using hEnter
    · simpa using h
  · rw [← Option.some.inj hStep]
    unfold stepInterpolation
    repeat' split
    · simpa using hBraces _
    · simpa using hBraces _
    · rename_i c _ _ _ _ _ hQuote
      have hSound : (Context.string c).isSound = true := by simpa [Context.isSound] using hQuote
      simpa using sound_openLiteral h hSound start
    · have hSound : (Context.template 0).isSound = true := rfl
      simpa using sound_openLiteral h hSound start
    · simpa using h
  all_goals
    rw [← Option.some.inj hStep]
    exact hClose

/-- Reading goes on after a step. -/
theorem run_of_step {form : Escape.Form} {start : Nat} {s t : State}
    (h : step form start s = some t) : run form start s = run form start t := by
  rw [run]
  split
  · simp_all
  · rename_i hStep
    rw [h] at hStep
    rw [Option.some.inj hStep]

/-- Reading ends where no step is left. -/
theorem run_of_stuck {form : Escape.Form} {start : Nat} {s : State}
    (h : step form start s = none) : run form start s = s := by
  rw [run]
  split
  · rfl
  · simp_all

end Literal

/-! ## What a long escape takes -/

namespace Escape

/-- The characters that only a long escape takes. -/
def isInert (c : Char) : Bool := isHex c || c == '{' || c == '}'

theorem ne_of_isInert {c d : Char} (hc : isInert c = true) (hd : isInert d = false) : c ≠ d := by
  rintro rfl
  rw [hc] at hd
  exact absurd hd (by simp)

/-- An escape by digits takes digits only. -/
theorem isInert_of_mem_splitHex {limit : Nat} {cs : List Char} :
    ∀ c ∈ (splitHex limit cs).1, isInert c = true := by
  fun_induction splitHex limit cs with
  | case1 => simp
  | case2 => simp
  | case3 limit c cs hHex pieces ih =>
    intro d hd
    rcases List.mem_cons.mp hd with rfl | hd
    · simp [isInert, hHex]
    · exact ih d hd
  | case4 => simp

/-- An escape in braces takes digits and braces only. -/
theorem isInert_of_mem_splitBraced {cs : List Char} :
    ∀ c ∈ (splitBraced cs).1, isInert c = true := by
  have hDigits : ∀ c ∈ cs.takeWhile isHex, isInert c = true := by
    intro c hc
    simp [isInert, List.mem_takeWhile_imp hc]
  intro c hc
  simp only [splitBraced] at hc
  split at hc
  · rcases List.mem_append.mp hc with hc | hc
    · exact hDigits c hc
    · obtain rfl := List.mem_singleton.mp hc
      rfl
  · exact hDigits c hc

/-- A long escape takes what a short one takes, and some digits and braces. -/
theorem exists_extra (cs : List Char) :
    ∃ extra, (split .extended cs).1 = (split .single cs).1 ++ extra ∧
      after .single cs = extra ++ after .extended cs ∧ ∀ c ∈ extra, isInert c = true := by
  cases cs with
  | nil => exact ⟨[], rfl, rfl, by simp⟩
  | cons c cs =>
    have hSingle : split .single (c :: cs) = ([c], cs) := by simp [split]
    rw [after, after, hSingle]
    simp only [split]
    split
    · exact ⟨_, rfl, (splitHex_append 2 _).symm, isInert_of_mem_splitHex⟩
    · rename_i cs _
      refine ⟨'{' :: (splitBraced cs).1, rfl, ?_, ?_⟩
      · simp [splitBraced_append]
      · intro d hd
        rcases List.mem_cons.mp hd with rfl | hd
        · rfl
        · exact isInert_of_mem_splitBraced d hd
    · exact ⟨_, rfl, (splitHex_append 4 _).symm, isInert_of_mem_splitHex⟩
    · exact ⟨[], rfl, rfl, by simp⟩

end Escape

/-! ## Reading a literal -/

/-- The contexts in which escapes are read. -/
def Context.readsEscapes : Context → Bool
  | string _ | template 0 => true
  | template (_ + 1) | code | regex | comment => false

namespace Literal

open Escape (isInert)

/-- A character without meaning is passed over. -/
theorem step_of_isInert (form : Escape.Form) (start : Nat) {s : State} {context : Context}
    {c : Char} {cs : List Char} (hTop : s.frames.top? = some context)
    (hSound : context.isSound = true) (hText : context.readsEscapes = true)
    (hRest : s.rest = c :: cs) (hInert : isInert c = true) :
    step form start s = some { s with passed := c :: s.passed, rest := cs } := by
  -- None of the signs that end or open something is inert.
  have hNe : ∀ d, isInert d = false → c ≠ d := fun d hd => Escape.ne_of_isInert hInert hd
  have hAdvance : s.advance = { s with passed := c :: s.passed, rest := cs } := by
    rw [State.advance, hRest]
  rw [← hAdvance]
  cases context with
  | string quote =>
    have hSigns : quote = '\'' ∨ quote = '"' := by simpa [Context.isSound] using hSound
    have hQuote : c ≠ quote := by
      rcases hSigns with rfl | rfl
      · exact hNe _ rfl
      · exact hNe _ rfl
    simp [step, hTop, hRest, stepString, hNe '\\' rfl, hNe '\n' rfl, hQuote]
  | template braces =>
    cases braces with
    | zero => simp [step, hTop, hRest, stepTemplate, hNe '\\' rfl, hNe '`' rfl, hNe '$' rfl]
    | succ braces => simp [Context.readsEscapes] at hText
  | code | regex | comment => simp [Context.isSound] at hSound

/-- So are several. -/
theorem run_of_isInert (form : Escape.Form) (start : Nat) {s : State} {context : Context}
    {extra rest : List Char} (hTop : s.frames.top? = some context)
    (hSound : context.isSound = true) (hText : context.readsEscapes = true)
    (hRest : s.rest = extra ++ rest) (hInert : ∀ c ∈ extra, isInert c = true) :
    run form start s =
      run form start { s with passed := extra.reverse ++ s.passed, rest } := by
  induction extra generalizing s with
  | nil =>
    obtain rfl : s.rest = rest := hRest
    rfl
  | cons c extra ih =>
    rw [List.cons_append] at hRest
    have hStep := step_of_isInert form start hTop hSound hText hRest
      (hInert c (List.mem_cons_self ..))
    have hMore := ih (s := { s with passed := c :: s.passed, rest := extra ++ rest })
      hTop rfl fun d hd => hInert d (List.mem_cons_of_mem _ hd)
    rw [run_of_step hStep, hMore]
    simp

/-- The form of escapes matters only at a backslash. -/
theorem step_single {start : Nat} {s t : State} (h : step .extended start s = some t) :
    step .single start s = some t ∨
      ∃ context cs, s.frames.top? = some context ∧ context.readsEscapes = true ∧
        s.rest = '\\' :: cs ∧ t = s.skipEscape .extended ∧
        step .single start s = some (s.skipEscape .single) := by
  -- Only the text of a string or a template reads escapes: elsewhere the steps are the same.
  unfold step at h ⊢
  split at h
  · simp at h
  · simp at h
  · rename_i quote c cs hTop hRest
    obtain rfl := Option.some.inj h
    by_cases hEscape : c = '\\'
    · subst hEscape
      exact .inr ⟨_, cs, hTop, rfl, hRest, by simp [stepString], by simp [stepString]⟩
    · exact .inl (by simp [stepString, hEscape])
  · rename_i c cs hTop hRest
    obtain rfl := Option.some.inj h
    by_cases hEscape : c = '\\'
    · subst hEscape
      exact .inr ⟨_, cs, hTop, rfl, hRest, by simp [stepTemplate], by simp [stepTemplate]⟩
    · exact .inl (by simp [stepTemplate, hEscape])
  all_goals exact .inl h

/-- After a short escape, reading comes to where a long one would have led. -/
theorem run_skipEscape {start : Nat} {s : State} {context : Context} {cs : List Char}
    (hTop : s.frames.top? = some context) (hSound : context.isSound = true)
    (hText : context.readsEscapes = true) (hRest : s.rest = '\\' :: cs) :
    run .single start (s.skipEscape .single) = run .single start (s.skipEscape .extended) := by
  obtain ⟨extra, hTaken, hAfter, hInert⟩ := Escape.exists_extra cs
  have hShort : (s.skipEscape .single).frames.top? = some context := by simpa using hTop
  have hShortRest : (s.skipEscape .single).rest = extra ++ Escape.after .extended cs := by
    rw [State.skipEscape, hRest]
    exact hAfter
  rw [run_of_isInert .single start hShort hSound hText hShortRest hInert]
  simp [State.skipEscape, hRest, hTaken]

/-- A literal is read in the same way with either form of escapes. -/
theorem run_extended {start : Nat} {s : State} (h : s.frames.Sound) :
    run .extended start s = run .single start s := by
  fun_induction run .extended start s with
  | case1 s hStep =>
    -- Whether reading stops does not depend on the form.
    have hStuck : step .single start s = none := by
      unfold step at hStep ⊢
      split at hStep <;> simp_all
    rw [run_of_stuck hStuck]
  | case2 s t hStep ih =>
    rw [ih (sound_step hStep h)]
    rcases step_single hStep with hSingle | ⟨context, cs, hTop, hText, hRest, rfl, hSingle⟩
    · rw [run_of_step hSingle]
    · rw [run_of_step hSingle, run_skipEscape hTop (h.top? hTop) hText hRest]

/-- Neither quote escapes anything or ends a line. -/
theorem quote_ne {quote : Char} (hQuote : quote = '\'' ∨ quote = '"') :
    quote ≠ '\\' ∧ quote ≠ '\n' := by
  rcases hQuote with rfl | rfl
  · exact ⟨by decide, by decide⟩
  · exact ⟨by decide, by decide⟩

/-- A flat string goes on over such characters. -/
theorem splitFlat_of_isInert {quote : Char} (hQuote : quote = '\'' ∨ quote = '"')
    {extra : List Char} (hInert : ∀ c ∈ extra, isInert c = true) (passed rest : List Char) :
    splitFlat .single quote passed (extra ++ rest) =
      splitFlat .single quote (extra.reverse ++ passed) rest := by
  induction extra generalizing passed with
  | nil => rfl
  | cons c extra ih =>
    have hNe : ∀ d, isInert d = false → c ≠ d := fun d hd =>
      Escape.ne_of_isInert (hInert c (List.mem_cons_self ..)) hd
    have hPlain : c ≠ quote := by
      rcases hQuote with rfl | rfl
      · exact hNe _ rfl
      · exact hNe _ rfl
    rw [List.cons_append, splitFlat, if_neg (hNe _ rfl), if_neg (hNe _ rfl), if_neg hPlain,
      ih fun d hd => hInert d (List.mem_cons_of_mem _ hd)]
    simp

/-- The same for a string where no literal may be opened. -/
theorem splitFlat_extended {quote : Char} (hQuote : quote = '\'' ∨ quote = '"')
    (passed cs : List Char) :
    splitFlat .extended quote passed cs = splitFlat .single quote passed cs := by
  fun_induction splitFlat .extended quote passed cs with
  | case1 => rw [splitFlat]
  | case2 passed cs ih =>
    -- What the long form takes in addition would be taken one by one.
    obtain ⟨extra, hTaken, hAfter, hInert⟩ := Escape.exists_extra cs
    rw [ih, splitFlat, if_pos rfl, hAfter, splitFlat_of_isInert hQuote hInert, hTaken]
    simp
  | case3 => rw [splitFlat]; simp
  | case4 => rw [splitFlat]; simp_all
  | case5 passed c cs hEscape hLine hPlain ih =>
    rw [ih, splitFlat, if_neg hEscape, if_neg hLine, if_neg hPlain]

/-- The first literal that is opened is the only one. -/
theorem frames_of_push? {limit : Nat} {context : Context} {frames : Frames}
    (h : Frames.push? { limit } context = some frames) : frames = ⟨limit, [context]⟩ := by
  unfold Frames.push? at h
  split at h
  · exact (Option.some.inj h).symm
  · simp at h

/-- The stack a literal starts with is sound. -/
theorem sound_singleton {limit : Nat} {context : Context} {frames : Frames}
    (hPush : Frames.push? { limit } context = some frames) (hContext : context.isSound = true) :
    frames.Sound := by
  obtain rfl := frames_of_push? hPush
  intro other hOther
  obtain rfl := List.mem_singleton.mp hOther
  exact hContext

/-- A string is read in the same way with either form of escapes. -/
theorem readString_extended (limit start : Nat) {quote : Char}
    (hQuote : quote = '\'' ∨ quote = '"') (cs : List Char) :
    readString .extended limit start quote cs = readString .single limit start quote cs := by
  unfold readString
  split
  · rename_i frames hPush
    have hSound := sound_singleton hPush (by simpa [Context.isSound] using hQuote)
    rw [run_extended hSound]
  · rw [splitFlat_extended hQuote]

/-- A template is read in the same way with either form of escapes. -/
theorem readTemplate_extended (limit start : Nat) (cs : List Char) :
    readTemplate .extended limit start cs = readTemplate .single limit start cs := by
  unfold readTemplate
  split
  · rename_i frames hPush
    rw [run_extended (sound_singleton hPush rfl)]
  · rfl

end Literal

/-! ## Splitting a text -/

namespace Scan

/-- Every token is read in the same way with either form of escapes. -/
theorem readToken_extended (o : Options) (before : List Char) (offset : Nat) (c : Char)
    (cs : List Char) :
    readToken .extended o before offset c cs = readToken .single o before offset c cs := by
  simp only [readToken]
  by_cases hQuote : c = '\'' ∨ c = '"'
  · rw [if_pos hQuote, if_pos hQuote, Literal.readString_extended _ _ hQuote]
  · rw [if_neg hQuote, if_neg hQuote, Literal.readTemplate_extended]

/-- The pieces of a text are the same with either form of escapes. -/
theorem pieces_extended (o : Options) (before : List Char) (offset : Nat) (cs : List Char) :
    pieces .extended o before offset cs = pieces .single o before offset cs := by
  induction before, offset, cs using pieces_induction .extended o with
  | nil before offset => rw [pieces_nil, pieces_nil]
  | cons before offset c cs ih =>
    rw [pieces_cons, pieces_cons, ih, readToken_extended]

/-- With the same pieces the loop returns the same, wherever its ceiling stops it. -/
theorem scanWith_extended (o : Options) (content : List Char) :
    scanWith .extended o content = scanWith .single o content := by
  rw [scanWith, scanWith, loop_eq, loop_eq]
  dsimp only
  rw [pieces_extended]

end Scan

end CommentSieve
