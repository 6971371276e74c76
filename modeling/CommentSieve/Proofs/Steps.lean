import CommentSieve.Proofs.Escapes

/-!
# What a character does in a literal

With short escapes, a step of reading a literal depends on one character and, at a
backslash or a dollar sign, on the next one. It changes the stack of open literals or the
findings, and then takes up to two characters (`action`). Everything about single steps is
read off this table.

Main results:

* `step_eq_action` — every step is the action of a character.
* `exists_change` — all that a step can do to the open literals and the findings.
* `action_withRest` — the action does not depend on the text after these characters.
* `quiet_run` — where a literal stands matters for the findings alone.
* `run_string` — a string on its own is read as where no literal may be opened.
-/

namespace CommentSieve

open Text

/-! ## A step of reading a literal -/

/-- Whether the character after `c` says what `c` means. -/
def Context.looksAhead : Context → Char → Bool
  | string _, c => c == '\\'
  | template 0, c => c == '\\' || c == '$'
  | template (_ + 1), _ | code, _ | regex, _ | comment, _ => false

namespace Literal

namespace State

/-- Moves some characters over. -/
def moveOver (count : Nat) (s : State) : State :=
  { s with passed := (s.rest.take count).reverse ++ s.passed, rest := s.rest.drop count }

/-- The same state before another text. -/
def withRest (s : State) (rest : List Char) : State := { s with rest }

theorem moveOver_one (s : State) : s.moveOver 1 = s.advance := by
  rcases s with ⟨frames, passed, _ | ⟨c, cs⟩, nesting, findings⟩ <;> rfl

theorem moveOver_two (s : State) : s.moveOver 2 = s.advance.advance := by
  rw [← moveOver_one, ← moveOver_one]
  rcases s with ⟨frames, passed, _ | ⟨c, _ | ⟨d, cs⟩⟩, nesting, findings⟩ <;> rfl

theorem skipEscape_single (s : State) : s.skipEscape .single = s.moveOver 2 := by
  rcases s with ⟨frames, passed, _ | ⟨c, _ | ⟨d, cs⟩⟩, nesting, findings⟩ <;> rfl

/-- Opening a frame does not depend on the text that follows. -/
theorem withRest_openLiteral (s : State) (rest : List Char) (start : Nat) (context : Context) :
    (s.withRest rest).openLiteral start context = (s.openLiteral start context).withRest rest := by
  unfold openLiteral withRest
  dsimp only
  split <;> rfl

end State

/-- What a character does in a context, given the one after it: the change to the open
literals and the findings, and how many characters are taken. -/
def action (start : Nat) (s : State) : Context → Char → Option Char → State × Nat
  | .string quote, c, _ =>
    if c = '\\' then (s, 2)
    else if c = '\n' then
      if s.frames.depth = 1 then (s.close.note (.malformed .string start), 0)
      else (s.close.note (.brokenNested (s.offset start)), 0)
    else if c = quote then (s.close, 1)
    else (s, 1)
  | .template 0, c, next =>
    if c = '\\' then (s, 2)
    else if c = '`' then (s.close, 1)
    else if c = '$' ∧ next = some '{' then (s.enterInterpolation, 2)
    else (s, 1)
  | .template (braces + 1), c, _ =>
    if c = '{' then (s.setBraces (braces + 2), 1)
    else if c = '}' then (s.setBraces braces, 1)
    else if c = '\'' ∨ c = '"' then (s.openLiteral start (.string c), 1)
    else if c = '`' then (s.openLiteral start (.template 0), 1)
    else (s, 1)
  | .code, _, _ | .regex, _, _ | .comment, _, _ => (s.close, 0)

/-- Every step is the action of a character, after which characters are taken. -/
theorem step_eq_action (start : Nat) {s : State} {context : Context} {c : Char}
    {cs : List Char} (hTop : s.frames.top? = some context) (hRest : s.rest = c :: cs) :
    step .single start s =
      some ((action start s context c cs.head?).1.moveOver
        (action start s context c cs.head?).2) := by
  -- One case for each kind of literal, and in it one for each branch of its step.
  match context with
  | .string quote =>
    simp only [step, hTop, hRest, stepString, action, Option.some.injEq]
    repeat' split
    · exact s.skipEscape_single
    · rfl
    · rfl
    · exact s.close.moveOver_one.symm
    · exact s.moveOver_one.symm
  | .template 0 =>
    simp only [step, hTop, hRest, stepTemplate, action, Option.some.injEq]
    repeat' split
    · exact s.skipEscape_single
    · exact s.close.moveOver_one.symm
    · exact s.enterInterpolation.moveOver_two.symm
    · exact s.moveOver_one.symm
  | .template (braces + 1) =>
    simp only [step, hTop, hRest, stepInterpolation, action, Option.some.injEq]
    repeat' split
    all_goals exact (State.moveOver_one _).symm
  | .code | .regex | .comment =>
    simp only [step, hTop, hRest, action]
    rfl

/-- Reading goes on until the last literal is closed or the input has ended. -/
theorem step_eq_none_iff (start : Nat) {s : State} :
    step .single start s = none ↔ s.frames.top? = none ∨ s.rest = [] := by
  cases hTop : s.frames.top? with
  | none => simp [step, hTop]
  | some context =>
    cases hRest : s.rest with
    | nil => simp [step, hTop, hRest]
    | cons c cs => simp [step_eq_action start hTop hRest]

/-- A step is taken only inside a frame and before a character. -/
theorem exists_of_step {start : Nat} {s t : State} (h : step .single start s = some t) :
    ∃ context c cs, s.frames.top? = some context ∧ s.rest = c :: cs := by
  have hGoes : ¬ (s.frames.top? = none ∨ s.rest = []) := by
    rw [← step_eq_none_iff start, h]
    simp
  rw [not_or] at hGoes
  obtain ⟨context, hTop⟩ := Option.ne_none_iff_exists'.mp hGoes.1
  obtain ⟨c, cs, hRest⟩ := List.exists_cons_of_ne_nil hGoes.2
  exact ⟨context, c, cs, hTop, hRest⟩

/-- All that a character can do to a state, apart from being taken. -/
inductive Change (start : Nat) (s : State) : State → Prop
  | nothing : Change start s s
  /-- A string is broken off by the line end. -/
  | breaks (f : Finding) : Change start s (s.close.note f)
  | closes : Change start s s.close
  | enters : Change start s s.enterInterpolation
  | counts (braces : Nat) : Change start s (s.setBraces braces)
  | opens (context : Context) : Change start s (s.openLiteral start context)

/-- The action at a character changes the frames by one of the five kinds of change. -/
theorem change_action (start : Nat) (s : State) (context : Context) (c : Char)
    (next : Option Char) : Change start s (action start s context c next).1 := by
  match context with
  | .string quote =>
    simp only [action]
    -- An escape, the end of a line in an outer and in an inner string, the quote, the rest.
    repeat' split
    · exact .nothing
    · exact .breaks _
    · exact .breaks _
    · exact .closes
    · exact .nothing
  | .template 0 =>
    simp only [action]
    -- An escape, the back-tick, the start of an interpolation, any other character.
    repeat' split
    · exact .nothing
    · exact .closes
    · exact .enters
    · exact .nothing
  | .template (braces + 1) =>
    simp only [action]
    -- The two braces, the two openings of literals, any other character.
    repeat' split
    · exact .counts _
    · exact .counts _
    · exact .opens _
    · exact .opens _
    · exact .nothing
  | .code | .regex | .comment => exact .closes

/-- What a step does, as a change after which characters are taken. -/
theorem exists_change {start : Nat} {s t : State} (h : step .single start s = some t) :
    ∃ u taken, Change start s u ∧ t = u.moveOver taken := by
  obtain ⟨context, c, cs, hTop, hRest⟩ := exists_of_step h
  rw [step_eq_action start hTop hRest] at h
  exact ⟨_, _, change_action start s context c cs.head?, (Option.some.inj h).symm⟩

/-- What a character does to the open literals does not depend on the text. -/
theorem action_withRest (start : Nat) (s : State) (rest : List Char) (context : Context)
    (c : Char) (next : Option Char) :
    action start (s.withRest rest) context c next =
      ((action start s context c next).1.withRest rest, (action start s context c next).2) := by
  match context with
  | .string quote =>
    simp only [action]
    repeat' split
    all_goals first | rfl | contradiction
  | .template 0 =>
    simp only [action]
    repeat' split
    all_goals rfl
  | .template (braces + 1) =>
    simp only [action, State.withRest_openLiteral]
    repeat' split
    all_goals rfl
  | .code | .regex | .comment => rfl

/-- The action itself passes no text; how much to pass is its second part. -/
theorem rest_action (start : Nat) (s : State) (context : Context) (c : Char)
    (next : Option Char) : (action start s context c next).1.rest = s.rest := by
  have hSame := action_withRest start s s.rest context c next
  have hSelf : s.withRest s.rest = s := rfl
  rw [hSelf] at hSame
  rw [hSame]
  rfl

/-- An action passes at most two characters. -/
theorem taken_le_two (start : Nat) (s : State) (context : Context) (c : Char)
    (next : Option Char) : (action start s context c next).2 ≤ 2 := by
  match context with
  | .string quote | .template 0 | .template (braces + 1) =>
    simp only [action]
    repeat' split
    all_goals simp
  | .code | .regex | .comment => simp [action]

/-- A character that does not look ahead acts alone. -/
theorem action_of_looksAhead_eq_false (start : Nat) (s : State) {context : Context} {c : Char}
    (h : context.looksAhead c = false) (next next' : Option Char) :
    action start s context c next = action start s context c next' ∧
      (action start s context c next).2 ≤ 1 := by
  match context with
  | .string quote =>
    have hEscape : c ≠ '\\' := by simpa [Context.looksAhead] using h
    simp only [action, if_neg hEscape, true_and]
    repeat' split
    all_goals simp
  | .template 0 =>
    obtain ⟨hEscape, hDollar⟩ : c ≠ '\\' ∧ c ≠ '$' := by simpa [Context.looksAhead] using h
    simp only [action, if_neg hEscape, hDollar, false_and, if_false, true_and]
    split
    all_goals simp
  | .template (braces + 1) =>
    simp only [action, true_and]
    repeat' split
    all_goals simp
  | .code | .regex | .comment => simp [action]

/-- Only a line end in a string is not taken. -/
theorem line_of_taken_eq_zero {start : Nat} {s : State} {context : Context} {c : Char}
    {next : Option Char} (hSound : context.isSound = true)
    (h : (action start s context c next).2 = 0) :
    (∃ quote, context = .string quote) ∧ c = '\n' := by
  match context with
  | .string quote =>
    refine ⟨⟨quote, rfl⟩, ?_⟩
    by_contra hLine
    simp only [action, if_neg hLine] at h
    repeat' split at h
    all_goals simp at h
  | .template 0 | .template (braces + 1) =>
    simp only [action] at h
    repeat' split at h
    all_goals simp at h

/-! ## Where a literal stands -/

/-- A state apart from its findings. -/
def State.quiet (s : State) : State := { s with findings := [] }

theorem frames_of_quiet {s s' : State} (h : s.quiet = s'.quiet) : s.frames = s'.frames := by
  have hQuiet := congrArg State.frames h
  exact hQuiet

theorem rest_of_quiet {s s' : State} (h : s.quiet = s'.quiet) : s.rest = s'.rest := by
  have hQuiet := congrArg State.rest h
  exact hQuiet

theorem quiet_moveOver {s s' : State} (h : s.quiet = s'.quiet) (count : Nat) :
    (s.moveOver count).quiet = (s'.moveOver count).quiet :=
  congrArg (State.moveOver count) h

/-- Neither the findings nor the start of the literal decide whether a frame opens. -/
theorem quiet_openLiteral (start start' : Nat) (context : Context) {s s' : State}
    (h : s.quiet = s'.quiet) :
    (s.openLiteral start context).quiet = (s'.openLiteral start' context).quiet := by
  unfold State.openLiteral
  rw [frames_of_quiet h]
  split
  · rename_i frames _
    exact congrArg (fun t : State => { t with frames }) h
  · exact h

/-- Neither the findings nor the start of the literal decide an action. -/
theorem quiet_action (start start' : Nat) {s s' : State} (h : s.quiet = s'.quiet)
    (context : Context) (c : Char) (next : Option Char) :
    (action start s context c next).1.quiet = (action start' s' context c next).1.quiet ∧
      (action start s context c next).2 = (action start' s' context c next).2 := by
  -- What the actions do to the frames does not look at the findings.
  have hClose : s.close.quiet = s'.close.quiet := congrArg State.close h
  have hEnter : s.enterInterpolation.quiet = s'.enterInterpolation.quiet :=
    congrArg State.enterInterpolation h
  have hBraces : ∀ braces, (s.setBraces braces).quiet = (s'.setBraces braces).quiet := fun braces =>
    congrArg (State.setBraces · braces) h
  match context with
  | .string quote =>
    simp only [action, frames_of_quiet h]
    repeat' split
    · exact ⟨h, rfl⟩
    · exact ⟨hClose, rfl⟩
    · exact ⟨hClose, rfl⟩
    · exact ⟨hClose, rfl⟩
    · exact ⟨h, rfl⟩
  | .template 0 =>
    simp only [action]
    repeat' split
    · exact ⟨h, rfl⟩
    · exact ⟨hClose, rfl⟩
    · exact ⟨hEnter, rfl⟩
    · exact ⟨h, rfl⟩
  | .template (braces + 1) =>
    simp only [action]
    repeat' split
    · exact ⟨hBraces _, rfl⟩
    · exact ⟨hBraces _, rfl⟩
    · exact ⟨quiet_openLiteral start start' _ h, rfl⟩
    · exact ⟨quiet_openLiteral start start' _ h, rfl⟩
    · exact ⟨h, rfl⟩
  | .code | .regex | .comment => exact ⟨hClose, rfl⟩

/-- Where a literal stands matters for the findings alone, and they for nothing. -/
theorem quiet_run (start start' : Nat) {s s' : State} (h : s.quiet = s'.quiet) :
    (run .single start s).quiet = (run .single start' s').quiet := by
  fun_induction run .single start s generalizing s' with
  | case1 s hStep =>
    have hStuck : step .single start' s' = none := by
      rw [step_eq_none_iff start', ← frames_of_quiet h, ← rest_of_quiet h]
      exact (step_eq_none_iff start).mp hStep
    rw [run_of_stuck hStuck, h]
  | case2 s t hStep ih =>
    obtain ⟨context, c, cs, hTop, hRest⟩ := exists_of_step hStep
    have hStep' := step_eq_action start' (frames_of_quiet h ▸ hTop) (rest_of_quiet h ▸ hRest)
    rw [run_of_step hStep']
    apply ih
    rw [step_eq_action start hTop hRest] at hStep
    obtain ⟨hQuiet, hTaken⟩ := quiet_action start start' h context c cs.head?
    rw [← Option.some.inj hStep, hTaken]
    exact quiet_moveOver hQuiet _

/-! ## Strings -/

/-- What becomes of a string that is read on its own, from where its reading as a flat
string stops: it was closed, or the text has ended, or the line. -/
def stringEnd (start : Nat) (s : State) : Bool × List Char × List Char → State
  | (true, passed, rest) => { s.close with passed, rest }
  | (false, passed, []) => { s with passed, rest := [] }
  | (false, passed, c :: cs) =>
    { s.close.note (.malformed .string start) with passed, rest := c :: cs }

@[simp] theorem passed_stringEnd (start : Nat) (s : State) (last : Bool × List Char × List Char) :
    (stringEnd start s last).passed = last.2.1 := by
  obtain ⟨_ | _, _, _ | _⟩ := last <;> rfl

@[simp] theorem rest_stringEnd (start : Nat) (s : State) (last : Bool × List Char × List Char) :
    (stringEnd start s last).rest = last.2.2 := by
  obtain ⟨_ | _, _, _ | _⟩ := last <;> rfl

/-- A string on its own is read like a flat one. -/
theorem run_string (form : Escape.Form) (start : Nat) {s : State} {quote : Char}
    (hItems : s.frames.items = [.string quote]) :
    run form start s = stringEnd start s (splitFlat form quote s.passed s.rest) := by
  obtain ⟨⟨limit, items⟩, passed, rest, nesting, findings⟩ := s
  obtain rfl : items = [.string quote] := hItems
  dsimp only
  have hStep : ∀ passed c cs, run form start
        ⟨⟨limit, [.string quote]⟩, passed, c :: cs, nesting, findings⟩ =
      run form start (stepString form start quote c
        ⟨⟨limit, [.string quote]⟩, passed, c :: cs, nesting, findings⟩) :=
    fun passed c cs => run_of_step rfl
  have hClosed : ∀ passed rest findings,
      run form start ⟨⟨limit, []⟩, passed, rest, nesting, findings⟩ =
        ⟨⟨limit, []⟩, passed, rest, nesting, findings⟩ :=
    fun passed rest findings => run_of_stuck rfl
  -- However the rest of the string is read, the state differs in what was passed alone.
  have hMore : ∀ passed passed' rest rest' last,
      stringEnd start ⟨⟨limit, [.string quote]⟩, passed, rest, nesting, findings⟩ last =
        stringEnd start ⟨⟨limit, [.string quote]⟩, passed', rest', nesting, findings⟩ last := by
    rintro passed passed' rest rest' ⟨_ | _, _, _ | _⟩ <;> rfl
  fun_induction splitFlat form quote passed rest with
  | case1 passed => exact run_of_stuck rfl
  | case2 passed cs ih =>
    rw [hStep, stepString, if_pos rfl, State.skipEscape, ih]
    exact hMore ..
  | case3 passed cs =>
    rw [hStep, stepString, if_neg (by decide), if_pos rfl]
    exact hClosed ..
  | case4 passed cs hEscape hLine =>
    rw [hStep, stepString, if_neg hEscape, if_neg hLine, if_pos rfl]
    exact hClosed ..
  | case5 passed c cs hEscape hLine hQuote ih =>
    rw [hStep, stepString, if_neg hEscape, if_neg hLine, if_neg hQuote, State.advance, ih]
    exact hMore ..

/-- How far a string reaches does not depend on the limit or on where it stands. -/
theorem readString_extent (form : Escape.Form) (limit start : Nat) (quote : Char)
    (cs : List Char) :
    (readString form limit start quote cs).text = (splitFlat form quote [quote] cs).2.1.reverse ∧
      (readString form limit start quote cs).rest = (splitFlat form quote [quote] cs).2.2 := by
  unfold readString
  split
  · rename_i frames hPush
    obtain rfl := frames_of_push? hPush
    rw [run_string form start rfl]
    simp
  · exact ⟨rfl, rfl⟩

end Literal

end CommentSieve
