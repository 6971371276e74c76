import CommentSieve.Proofs.Logging
import CommentSieve.Proofs.Steps

/-!
# The grammar of templates

A template holds text and interpolations, an interpolation holds an expression, and an
expression holds strings and templates again. Reading knows none of this nesting: it is one
loop over a stack of open literals, in which a template is a number of braces.

Here the grammar is written down (`Word`), with the depth that each word reaches, and the
loop is shown to follow it. A word takes the stack from one shape to another (`Part.Reads`)
whatever lies below and whatever follows. Conversely, a run that ends with an empty stack
and nothing to complain about has read one word for each literal that was open at its start
(`Closes`).

Main results:

* `Literal.passes_word` — reading goes over a word of the grammar as a whole.
* `Literal.closes_of_run` — where nothing was found, words of the grammar were read.
* `Tokenizer.templates_by_grammar` — so a template is read without complaint exactly if it
  is one by the grammar and not nested too deep.
-/

namespace CommentSieve

open Text

namespace Literal

/-! ## The grammar -/

/-- What the grammar has rules for. -/
inductive Part
  | string (quote : Char)
  | template
  | expression
  deriving Repr, DecidableEq

/-- Words of a part, without the character that opens it and with the one that closes it.
`opened` is the greatest number of literals that are open at once inside of it, `nesting`
the same for interpolations. -/
inductive Word : Part → (opened nesting : Nat) → List Char → Prop
  -- A string goes on to its quote, on one line.
  | quote {q : Char} : Word (.string q) 0 0 [q]
  | stringPlain {q c : Char} {o n : Nat} {w : List Char} (hc : c ≠ q ∧ c ≠ '\\' ∧ c ≠ '\n') :
      Word (.string q) o n w → Word (.string q) o n (c :: w)
  | stringEscape {q c : Char} {o n : Nat} {w : List Char} :
      Word (.string q) o n w → Word (.string q) o n ('\\' :: c :: w)
  -- A template goes on to its back-tick, and a dollar sign is text unless a brace follows.
  | tick : Word .template 0 0 ['`']
  | templatePlain {c : Char} {o n : Nat} {w : List Char} (hc : c ≠ '\\' ∧ c ≠ '`' ∧ c ≠ '$') :
      Word .template o n w → Word .template o n (c :: w)
  | templateEscape {c : Char} {o n : Nat} {w : List Char} :
      Word .template o n w → Word .template o n ('\\' :: c :: w)
  | dollar {o n : Nat} {w : List Char} (hw : w.head? ≠ some '{') :
      Word .template o n w → Word .template o n ('$' :: w)
  | interpolation {o n o' n' : Nat} {e w : List Char} :
      Word .expression o n e → Word .template o' n' w →
      Word .template (max o o') (max (n + 1) n') ('$' :: '{' :: (e ++ w))
  -- An expression goes on to the brace that nothing in it has opened.
  | brace : Word .expression 0 0 ['}']
  | expressionPlain {c : Char} {o n : Nat} {w : List Char}
      (hc : c ≠ '{' ∧ c ≠ '}' ∧ c ≠ '\'' ∧ c ≠ '"' ∧ c ≠ '`') :
      Word .expression o n w → Word .expression o n (c :: w)
  | braces {o n o' n' : Nat} {e w : List Char} :
      Word .expression o n e → Word .expression o' n' w →
      Word .expression (max o o') (max n n') ('{' :: (e ++ w))
  | string {q : Char} {o n o' n' : Nat} {v w : List Char} (hq : q = '\'' ∨ q = '"') :
      Word (.string q) o n v → Word .expression o' n' w →
      Word .expression (max (o + 1) o') (max n n') (q :: (v ++ w))
  | template {o n o' n' : Nat} {v w : List Char} :
      Word .template o n v → Word .expression o' n' w →
      Word .expression (max (o + 1) o') (max n n') ('`' :: (v ++ w))

/-- Templates with both back-ticks; the template itself is one of the literals open. -/
inductive Template : (opened nesting : Nat) → List Char → Prop
  | mk {o n : Nat} {w : List Char} : Word .template o n w → Template (o + 1) n ('`' :: w)

theorem Word.ne_nil {part : Part} {o n : Nat} {w : List Char} (h : Word part o n w) : w ≠ [] := by
  cases h <;> simp

/-- What reading a part makes of the stack: a literal is closed, or one brace is. -/
inductive Part.Reads : Part → List Context → List Context → Prop
  | string {q : Char} {outer : List Context} (hq : q = '\'' ∨ q = '"') :
      Reads (.string q) (.string q :: outer) outer
  | template {outer : List Context} : Reads .template (.template 0 :: outer) outer
  | expression {braces : Nat} {outer : List Context} :
      Reads .expression (.template (braces + 1) :: outer) (.template braces :: outer)

/-! ## Words are read -/

/-- A step at a character, read off the table of actions. -/
theorem run_cons {start limit nesting taken : Nat} {context : Context} {outer : List Context}
    {passed cs : List Char} {c : Char} {findings : List Finding} {t : State}
    (h : action start ⟨⟨limit, context :: outer⟩, passed, c :: cs, nesting, findings⟩ context c
      cs.head? = (t, taken)) :
    run .single start ⟨⟨limit, context :: outer⟩, passed, c :: cs, nesting, findings⟩ =
      run .single start (t.moveOver taken) := by
  rw [run_of_step (step_eq_action start rfl rfl), h]

/-- Reading goes over a text, whatever follows it: from one stack to another, without a
finding, and with `reach` interpolations open at the deepest point. -/
def Passes (start limit : Nat) (items : List Context) (reach : Nat) (v : List Char)
    (items' : List Context) : Prop :=
  ∀ passed rest nesting findings,
    run .single start ⟨⟨limit, items⟩, passed, v ++ rest, nesting, findings⟩ =
      run .single start ⟨⟨limit, items'⟩, v.reverse ++ passed, rest, max nesting reach, findings⟩

namespace Passes

variable {start limit : Nat} {items items' items'' : List Context}

/-- Two passages, one after the other, make one over both texts. -/
theorem trans {m m' : Nat} {v w : List Char} (h : Passes start limit items m v items')
    (h' : Passes start limit items' m' w items'') :
    Passes start limit items (max m m') (v ++ w) items'' := by
  intro passed rest nesting findings
  rw [List.append_assoc, h, h', List.reverse_append, List.append_assoc, Nat.max_assoc]

/-- One step, with all the characters it takes. -/
theorem of_action {context : Context} {outer : List Context} {c : Char} {more : List Char}
    {m : Nat}
    (h : ∀ passed rest nesting findings,
      action start ⟨⟨limit, context :: outer⟩, passed, c :: (more ++ rest), nesting, findings⟩
          context c (more ++ rest).head? =
        (⟨⟨limit, items'⟩, passed, c :: (more ++ rest), max nesting m, findings⟩,
          more.length + 1)) :
    Passes start limit (context :: outer) m (c :: more) items' := by
  intro passed rest nesting findings
  rw [List.cons_append, run_cons (h passed rest nesting findings)]
  simp [State.moveOver]

/-- A literal is opened inside of an interpolation, where there is room for it. -/
theorem opens {context : Context} {outer : List Context} {c : Char} {braces : Nat}
    (h : ∀ s next, action start s (.template (braces + 1)) c next =
      (s.openLiteral start context, 1))
    (hRoom : outer.length + 1 < limit) :
    Passes start limit (.template (braces + 1) :: outer) 0 [c]
      (context :: .template (braces + 1) :: outer) := by
  apply of_action
  intro passed rest nesting findings
  rw [h]
  simp [State.openLiteral, Frames.push?, Frames.depth, hRoom]

end Passes

/-- Interpolations open at the deepest point of a word that is read inside of others: none
that it enters, or its own inside of these. -/
def reachOf (around nesting : Nat) : Nat := if nesting = 0 then 0 else around + nesting

theorem reachOf_max (around n n' : Nat) :
    reachOf around (max n n') = max (reachOf around n) (reachOf around n') := by
  unfold reachOf
  split <;> split <;> split <;> omega

/-- Entering an interpolation counts even if its expression enters no other. -/
theorem reachOf_succ (around n : Nat) :
    reachOf around (n + 1) = max (around + 1) (reachOf (around + 1) n) := by
  unfold reachOf
  split <;> split <;> omega

section Count

variable (outer : List Context)

@[simp] theorem countP_string (q : Char) :
    (Context.string q :: outer).countP Context.interpolates =
      outer.countP Context.interpolates := List.countP_cons_of_neg (by simp [Context.interpolates])

@[simp] theorem countP_text :
    (Context.template 0 :: outer).countP Context.interpolates =
      outer.countP Context.interpolates := List.countP_cons_of_neg (by simp [Context.interpolates])

@[simp] theorem countP_interpolation (braces : Nat) :
    (Context.template (braces + 1) :: outer).countP Context.interpolates =
      outer.countP Context.interpolates + 1 := List.countP_cons_of_pos rfl

end Count

/-- **Reading goes over a word as a whole**, if the limit admits its literals: whatever
literals are open around it and whatever follows. -/
theorem passes_word (start : Nat) {limit : Nat} {part : Part} {o n : Nat} {w : List Char}
    (h : Word part o n w) {items items' : List Context} (hReads : part.Reads items items')
    (hDepth : items.length + o ≤ limit) :
    Passes start limit items (reachOf (items.countP Context.interpolates) n) w items' := by
  induction h generalizing items items' with
  | @quote q =>
    obtain ⟨hq⟩ := hReads
    apply Passes.of_action
    rcases hq with rfl | rfl <;> simp [action, reachOf, State.close, Frames.pop]
  | @stringPlain q c o n w hc _ ih =>
    obtain ⟨hq⟩ := hReads
    have hOne : Passes start limit (.string q :: items') 0 [c] (.string q :: items') := by
      apply Passes.of_action
      simp [action, hc]
    simpa using hOne.trans (ih (.string hq) hDepth)
  | @stringEscape q c o n w _ ih =>
    obtain ⟨hq⟩ := hReads
    have hTwo : Passes start limit (.string q :: items') 0 ['\\', c] (.string q :: items') := by
      apply Passes.of_action
      simp [action]
    simpa using hTwo.trans (ih (.string hq) hDepth)
  | tick =>
    obtain ⟨⟩ := hReads
    apply Passes.of_action
    simp [action, reachOf, State.close, Frames.pop]
  | @templatePlain c o n w hc _ ih =>
    obtain ⟨⟩ := hReads
    have hOne : Passes start limit (.template 0 :: items') 0 [c] (.template 0 :: items') := by
      apply Passes.of_action
      simp [action, hc]
    simpa using hOne.trans (ih .template hDepth)
  | @templateEscape c o n w _ ih =>
    obtain ⟨⟩ := hReads
    have hTwo : Passes start limit (.template 0 :: items') 0 ['\\', c] (.template 0 :: items') := by
      apply Passes.of_action
      simp [action]
    simpa using hTwo.trans (ih .template hDepth)
  | @dollar o n w hw hWord ih =>
    obtain ⟨⟩ := hReads
    intro passed rest nesting findings
    -- The word goes on after the dollar sign, so that what follows it is not looked at.
    have hHead : (w ++ rest).head? ≠ some '{' := by
      obtain ⟨d, v, rfl⟩ := List.exists_cons_of_ne_nil hWord.ne_nil
      exact hw
    have hAction : ∀ s, action start s (.template 0) '$' (w ++ rest).head? = (s, 1) := by
      intro s
      rw [action, if_neg (by decide), if_neg (by decide), if_neg (fun h => hHead h.2)]
    rw [List.cons_append, run_cons (hAction _)]
    refine (ih .template hDepth ('$' :: passed) rest nesting findings).trans ?_
    simp
  | @interpolation o n o' n' e w _ _ ihe ihw =>
    obtain ⟨⟩ := hReads
    rw [List.length_cons] at hDepth
    have hEnter : Passes start limit (.template 0 :: items')
        (items'.countP Context.interpolates + 1) ['$', '{'] (.template 1 :: items') := by
      apply Passes.of_action
      simp [action, State.enterInterpolation, Frames.setTop, Frames.nesting]
    -- The expression is read inside of the interpolation, the text after it outside again.
    have hExpression : Passes start limit (.template 1 :: items') _ e (.template 0 :: items') :=
      ihe .expression (by simp; omega)
    have hText : Passes start limit (.template 0 :: items') _ w items' :=
      ihw .template (by simp; omega)
    rw [countP_interpolation] at hExpression
    rw [countP_text] at hText ⊢
    rw [reachOf_max, reachOf_succ]
    exact (hEnter.trans hExpression).trans hText
  | brace =>
    obtain ⟨⟩ := hReads
    apply Passes.of_action
    simp [action, reachOf, State.setBraces, Frames.setTop]
  | @expressionPlain c o n w hc _ ih =>
    cases hReads with
    | @expression braces outer =>
      have hOne : Passes start limit (.template (braces + 1) :: outer) 0 [c]
          (.template (braces + 1) :: outer) := by
        apply Passes.of_action
        simp [action, hc]
      simpa using hOne.trans (ih .expression hDepth)
  | @braces o n o' n' e w _ _ ihe ihw =>
    cases hReads with
    | @expression braces outer =>
      rw [List.length_cons] at hDepth
      have hOpen : Passes start limit (.template (braces + 1) :: outer) 0 ['{']
          (.template (braces + 2) :: outer) := by
        apply Passes.of_action
        simp [action, State.setBraces, Frames.setTop]
      -- How many braces are open does not matter for the depth, only that one is.
      have hInner : Passes start limit (.template (braces + 2) :: outer) _ e
          (.template (braces + 1) :: outer) := ihe .expression (by simp; omega)
      have hOuter : Passes start limit (.template (braces + 1) :: outer) _ w
          (.template braces :: outer) := ihw .expression (by simp; omega)
      rw [reachOf_max]
      simpa using (hOpen.trans hInner).trans hOuter
  | @string q o n o' n' v w hq _ _ ihv ihw =>
    cases hReads with
    | @expression braces outer =>
      rw [List.length_cons] at hDepth
      have hOpen : Passes start limit (.template (braces + 1) :: outer) 0 [q]
          (.string q :: .template (braces + 1) :: outer) := by
        refine .opens ?_ (by omega)
        rcases hq with rfl | rfl <;> exact fun _ _ => rfl
      have hString : Passes start limit (.string q :: .template (braces + 1) :: outer) _ v
          (.template (braces + 1) :: outer) := ihv (.string hq) (by simp; omega)
      have hOuter : Passes start limit (.template (braces + 1) :: outer) _ w
          (.template braces :: outer) := ihw .expression (by simp; omega)
      rw [reachOf_max]
      simpa using (hOpen.trans hString).trans hOuter
  | @template o n o' n' v w _ _ ihv ihw =>
    cases hReads with
    | @expression braces outer =>
      rw [List.length_cons] at hDepth
      have hOpen : Passes start limit (.template (braces + 1) :: outer) 0 ['`']
          (.template 0 :: .template (braces + 1) :: outer) :=
        .opens (fun _ _ => rfl) (by omega)
      have hTemplate : Passes start limit (.template 0 :: .template (braces + 1) :: outer) _ v
          (.template (braces + 1) :: outer) := ihv .template (by simp; omega)
      have hOuter : Passes start limit (.template (braces + 1) :: outer) _ w
          (.template braces :: outer) := ihw .expression (by simp; omega)
      rw [reachOf_max]
      simpa using (hOpen.trans hTemplate).trans hOuter

/-! ## What was read are words -/

/-- Not more literals are open than the limit admits. -/
def State.Within (s : State) (limit : Nat) : Prop :=
  s.frames.limit = limit ∧ s.frames.depth ≤ limit

/-- Replacing the top frame leaves the limit and the depth. -/
theorem within_setTop {s : State} {limit : Nat} (h : s.Within limit) (context : Context) :
    (s.frames.setTop context).limit = limit ∧ (s.frames.setTop context).depth ≤ limit := by
  refine ⟨?_, by rw [Frames.depth_setTop]; exact h.2⟩
  rw [← h.1, Frames.setTop]
  split <;> rfl

/-- No change takes the frames over the limit. -/
theorem Change.within {start limit : Nat} {s t : State} (h : Change start s t)
    (hs : s.Within limit) : t.Within limit := by
  have hClose : s.close.Within limit := by
    have hPop : s.close.frames.depth = s.frames.depth - 1 := Frames.depth_pop s.frames
    have hDepth := hs.2
    exact ⟨hs.1, by omega⟩
  cases h with
  | nothing => exact hs
  | breaks f => exact hClose
  | closes => exact hClose
  | enters => exact within_setTop hs _
  | counts braces => exact within_setTop hs _
  | opens context =>
    -- A frame is pushed only where the limit leaves room for it.
    unfold State.openLiteral
    split
    · rename_i frames hPush
      have hLimit : frames.limit = limit := by
        unfold Frames.push? at hPush
        split at hPush
        · rw [← Option.some.inj hPush]
          exact hs.1
        · simp at hPush
      exact ⟨hLimit, hLimit ▸ Frames.depth_le_of_push? hPush⟩
    · exact hs

/-- Findings are only added. -/
theorem Change.suffix_findings {start : Nat} {s t : State} (h : Change start s t) :
    s.findings <:+ t.findings := by
  cases h with
  | breaks f => exact List.suffix_cons ..
  | opens context =>
    unfold State.openLiteral
    split
    · exact List.suffix_rfl
    · exact List.suffix_cons ..
  | nothing | closes | enters | counts => exact List.suffix_rfl

/-- A run only adds to the findings. -/
theorem suffix_findings_run (start : Nat) (s : State) :
    s.findings <:+ (run .single start s).findings := by
  fun_induction run .single start s with
  | case1 s hStep => exact List.suffix_rfl
  | case2 s t hStep ih =>
    obtain ⟨u, taken, hChange, rfl⟩ := exists_change hStep
    exact hChange.suffix_findings.trans ih

/-- A text that closes all literals of a stack, innermost first: one word for each of them,
and for an interpolation one more for each brace. No word opens more literals than the limit
admits where it stands. -/
inductive Closes (limit : Nat) : List Context → List Char → Prop
  | nil : Closes limit [] []
  | word {part : Part} {items items' : List Context} {o n : Nat} {w v : List Char} :
      part.Reads items items' → Word part o n w → items.length + o ≤ limit →
      Closes limit items' v → Closes limit items (w ++ v)

/-- The first word of a text that closes a stack. -/
theorem Closes.exists_word {limit : Nat} {part : Part} {items items' : List Context}
    {v : List Char} (h : Closes limit items v) (hReads : part.Reads items items') :
    ∃ o n w v', Word part o n w ∧ items.length + o ≤ limit ∧ Closes limit items' v' ∧
      v = w ++ v' := by
  cases h with
  | nil => cases hReads
  | word hReads' hWord hDepth hRest =>
    -- The top of the stack says which part is read.
    cases hReads <;> cases hReads' <;> exact ⟨_, _, _, _, hWord, hDepth, hRest, rfl⟩

theorem Closes.ne_nil {limit : Nat} {context : Context} {outer : List Context} {v : List Char}
    (h : Closes limit (context :: outer) v) : v ≠ [] := by
  cases h with
  | word _ hWord _ _ => exact List.append_ne_nil_of_left_ne_nil hWord.ne_nil _

/-- An escape has a character to escape, if reading has to go on after it. -/
theorem exists_escaped {limit : Nat} {context : Context} {outer : List Context}
    {cs v rest : List Char} (hCloses : Closes limit (context :: outer) v)
    (hRest : cs.drop 1 = v ++ rest) : ∃ d, cs = d :: (v ++ rest) := by
  cases cs with
  | nil =>
    obtain ⟨hNil, -⟩ := List.append_eq_nil_iff.mp hRest.symm
    exact absurd hNil hCloses.ne_nil
  | cons d cs => exact ⟨d, congrArg (d :: ·) hRest⟩

/-- A literal that is not opened is found. -/
theorem items_openLiteral {start : Nat} {context : Context} {s : State}
    (hQuiet : (s.openLiteral start context).findings = []) :
    (s.openLiteral start context).frames.items = context :: s.frames.items := by
  unfold State.openLiteral Frames.push? at *
  split at hQuiet
  · rename_i frames hPush
    split at hPush
    · obtain rfl := Option.some.inj hPush
      simp
    · simp at hPush
  · exact absurd hQuiet (List.cons_ne_nil _ _)

section Step

variable (start : Nat) {limit nesting : Nat} {outer : List Context} {passed : List Char}
  {findings : List Finding} {c : Char} {cs v rest : List Char}

/-!
A text that closes the stack after a step, with the characters of the step in front, closes
the stack before it, if the step has found nothing. One lemma for each kind of literal; the
cases are those of its actions.
-/

/-- One action inside a string, from the text after it back to the text before. -/
theorem closes_string {q : Char} (hq : q = '\'' ∨ q = '"') {t : State} {taken : Nat}
    (hRoom : outer.length + 1 ≤ limit)
    (hAction : action start ⟨⟨limit, .string q :: outer⟩, passed, c :: cs, nesting, findings⟩
      (.string q) c cs.head? = (t, taken))
    (hQuiet : t.findings = []) (hCloses : Closes limit t.frames.items v)
    (hRest : (c :: cs).drop taken = v ++ rest) :
    ∃ u, Closes limit (.string q :: outer) u ∧ c :: cs = u ++ rest := by
  by_cases hEscape : c = '\\'
  · subst hEscape
    obtain ⟨rfl, rfl⟩ := Prod.mk.inj hAction
    obtain ⟨o, n, w, v', hWord, hDepth, hOuter, rfl⟩ := hCloses.exists_word (.string hq)
    obtain ⟨d, rfl⟩ := exists_escaped hCloses hRest
    exact ⟨_, .word (.string hq) (.stringEscape (c := d) hWord) hDepth hOuter, by simp⟩
  by_cases hLine : c = '\n'
  · -- A broken string is always found.
    rw [action, if_neg hEscape, if_pos hLine] at hAction
    split at hAction
    · obtain ⟨rfl, -⟩ := Prod.mk.inj hAction
      exact absurd hQuiet (List.cons_ne_nil _ _)
    · obtain ⟨rfl, -⟩ := Prod.mk.inj hAction
      exact absurd hQuiet (List.cons_ne_nil _ _)
  by_cases hQuote : c = q
  · subst hQuote
    simp only [action, if_neg hEscape, if_neg hLine] at hAction
    obtain ⟨rfl, rfl⟩ := Prod.mk.inj hAction
    exact ⟨_, .word (.string hq) .quote hRoom hCloses, by simpa using hRest⟩
  · simp only [action, if_neg hEscape, if_neg hLine, if_neg hQuote] at hAction
    obtain ⟨rfl, rfl⟩ := Prod.mk.inj hAction
    obtain ⟨o, n, w, v', hWord, hDepth, hOuter, rfl⟩ := hCloses.exists_word (.string hq)
    exact ⟨_, .word (.string hq) (.stringPlain ⟨hQuote, hEscape, hLine⟩ hWord) hDepth hOuter,
      by simpa using hRest⟩

/-- One action inside the text of a template, from the text after it back to the text before. -/
theorem closes_template {t : State} {taken : Nat} (hRoom : outer.length + 1 ≤ limit)
    (hAction : action start ⟨⟨limit, .template 0 :: outer⟩, passed, c :: cs, nesting, findings⟩
      (.template 0) c cs.head? = (t, taken))
    (hCloses : Closes limit t.frames.items v) (hRest : (c :: cs).drop taken = v ++ rest) :
    ∃ u, Closes limit (.template 0 :: outer) u ∧ c :: cs = u ++ rest := by
  by_cases hEscape : c = '\\'
  · subst hEscape
    obtain ⟨rfl, rfl⟩ := Prod.mk.inj hAction
    obtain ⟨o, n, w, v', hWord, hDepth, hOuter, rfl⟩ := hCloses.exists_word .template
    obtain ⟨d, rfl⟩ := exists_escaped hCloses hRest
    exact ⟨_, .word .template (.templateEscape (c := d) hWord) hDepth hOuter, by simp⟩
  by_cases hTick : c = '`'
  · subst hTick
    obtain ⟨rfl, rfl⟩ := Prod.mk.inj hAction
    exact ⟨_, .word .template .tick hRoom hCloses, by simpa using hRest⟩
  by_cases hEnters : c = '$' ∧ cs.head? = some '{'
  · obtain ⟨rfl, hBrace⟩ := hEnters
    obtain ⟨cs', rfl⟩ := List.head?_eq_some_iff.mp hBrace
    obtain ⟨rfl, rfl⟩ := Prod.mk.inj hAction
    -- First the expression up to its brace, then the text after it.
    obtain ⟨o, n, e, v', hExpression, hDepth, hText, rfl⟩ := hCloses.exists_word .expression
    obtain ⟨o', n', w, v'', hWord, hDepth', hOuter, rfl⟩ := hText.exists_word .template
    refine ⟨_, .word .template (.interpolation hExpression hWord) ?_ hOuter, by simpa using hRest⟩
    have hInside : outer.length + 1 + o ≤ limit := hDepth
    simp only [List.length_cons] at hDepth' ⊢
    omega
  · simp only [action, if_neg hEscape, if_neg hTick, if_neg hEnters] at hAction
    obtain ⟨rfl, rfl⟩ := Prod.mk.inj hAction
    obtain ⟨o, n, w, v', hWord, hDepth, hOuter, rfl⟩ := hCloses.exists_word .template
    have hCs : cs = w ++ v' ++ rest := hRest
    by_cases hDollar : c = '$'
    · subst hDollar
      have hHead : w.head? ≠ some '{' := by
        obtain ⟨d, u, rfl⟩ := List.exists_cons_of_ne_nil hWord.ne_nil
        intro hBrace
        exact hEnters ⟨rfl, by rw [hCs]; exact hBrace⟩
      exact ⟨_, .word .template (.dollar hHead hWord) hDepth hOuter, by simp [hCs]⟩
    · exact ⟨_, .word .template (.templatePlain ⟨hEscape, hTick, hDollar⟩ hWord) hDepth hOuter,
        by simp [hCs]⟩

/-- One action inside an interpolation, from the text after it back to the text before. -/
theorem closes_interpolation {braces : Nat} {t : State} {taken : Nat}
    (hRoom : outer.length + 1 ≤ limit)
    (hAction : action start
      ⟨⟨limit, .template (braces + 1) :: outer⟩, passed, c :: cs, nesting, findings⟩
      (.template (braces + 1)) c cs.head? = (t, taken))
    (hQuiet : t.findings = []) (hCloses : Closes limit t.frames.items v)
    (hRest : (c :: cs).drop taken = v ++ rest) :
    ∃ u, Closes limit (.template (braces + 1) :: outer) u ∧ c :: cs = u ++ rest := by
  by_cases hOpen : c = '{'
  · subst hOpen
    obtain ⟨rfl, rfl⟩ := Prod.mk.inj hAction
    -- The braces are closed first, and then what they stand in.
    obtain ⟨o, n, e, v', hInner, hDepth, hAfter, rfl⟩ := hCloses.exists_word .expression
    obtain ⟨o', n', w, v'', hWord, hDepth', hOuter, rfl⟩ := hAfter.exists_word .expression
    refine ⟨_, .word .expression (.braces hInner hWord) ?_ hOuter, by simpa using hRest⟩
    have hInside : outer.length + 1 + o ≤ limit := hDepth
    simp only [List.length_cons] at hDepth' ⊢
    omega
  by_cases hClose : c = '}'
  · subst hClose
    obtain ⟨rfl, rfl⟩ := Prod.mk.inj hAction
    exact ⟨_, .word .expression .brace hRoom hCloses, by simpa using hRest⟩
  by_cases hQuote : c = '\'' ∨ c = '"'
  · rw [action, if_neg hOpen, if_neg hClose, if_pos hQuote] at hAction
    obtain ⟨rfl, rfl⟩ := Prod.mk.inj hAction
    -- There was room for the literal, since nothing was found, so that it is on top.
    rw [items_openLiteral hQuiet] at hCloses
    obtain ⟨o, n, s, v', hString, hDepth, hAfter, rfl⟩ := hCloses.exists_word (.string hQuote)
    obtain ⟨o', n', w, v'', hWord, hDepth', hOuter, rfl⟩ := hAfter.exists_word .expression
    refine ⟨_, .word .expression (.string hQuote hString hWord) ?_ hOuter, by simpa using hRest⟩
    simp only [List.length_cons] at hDepth hDepth' ⊢
    omega
  by_cases hTick : c = '`'
  · subst hTick
    obtain ⟨rfl, rfl⟩ := Prod.mk.inj hAction
    rw [items_openLiteral hQuiet] at hCloses
    obtain ⟨o, n, s, v', hTemplate, hDepth, hAfter, rfl⟩ := hCloses.exists_word .template
    obtain ⟨o', n', w, v'', hWord, hDepth', hOuter, rfl⟩ := hAfter.exists_word .expression
    refine ⟨_, .word .expression (.template hTemplate hWord) ?_ hOuter, by simpa using hRest⟩
    simp only [List.length_cons] at hDepth hDepth' ⊢
    omega
  · rw [action, if_neg hOpen, if_neg hClose, if_neg hQuote, if_neg hTick] at hAction
    obtain ⟨rfl, rfl⟩ := Prod.mk.inj hAction
    rw [not_or] at hQuote
    obtain ⟨o, n, w, v', hWord, hDepth, hOuter, rfl⟩ := hCloses.exists_word .expression
    exact ⟨_, .word .expression
      (.expressionPlain ⟨hOpen, hClose, hQuote.1, hQuote.2, hTick⟩ hWord) hDepth hOuter,
      by simpa using hRest⟩

end Step

/-- If what follows a quiet step closes the frames, so does what stands before it. -/
theorem closes_step {start limit : Nat} {s t : State} {v rest : List Char}
    (hSound : s.frames.Sound) (hWithin : s.Within limit) (hStep : step .single start s = some t)
    (hQuiet : t.findings = []) (hCloses : Closes limit t.frames.items v)
    (hRest : t.rest = v ++ rest) :
    ∃ u, Closes limit s.frames.items u ∧ s.rest = u ++ rest := by
  obtain ⟨context, c, cs, hTop, hText⟩ := exists_of_step hStep
  have hContext := hSound.top? hTop
  rw [step_eq_action start hTop hText] at hStep
  obtain rfl := Option.some.inj hStep
  have hDrop : (c :: cs).drop (action start s context c cs.head?).2 = v ++ rest := by
    rw [← hRest, State.moveOver, rest_action, hText]
  obtain ⟨⟨limit', items⟩, passed, text, nesting, findings⟩ := s
  obtain rfl : text = c :: cs := hText
  obtain ⟨outer, rfl⟩ := List.head?_eq_some_iff.mp hTop
  obtain ⟨rfl, hRoom⟩ : limit' = limit ∧ outer.length + 1 ≤ limit := hWithin
  match context with
  | .string q =>
    have hq : q = '\'' ∨ q = '"' := by simpa [Context.isSound] using hContext
    exact closes_string start hq hRoom rfl hQuiet hCloses hDrop
  | .template 0 => exact closes_template start hRoom rfl hCloses hDrop
  | .template (braces + 1) => exact closes_interpolation start hRoom rfl hQuiet hCloses hDrop

/-- **Where nothing was found, words were read**: a run that finds nothing and closes all
literals has read a word for each of them. -/
theorem closes_of_run {start limit : Nat} {s : State} (hSound : s.frames.Sound)
    (hWithin : s.Within limit) (hQuiet : (run .single start s).findings = [])
    (hClosed : (run .single start s).frames.items = []) :
    ∃ u, Closes limit s.frames.items u ∧ s.rest = u ++ (run .single start s).rest := by
  fun_induction run .single start s with
  | case1 s hStep =>
    rw [hClosed]
    exact ⟨[], .nil, rfl⟩
  | case2 s t hStep ih =>
    have hNext : t.Within limit := by
      obtain ⟨u, taken, hChange, rfl⟩ := exists_change hStep
      exact hChange.within hWithin
    obtain ⟨v, hCloses, hRest⟩ := ih (sound_step hStep hSound) hNext hQuiet hClosed
    have hNone : t.findings = [] := List.suffix_nil.mp (hQuiet ▸ suffix_findings_run start t)
    exact closes_step hSound hWithin hStep hNone hCloses hRest

/-! ## Templates -/

/-- The state in which a template is read: it is open, and its back-tick has been passed. -/
def templateStart (limit : Nat) (cs : List Char) : State :=
  { frames := ⟨limit, [.template 0]⟩, passed := ['`'], rest := cs }

/-- The reading of a template as the last state of a run from its first frame. -/
theorem readTemplate_eq {limit : Nat} (start : Nat) (cs : List Char) (hLimit : 1 ≤ limit) :
    readTemplate .extended limit start cs =
      { context := .template (run .extended start (templateStart limit cs)).nesting
        text := (run .extended start (templateStart limit cs)).passed.reverse
        rest := (run .extended start (templateStart limit cs)).rest
        findings := (run .extended start (templateStart limit cs)).allFindings start } := by
  have hPush : Frames.push? { limit } (.template 0) = some ⟨limit, [.template 0]⟩ := if_pos hLimit
  rw [readTemplate, hPush]
  rfl

/-- The frames a template starts with are sound. -/
theorem sound_templateStart (limit : Nat) (cs : List Char) :
    (templateStart limit cs).frames.Sound := by
  intro context hContext
  obtain rfl := List.mem_singleton.mp hContext
  rfl

/-- A template of the grammar is read to its end, and nothing more. -/
theorem run_word {o n limit : Nat} {v : List Char} (h : Word .template o n v)
    (hDepth : o + 1 ≤ limit) (start : Nat) (rest : List Char) :
    run .extended start (templateStart limit (v ++ rest)) =
      ⟨⟨limit, []⟩, v.reverse ++ ['`'], rest, n, []⟩ := by
  have hSound := sound_templateStart limit (v ++ rest)
  have hPasses : Passes start limit [.template 0] _ v [] :=
    passes_word start h .template (by simp; omega)
  have hReach : max 0 (reachOf 0 n) = n := by
    unfold reachOf
    split <;> omega
  rw [run_extended hSound, templateStart, hPasses]
  simp only [countP_text, List.countP_nil, hReach]
  exact run_of_stuck rfl

/-- A word of the grammar is read as one template, with nothing to report. -/
theorem readTemplate_word {o n limit : Nat} {v : List Char} (h : Word .template o n v)
    (hDepth : o + 1 ≤ limit) (start : Nat) (rest : List Char) :
    readTemplate .extended limit start (v ++ rest) =
      { context := .template n, text := '`' :: v, rest, findings := [] } := by
  rw [readTemplate_eq start _ (by omega), run_word h hDepth start rest]
  simp [State.allFindings, findingsAtEnd, Frames.frame?]

/-- Nothing is found at the end only where no literal is open. -/
theorem items_of_findingsAtEnd {start : Nat} {frames : Frames}
    (h : findingsAtEnd start frames = []) : frames.items = [] := by
  cases hOutermost : frames.frame? 0 with
  | none => simpa [Frames.frame?] using hOutermost
  | some outermost =>
    rw [findingsAtEnd, hOutermost] at h
    exact absurd h (List.append_ne_nil_of_right_ne_nil _ (List.cons_ne_nil _ _))

/-- Where nothing was found, a template of the grammar stands. -/
theorem exists_word_of_findings {limit start : Nat} {cs : List Char}
    (h : (readTemplate .extended limit start cs).findings = []) :
    ∃ o n v rest, Word .template o n v ∧ o + 1 ≤ limit ∧ cs = v ++ rest := by
  have hLimit : 1 ≤ limit := by
    by_contra hNone
    obtain rfl : limit = 0 := by omega
    exact absurd h (List.cons_ne_nil _ _)
  have hSound := sound_templateStart limit cs
  rw [readTemplate_eq start cs hLimit, run_extended hSound] at h
  obtain ⟨hFindings, hEnd⟩ := List.append_eq_nil_iff.mp h
  have hWithin : (templateStart limit cs).Within limit := ⟨rfl, hLimit⟩
  obtain ⟨u, hCloses, hText⟩ := closes_of_run hSound hWithin
    (List.reverse_eq_nil_iff.mp hFindings) (items_of_findingsAtEnd hEnd)
  obtain ⟨o, n, v, v', hWord, hDepth, -, rfl⟩ := hCloses.exists_word .template
  rw [List.append_assoc] at hText
  have hDepth : 1 + o ≤ limit := hDepth
  exact ⟨o, n, v, _, hWord, by omega, hText⟩

end Literal

namespace Tokenizer

open Literal

/-- **A template is read by its grammar.** Where a template of the grammar starts and the
limit admits the literals that are open in it at once, reading takes just this template,
whatever follows it: it tells how deep its interpolations are nested, leaves no literal open
and writes nothing to the log. And only such a template is read without an entry in the
log. -/
theorem templates_by_grammar (t : Tokenizer) (before : List Char) :
    (∀ (opened nesting : Nat) (word rest : List Char), Template opened nesting word →
      opened ≤ t.options.maxDepth →
      let start := byteLength before
      let r := readTemplate .extended t.options.maxDepth start (word.tail ++ rest)
      r.text = word ∧ r.rest = rest ∧ r.context = .template nesting ∧
      (run .extended start (templateStart t.options.maxDepth (word.tail ++ rest))).frames.depth
        = 0 ∧
      (r.findings.foldl (note · (before ++ word ++ rest)) t).log = t.log) ∧
    ∀ cs : List Char,
      let r := readTemplate .extended t.options.maxDepth (byteLength before) cs
      (r.findings.foldl (note · (before ++ '`' :: cs)) t).log = t.log →
      r.text ++ r.rest = '`' :: cs ∧
      ∃ opened nesting, opened ≤ t.options.maxDepth ∧ Template opened nesting r.text := by
  constructor
  · intro opened nesting word rest hTemplate hDepth
    obtain ⟨hWord⟩ := hTemplate
    simp only [List.tail_cons]
    rw [readTemplate_word hWord hDepth, run_word hWord hDepth]
    exact ⟨rfl, rfl, rfl, rfl, rfl⟩
  · intro cs
    dsimp only
    intro hLog
    -- A log that has not changed means that nothing was found.
    obtain ⟨o, n, v, rest, hWord, hDepth, rfl⟩ :=
      exists_word_of_findings (log_foldl_note_eq_iff.mp hLog)
    rw [readTemplate_word hWord hDepth]
    exact ⟨rfl, o + 1, n, hDepth, .mk hWord⟩

/-- A brace in a string inside of an interpolation closes nothing; the template is read up to
its own back-tick, and from the silence of the log it is seen to be one. -/
theorem templates_by_grammar_quoted :
    let t := Tokenizer.new {}
    let word := ['`', '$', '{', '\'', '}', '\'', '}', '`']
    let r := readTemplate .extended t.options.maxDepth 0 (word.tail ++ ['}', '`'])
    Template 2 1 word ∧ r.text = word ∧ r.rest = ['}', '`'] ∧ r.context = .template 1 ∧
    (r.findings.foldl (note · (word ++ ['}', '`'])) t).log = t.log ∧
    ∃ opened nesting, opened ≤ t.options.maxDepth ∧ Template opened nesting r.text := by
  intro t word r
  have hString : Word (.string '\'') 0 0 ['}', '\''] := .stringPlain (by decide) .quote
  have hTemplate : Template 2 1 word :=
    .mk (.interpolation (.string (.inl rfl) hString .brace) .tick)
  obtain ⟨hText, hRest, hContext, -, hLog⟩ :=
    (templates_by_grammar t []).1 2 1 word ['}', '`'] hTemplate (by decide)
  obtain ⟨-, hGrammar⟩ := (templates_by_grammar t []).2 (word.tail ++ ['}', '`']) hLog
  exact ⟨hTemplate, hText, hRest, hContext, hLog, hGrammar⟩

end Tokenizer

end CommentSieve
