import CommentSieve.Proofs.DepthLimit

/-!
# One stack for all literals

Every token is read with a stack of open literals of its own. It could as well be one stack for
all tokens and all texts, each token reading on top of what is open already (`Literal.turn`), if
only it leaves the stack as it was. It does, on each of its three ways out: when its last literal
is closed, when a line end breaks it off, and when the text ends. What carries this is the form
of the literals that a token has opened (`Literal.Nested`): around each of them there is a
template whose interpolation is open.

The same form shows that the loop ends. The line end that breaks a string inside of an
interpolation is not taken in that turn. But then there is an interpolation around the string,
and the next turn takes the line end there. So no two turns in a row take nothing.

Main results:

* `Literal.Nested.restacks` — every turn keeps the form of the open literals.
* `Literal.Orderly.potential_lt` — every turn brings the end nearer, so that there is one
  (`Literal.Turns.count_le`).
* `Literal.Orderly.settle_eq` — what is left behind is the stack from before.
* `Scan.loopOn_eq`, `Tokenizer.literals_give_back_the_stack` — so one stack for all tokens is as
  good as one for each, and it is empty at the end.
-/

namespace CommentSieve

open Text

namespace Literal

/-! ## The form of the open literals -/

/-- Literals that one token has opened, innermost first: strings and templates, and around each
of them a template whose interpolation is open. -/
structure Nested (opened : List Context) : Prop where
  literals : ∀ context ∈ opened, context.isLiteral = true
  enclosing : ∀ context ∈ opened.tail, context.interpolates = true

/-- What can hold an interpolation is a literal. -/
theorem isLiteral_of_interpolates {context : Context} (h : context.interpolates = true) :
    context.isLiteral = true := by
  unfold Context.interpolates at h
  split at h
  · rfl
  · cases h

/-- A string is the outermost literal of its token or stands in an interpolation. -/
theorem Nested.around_string {opened : List Context} (h : Nested opened) {i : Nat} {quote : Char}
    (hString : opened[i]? = some (.string quote)) :
    i + 1 = opened.length ∨ ∃ braces, opened[i + 1]? = some (.template (braces + 1)) := by
  have hBound : i < opened.length := (List.getElem?_eq_some_iff.mp hString).1
  rcases Nat.lt_or_ge (i + 1) opened.length with hInner | hOutermost
  · -- What is around the string is not the innermost literal, so it is an interpolation.
    right
    have hAround : opened[i + 1]? = some opened[i + 1] := List.getElem?_eq_getElem hInner
    have hTail : opened[i + 1] ∈ opened.tail := by
      rw [← List.drop_one]
      exact List.mem_drop_iff_getElem.mpr ⟨i, by omega, by congr 1; omega⟩
    have hOpen := h.enclosing _ hTail
    rw [hAround]
    unfold Context.interpolates at hOpen
    split at hOpen
    · rename_i braces hTemplate
      exact ⟨braces, by rw [hTemplate]⟩
    · cases hOpen
  · left
    omega

/-- The change that a character makes to the number of open braces. In the text of a template
only `${` opens one. -/
def braceChange (braces : Nat) (c : Char) (next : Option Char) : Int :=
  if braces = 0 then (if c = '$' ∧ next = some '{' then 1 else 0)
  else if c = '{' then 1 else if c = '}' then -1 else 0

/-- What a character can do to the open literals, the innermost first. Braces are counted in the
innermost template alone, and without a remainder: the new number is the sum of the old one and
the change. -/
inductive Restacks (c : Char) (next : Option Char) : List Context → List Context → Prop
  | stays (quote : Char) (outer : List Context) :
      Restacks c next (.string quote :: outer) (.string quote :: outer)
  | closes (top : Context) (outer : List Context) : Restacks c next (top :: outer) outer
  | counts {braces braces' : Nat} (outer : List Context)
      (hSum : (braces' : Int) = braces + braceChange braces c next) :
      Restacks c next (.template braces :: outer) (.template braces' :: outer)
  | opens {inner : Context} (braces : Nat) (outer : List Context)
      (hInner : inner.isLiteral = true) :
      Restacks c next (.template (braces + 1) :: outer)
        (inner :: .template (braces + 1) :: outer)

variable {c : Char} {next : Option Char} {opened opened' outer below : List Context}

/-- **Every character keeps the form of the open literals.** -/
theorem Nested.restacks (h : Nested opened) (hRestacks : Restacks c next opened opened') :
    Nested opened' := by
  cases hRestacks with
  | stays quote outer => exact h
  | closes top outer =>
    -- What was around the innermost literal are interpolations, each in another one.
    refine ⟨fun context hContext => isLiteral_of_interpolates (h.enclosing context hContext), ?_⟩
    intro context hContext
    exact h.enclosing context (List.mem_of_mem_tail hContext)
  | counts outer hSum =>
    refine ⟨?_, h.enclosing⟩
    intro context hContext
    rcases List.mem_cons.mp hContext with rfl | hOuter
    · rfl
    · exact h.literals context (List.mem_cons_of_mem _ hOuter)
  | opens braces outer hInner =>
    constructor
    · intro context hContext
      rcases List.mem_cons.mp hContext with rfl | hOpened
      · exact hInner
      · exact h.literals context hOpened
    · intro context hContext
      rcases List.mem_cons.mp hContext with rfl | hOuter
      · rfl
      · exact h.enclosing context hOuter

/-- What happens on top of a stack does not touch what is below. -/
theorem Restacks.above {top : Context} (h : Restacks c next (top :: (outer ++ below)) opened') :
    ∃ opened, opened' = opened ++ below ∧ Restacks c next (top :: outer) opened := by
  generalize hItems : top :: (outer ++ below) = items at h
  cases h with
  | stays quote rest =>
    obtain ⟨rfl, rfl⟩ := List.cons.inj hItems
    exact ⟨.string quote :: outer, rfl, .stays quote outer⟩
  | closes top' rest =>
    obtain ⟨rfl, rfl⟩ := List.cons.inj hItems
    exact ⟨outer, rfl, .closes top outer⟩
  | @counts braces braces' rest hSum =>
    obtain ⟨rfl, rfl⟩ := List.cons.inj hItems
    exact ⟨.template braces' :: outer, rfl, .counts outer hSum⟩
  | @opens inner braces rest hInner =>
    obtain ⟨rfl, rfl⟩ := List.cons.inj hItems
    exact ⟨inner :: .template (braces + 1) :: outer, rfl, .opens braces outer hInner⟩

/-- A literal that opens in an interpolation lies on top of it, or is not opened at all. -/
theorem restacks_openLiteral (start : Nat) {s : State} {inner : Context} {braces : Nat}
    (hItems : s.frames.items = .template (braces + 1) :: outer) (hInner : inner.isLiteral = true)
    (hSum : braceChange (braces + 1) c next = 0) :
    Restacks c next (.template (braces + 1) :: outer) (s.openLiteral start inner).frames.items := by
  unfold State.openLiteral Frames.push?
  split
  · rename_i frames hPush
    split at hPush
    · obtain rfl := Option.some.inj hPush
      rw [hItems]
      exact .opens braces outer hInner
    · cases hPush
  · -- The limit lets nothing be opened, and nothing is counted.
    show Restacks c next _ s.frames.items
    rw [hItems]
    exact .counts outer (by rw [hSum, Int.add_zero])

theorem top?_eq {frames : Frames} {top : Context} (hItems : frames.items = top :: outer) :
    frames.top? = some top := by
  rw [Frames.top?, hItems]
  rfl

/-- Closing takes the top away. -/
theorem items_close {s : State} {top : Context} (hItems : s.frames.items = top :: outer) :
    s.close.frames.items = outer := by
  show s.frames.items.tail = outer
  rw [hItems]
  rfl

theorem items_setTop {frames : Frames} {top : Context} (hItems : frames.items = top :: outer)
    (context : Context) : (frames.setTop context).items = context :: outer := by
  unfold Frames.setTop
  rw [hItems]

/-- A turn in a string does one of the things listed. -/
theorem restacks_stepString (form : Escape.Form) (start : Nat) {s : State} {quote : Char}
    (hItems : s.frames.items = .string quote :: outer) :
    Restacks c next (.string quote :: outer) (stepString form start quote c s).frames.items := by
  unfold stepString
  repeat' split
  · rw [State.frames_skipEscape, hItems]
    exact .stays quote outer
  · show Restacks c next _ s.close.frames.items
    rw [items_close hItems]
    exact .closes _ outer
  · show Restacks c next _ s.close.frames.items
    rw [items_close hItems]
    exact .closes _ outer
  · rw [State.frames_advance, items_close hItems]
    exact .closes _ outer
  · rw [State.frames_advance, hItems]
    exact .stays quote outer

/-- A turn in the text of a template does one of the things listed. -/
theorem restacks_stepTemplate (form : Escape.Form) {s : State} {cs : List Char}
    (hItems : s.frames.items = .template 0 :: outer) :
    Restacks c cs.head? (.template 0 :: outer) (stepTemplate form c cs s).frames.items := by
  unfold stepTemplate
  split
  · rename_i hEscape
    -- An escape counts no brace, even if the brace of `${` comes after it.
    have hSum : braceChange 0 c cs.head? = 0 := by
      rw [braceChange, if_pos rfl, if_neg]
      rintro ⟨rfl, -⟩
      exact absurd hEscape (by decide)
    rw [State.frames_skipEscape, hItems]
    exact .counts outer (by rw [hSum, Int.add_zero])
  split
  · rw [State.frames_advance, items_close hItems]
    exact .closes _ outer
  split
  · rename_i hEnter
    have hSum : braceChange 0 c cs.head? = 1 := by rw [braceChange, if_pos rfl, if_pos hEnter]
    rw [State.frames_advance, State.frames_advance]
    show Restacks c cs.head? _ (s.frames.setTop (.template 1)).items
    rw [items_setTop hItems]
    exact .counts outer (by rw [hSum]; rfl)
  · rename_i hPlain
    have hSum : braceChange 0 c cs.head? = 0 := by rw [braceChange, if_pos rfl, if_neg hPlain]
    rw [State.frames_advance, hItems]
    exact .counts outer (by rw [hSum, Int.add_zero])

/-- A turn in an interpolation does one of the things listed. -/
theorem restacks_stepInterpolation (start : Nat) {s : State} {braces : Nat}
    (hItems : s.frames.items = .template (braces + 1) :: outer) :
    Restacks c next (.template (braces + 1) :: outer)
      (stepInterpolation start braces c s).frames.items := by
  unfold stepInterpolation
  by_cases hOpen : c = '{'
  · have hSum : braceChange (braces + 1) c next = 1 := by
      rw [braceChange, if_neg (Nat.succ_ne_zero braces), if_pos hOpen]
    rw [if_pos hOpen, State.frames_advance]
    show Restacks c next _ (s.frames.setTop (.template (braces + 2))).items
    rw [items_setTop hItems]
    exact .counts outer (by rw [hSum]; omega)
  by_cases hShut : c = '}'
  · have hSum : braceChange (braces + 1) c next = -1 := by
      rw [braceChange, if_neg (Nat.succ_ne_zero braces), if_neg hOpen, if_pos hShut]
    rw [if_neg hOpen, if_pos hShut, State.frames_advance]
    show Restacks c next _ (s.frames.setTop (.template braces)).items
    rw [items_setTop hItems]
    exact .counts outer (by rw [hSum]; omega)
  -- Any other character leaves the braces as they are.
  have hSum : braceChange (braces + 1) c next = 0 := by
    rw [braceChange, if_neg (Nat.succ_ne_zero braces), if_neg hOpen, if_neg hShut]
  rw [if_neg hOpen, if_neg hShut]
  repeat' split
  · rw [State.frames_advance]
    exact restacks_openLiteral start hItems rfl hSum
  · rw [State.frames_advance]
    exact restacks_openLiteral start hItems rfl hSum
  · rw [State.frames_advance, hItems]
    exact .counts outer (by rw [hSum, Int.add_zero])

/-- What a step does to the open literals. -/
theorem restacks_step {form : Escape.Form} {start : Nat} {s t : State} {context : Context}
    {cs : List Char} (hItems : s.frames.items = context :: outer)
    (hLiteral : context.isLiteral = true) (hRest : s.rest = c :: cs)
    (hStep : step form start s = some t) :
    Restacks c cs.head? (context :: outer) t.frames.items := by
  have hTop : s.frames.top? = some context := top?_eq hItems
  match context with
  | .string quote =>
    simp only [step, hTop, hRest, Option.some.injEq] at hStep
    rw [← hStep]
    exact restacks_stepString form start hItems
  | .template 0 =>
    simp only [step, hTop, hRest, Option.some.injEq] at hStep
    rw [← hStep]
    exact restacks_stepTemplate form hItems
  | .template (braces + 1) =>
    simp only [step, hTop, hRest, Option.some.injEq] at hStep
    rw [← hStep]
    exact restacks_stepInterpolation start hItems

/-! ## Reading on a stack that is not empty -/

/-- Whether a line end breaks the innermost literal. -/
def State.breaksOff (s : State) : Bool :=
  match s.frames.top?, s.rest with
  | some (.string _), '\n' :: _ => true
  | _, _ => false

/-- One turn of the loop that reads a token on a stack with `base` literals open before it. It
stops when no more are open than that, and only the literal just above them is the token. -/
def turn (form : Escape.Form) (start base : Nat) (s : State) : Option State :=
  if s.frames.depth ≤ base then none
  else if s.breaksOff then
    if s.frames.depth = base + 1 then some (s.close.note (.malformed .string start))
    else some (s.close.note (.brokenNested (s.offset start)))
  else step form start s

variable {form : Escape.Form} {start base : Nat} {s t : State}

/-- Only a string is broken off, and only by a line end. -/
theorem exists_of_breaksOff (h : s.breaksOff = true) :
    ∃ quote cs, s.frames.top? = some (.string quote) ∧ s.rest = '\n' :: cs := by
  unfold State.breaksOff at h
  split at h
  · rename_i quote cs hTop hRest
    exact ⟨quote, cs, hTop, hRest⟩
  · cases h

/-- A turn breaks the innermost literal off or is a step. -/
theorem turn_cases (h : turn form start base s = some t) :
    base < s.frames.depth ∧
      ((s.breaksOff = true ∧ ∃ f, t = s.close.note f) ∨
        (s.breaksOff = false ∧ step form start s = some t)) := by
  unfold turn at h
  split at h
  · cases h
  · rename_i hDepth
    refine ⟨Nat.lt_of_not_le hDepth, ?_⟩
    split at h
    · rename_i hBreaks
      left
      split at h
      · exact ⟨hBreaks, _, (Option.some.inj h).symm⟩
      · exact ⟨hBreaks, _, (Option.some.inj h).symm⟩
    · rename_i hGoes
      exact .inr ⟨by simpa using hGoes, h⟩

/-- Where nothing was open before, the turns are the steps. -/
theorem turn_zero (form : Escape.Form) (start : Nat) (s : State) :
    turn form start 0 s = step form start s := by
  unfold turn
  split
  · rename_i hDepth
    have hItems : s.frames.items = [] := List.length_eq_zero_iff.mp (Nat.le_zero.mp hDepth)
    simp [step, Frames.top?, hItems]
  · split
    · rename_i hBreaks
      obtain ⟨quote, cs, hTop, hRest⟩ := exists_of_breaksOff hBreaks
      have hLine : ('\n' : Char) ≠ '\\' := by decide
      simp only [step, hTop, hRest, stepString, if_neg hLine, if_pos, Nat.zero_add]
      split
      · rfl
      · rfl
    · rfl

/-- Turns end only where the token has been read and at the end of the text. -/
theorem turn_eq_none_iff : turn form start base s = none ↔ s.frames.depth ≤ base ∨ s.rest = [] := by
  constructor
  · -- Otherwise there is a literal and a character, and some turn for them.
    intro hStuck
    by_contra hGoes
    rw [not_or] at hGoes
    obtain ⟨hDepth, hRest⟩ := hGoes
    obtain ⟨c, cs, hText⟩ := List.exists_cons_of_ne_nil hRest
    obtain ⟨context, outer, hItems⟩ := List.exists_cons_of_length_pos
      (Nat.zero_lt_of_lt (Nat.lt_of_not_le hDepth) : 0 < s.frames.items.length)
    have hTop : s.frames.top? = some context := top?_eq hItems
    rw [turn, if_neg hDepth] at hStuck
    split at hStuck
    · split at hStuck <;> cases hStuck
    · unfold step at hStuck
      rw [hTop, hText] at hStuck
      split at hStuck <;> simp_all
  · rintro (hDepth | hEnd)
    · rw [turn, if_pos hDepth]
    · cases hTurn : turn form start base s with
      | none => rfl
      | some t =>
        obtain ⟨-, ⟨hBreaks, -⟩ | ⟨-, hStep⟩⟩ := turn_cases hTurn
        · obtain ⟨quote, cs, -, hRest⟩ := exists_of_breaksOff hBreaks
          rw [hEnd] at hRest
          cases hRest
        · rw [step, hEnd] at hStep
          split at hStep <;> simp_all

/-- Every turn makes progress. -/
theorem measure_turn (h : turn form start base s = some t) : Progress s t := by
  obtain ⟨-, ⟨hBreaks, f, rfl⟩ | ⟨-, hStep⟩⟩ := turn_cases h
  · obtain ⟨quote, cs, hTop, -⟩ := exists_of_breaksOff hBreaks
    exact .inr ⟨rfl, State.depth_close hTop⟩
  · exact measure_step hStep

/-- Reads on until no turn is possible. -/
def runOn (form : Escape.Form) (start base : Nat) (s : State) : State :=
  match _h : turn form start base s with
  | none => s
  | some t => runOn form start base t
termination_by (s.rest.length, s.frames.depth)
decreasing_by
  rcases measure_turn _h with h' | ⟨h', h''⟩
  · exact Prod.Lex.left _ _ h'
  · rw [h']
    exact Prod.Lex.right _ h''

/-- Above no frames reading is what it is on a stack of its own. -/
theorem runOn_zero (form : Escape.Form) (start : Nat) (s : State) :
    runOn form start 0 s = run form start s := by
  fun_induction runOn form start 0 s with
  | case1 s hTurn =>
    rw [turn_zero] at hTurn
    rw [run_of_stuck hTurn]
  | case2 s t hTurn ih =>
    rw [turn_zero] at hTurn
    rw [run_of_step hTurn, ih]

/-! ## What is below stays there -/

/-- A state in which a token is read on top of the literals of a stack. -/
structure Orderly (frames : Frames) (s : State) : Prop where
  limit : s.frames.limit = frames.limit
  items : ∃ opened, s.frames.items = opened ++ frames.items ∧ Nested opened

variable {frames : Frames}

/-- Where more is open than before, the innermost literal belongs to the token. -/
theorem Orderly.exists_top (h : Orderly frames s) (hDepth : frames.depth < s.frames.depth) :
    ∃ context outer, s.frames.items = context :: (outer ++ frames.items) ∧
      Nested (context :: outer) := by
  obtain ⟨opened, hItems, hNested⟩ := h.items
  cases opened with
  | nil =>
    rw [Frames.depth, Frames.depth, hItems] at hDepth
    exact absurd hDepth (Nat.lt_irrefl _)
  | cons context outer => exact ⟨context, outer, hItems, hNested⟩

/-- The limit stays what it is. -/
theorem Change.limit_eq (h : Change start s t) : t.frames.limit = s.frames.limit := by
  have hSet : ∀ context, (s.frames.setTop context).limit = s.frames.limit := by
    intro context
    unfold Frames.setTop
    split <;> rfl
  cases h with
  | nothing | breaks | closes => rfl
  | enters => exact hSet _
  | counts braces => exact hSet _
  | opens context =>
    unfold State.openLiteral
    split
    · rename_i hPush
      unfold Frames.push? at hPush
      split at hPush
      · rw [← Option.some.inj hPush]
      · cases hPush
    · rfl

/-- A turn moves the literals of the token. -/
theorem Orderly.exists_restacks (h : Orderly frames s)
    (hTurn : turn form start frames.depth s = some t) :
    ∃ context outer opened c cs, s.rest = c :: cs ∧
      s.frames.items = context :: (outer ++ frames.items) ∧ Nested (context :: outer) ∧
      t.frames.items = opened ++ frames.items ∧ Restacks c cs.head? (context :: outer) opened := by
  obtain ⟨hDepth, hCases⟩ := turn_cases hTurn
  obtain ⟨context, outer, hItems, hNested⟩ := h.exists_top hDepth
  have hTop : s.frames.top? = some context := top?_eq hItems
  rcases hCases with ⟨hBreaks, f, rfl⟩ | ⟨-, hStep⟩
  · obtain ⟨quote, cs, -, hRest⟩ := exists_of_breaksOff hBreaks
    have hClosed : (s.close.note f).frames.items = outer ++ frames.items := items_close hItems
    exact ⟨context, outer, outer, '\n', cs, hRest, hItems, hNested, hClosed, .closes _ _⟩
  · cases hRest : s.rest with
    | nil =>
      -- At the end of the text there is no step.
      simp [step, hTop, hRest] at hStep
    | cons c cs =>
      have hLiteral := hNested.literals context (List.mem_cons_self ..)
      obtain ⟨opened, hAbove, hRestacks⟩ := (restacks_step hItems hLiteral hRest hStep).above
      exact ⟨context, outer, opened, c, cs, rfl, hItems, hNested, hAbove, hRestacks⟩

/-- A turn keeps the stack in order. -/
theorem Orderly.turn (h : Orderly frames s) (hTurn : turn form start frames.depth s = some t) :
    Orderly frames t := by
  obtain ⟨context, outer, opened, c, cs, -, -, hNested, hItems, hRestacks⟩ :=
    h.exists_restacks hTurn
  refine ⟨?_, opened, hItems, hNested.restacks hRestacks⟩
  obtain ⟨-, ⟨-, f, rfl⟩ | ⟨-, hStep⟩⟩ := turn_cases hTurn
  · exact h.limit
  · obtain ⟨u, hChange, hFrames⟩ := exists_change_frames hStep
    rw [hFrames, hChange.limit_eq, h.limit]

/-- A whole run keeps the stack in order. -/
theorem Orderly.runOn (h : Orderly frames s) :
    Orderly frames (runOn form start frames.depth s) := by
  fun_induction Literal.runOn form start frames.depth s with
  | case1 s hTurn => exact h
  | case2 s t hTurn ih => exact ih (h.turn hTurn)

/-- A literal that was opened on a stack. -/
theorem orderly_push {context : Context} {opened : Frames}
    (hPush : frames.push? context = some opened) (hLiteral : context.isLiteral = true)
    (passed rest : List Char) : Orderly frames { frames := opened, passed, rest } := by
  unfold Frames.push? at hPush
  split at hPush
  · obtain rfl := Option.some.inj hPush
    refine ⟨rfl, [context], rfl, ?_, ?_⟩
    · intro other hOther
      obtain rfl := List.mem_singleton.mp hOther
      exact hLiteral
    · intro other hOther
      cases hOther
  · cases hPush

/-- The states in which a token is read on a stack. -/
inductive Reached (form : Escape.Form) (frames : Frames) (start : Nat) : State → Prop
  | string {quote : Char} {opened : Frames} (rest : List Char) :
      frames.push? (.string quote) = some opened →
      Reached form frames start { frames := opened, passed := [quote], rest }
  | template {opened : Frames} (rest : List Char) :
      frames.push? (.template 0) = some opened →
      Reached form frames start { frames := opened, passed := ['`'], rest }
  | next {s t : State} : Reached form frames start s →
      turn form start frames.depth s = some t → Reached form frames start t

/-- Every state that reading passes through has its stack in order. -/
theorem Reached.orderly (h : Reached form frames start s) : Orderly frames s := by
  induction h with
  | string rest hPush => exact orderly_push hPush rfl _ rest
  | template rest hPush => exact orderly_push hPush rfl _ rest
  | next _ hTurn ih => exact ih.turn hTurn

/-- With a stack of their own tokens are read through such states. -/
theorem reached_of_visits {limit : Nat} (h : Visits form limit start s) :
    Reached form { limit } start s := by
  induction h with
  | string rest hPush => exact .string rest hPush
  | template rest hPush => exact .template rest hPush
  | next _ hStep ih => exact ih.next ((turn_zero ..).trans hStep)

/-! ## The loop ends -/

/-- How many turns there may still be: two for each character, and one where a string is broken
off before the line end is taken. -/
def potential (base : Nat) (s : State) : Nat :=
  2 * s.rest.length + if base < s.frames.depth ∧ s.breaksOff = true then 1 else 0

/-- A template is not broken off. -/
theorem breaksOff_of_interpolates {context : Context} (hTop : s.frames.top? = some context)
    (h : context.interpolates = true) : s.breaksOff = false := by
  cases hBreaks : s.breaksOff with
  | false => rfl
  | true =>
    obtain ⟨quote, cs, hString, -⟩ := exists_of_breaksOff hBreaks
    rw [hTop] at hString
    rw [Option.some.inj hString] at h
    cases h

/-- Where a string of the token is broken off, the interpolation around it goes on, if there is
one. -/
theorem Orderly.breaksOff_close (h : Orderly frames s) (hDepth : frames.depth < s.frames.depth)
    (hOpen : frames.depth < s.close.frames.depth) (f : Finding) :
    (s.close.note f).breaksOff = false := by
  obtain ⟨context, outer, hItems, hNested⟩ := h.exists_top hDepth
  have hClosed : s.close.frames.items = outer ++ frames.items := items_close hItems
  cases outer with
  | nil =>
    rw [Frames.depth, Frames.depth, hClosed] at hOpen
    exact absurd hOpen (Nat.lt_irrefl _)
  | cons around outer =>
    have hTop : (s.close.note f).frames.top? = some around := by
      show s.close.frames.items.head? = some around
      rw [hClosed]
      rfl
    exact breaksOff_of_interpolates hTop (hNested.enclosing around (List.mem_cons_self ..))

/-- A turn that breaks nothing off takes something. -/
theorem Orderly.length_turn (h : Orderly frames s)
    (hTurn : Literal.turn form start frames.depth s = some t) (hGoes : s.breaksOff = false) :
    t.rest.length < s.rest.length := by
  obtain ⟨hDepth, ⟨hBreaks, -⟩ | ⟨-, hStep⟩⟩ := turn_cases hTurn
  · rw [hGoes] at hBreaks
    cases hBreaks
  obtain ⟨context, outer, hItems, hNested⟩ := h.exists_top hDepth
  have hTop : s.frames.top? = some context := top?_eq hItems
  rcases consumes_or_closes hStep with hLess | ⟨-, -, other, c, cs, hOther, hRest, hBroken⟩
  · exact hLess
  · -- Otherwise it would be a string before a line end.
    obtain rfl : context = other := Option.some.inj (hTop.symm.trans hOther)
    obtain ⟨⟨quote, rfl⟩, rfl⟩ := hBroken (hNested.literals _ (List.mem_cons_self ..))
    rw [State.breaksOff, hTop, hRest] at hGoes
    cases hGoes

/-- **Every turn brings the end nearer.** -/
theorem Orderly.potential_lt (h : Orderly frames s)
    (hTurn : Literal.turn form start frames.depth s = some t) :
    potential frames.depth t < potential frames.depth s := by
  obtain ⟨hDepth, hCases⟩ := turn_cases hTurn
  cases hBreaks : s.breaksOff with
  | true =>
    -- Nothing is taken, but in the next turn nothing can be broken off.
    obtain ⟨-, f, rfl⟩ | ⟨hGoes, -⟩ := hCases
    · have hRest : (s.close.note f).rest = s.rest := rfl
      have hOnce : ¬ (frames.depth < (s.close.note f).frames.depth ∧
          (s.close.note f).breaksOff = true) := by
        rintro ⟨hOpen, hAgain⟩
        rw [h.breaksOff_close hDepth hOpen f] at hAgain
        cases hAgain
      rw [potential, potential, hRest, if_neg hOnce, if_pos ⟨hDepth, hBreaks⟩]
      omega
    · rw [hBreaks] at hGoes
      cases hGoes
  | false =>
    -- A character is worth two turns, so that one may be left to break something off.
    have hLess := h.length_turn hTurn hBreaks
    have hAtMost : (if frames.depth < t.frames.depth ∧ t.breaksOff = true then 1 else 0) ≤ 1 := by
      split <;> omega
    rw [potential, potential]
    omega

/-- A number of turns that lead from one state to another. -/
inductive Turns (form : Escape.Form) (start base : Nat) : Nat → State → State → Prop
  | none (s : State) : Turns form start base 0 s s
  | more {count : Nat} {s t u : State} : turn form start base s = some t →
      Turns form start base count t u → Turns form start base (count + 1) s u

/-- There are at most two turns for each character, and one more. -/
theorem Turns.count_le {count : Nat} (h : Turns form start frames.depth count s t)
    (hOrderly : Orderly frames s) : count ≤ 2 * s.rest.length + 1 := by
  -- Each turn takes at least one from the potential.
  suffices hPotential : count + potential frames.depth t ≤ potential frames.depth s by
    have hAtMost : potential frames.depth s ≤ 2 * s.rest.length + 1 := by
      unfold potential
      split <;> omega
    omega
  induction h with
  | none s => omega
  | more hTurn _ ih =>
    have hLess := hOrderly.potential_lt hTurn
    have hMore := ih (hOrderly.turn hTurn)
    omega

/-- Reading stops after a number of turns. -/
theorem exists_turns_runOn (form : Escape.Form) (start base : Nat) (s : State) :
    ∃ count, Turns form start base count s (runOn form start base s) ∧
      turn form start base (runOn form start base s) = none := by
  fun_induction runOn form start base s with
  | case1 s hTurn => exact ⟨0, .none s, hTurn⟩
  | case2 s t hTurn ih =>
    obtain ⟨count, hTurns, hStuck⟩ := ih
    exact ⟨count + 1, .more hTurn hTurns, hStuck⟩

/-! ## What a turn does -/

/-- What a turn from `s` to `t` does to the literals of a token. -/
structure Regular (form : Escape.Form) (start base : Nat) (s t : State) : Prop where
  /-- The innermost literal is a string or a template. -/
  literal : ∃ context c cs, s.frames.top? = some context ∧ context.isLiteral = true ∧
    s.rest = c :: cs
  /-- Braces are counted without a remainder. -/
  balanced : ∀ {braces braces' c cs}, s.frames.top? = some (.template braces) → s.rest = c :: cs →
    t.frames.top? = some (.template braces') → t.frames.depth = s.frames.depth →
      (braces' : Int) = braces + braceChange braces c cs.head?
  /-- A turn that takes nothing is followed by one that does, unless the token ends. -/
  resumes : s.rest.length ≤ t.rest.length → base < t.frames.depth →
    t.rest = s.rest ∧ ∃ u, turn form start base t = some u ∧ u.rest.length < t.rest.length

/-- Between two turns in a template the braces change by what the character says. -/
theorem Orderly.balanced (h : Orderly frames s)
    (hTurn : Literal.turn form start frames.depth s = some t) {braces braces' : Nat} {c : Char}
    {cs : List Char} (hTop : s.frames.top? = some (.template braces)) (hRest : s.rest = c :: cs)
    (hTop' : t.frames.top? = some (.template braces')) (hDepth : t.frames.depth = s.frames.depth) :
    (braces' : Int) = braces + braceChange braces c cs.head? := by
  obtain ⟨context, outer, opened, c', cs', hText, hItems, -, hItems', hRestacks⟩ :=
    h.exists_restacks hTurn
  obtain ⟨rfl, rfl⟩ := List.cons.inj (hText.symm.trans hRest)
  rw [Frames.top?, hItems] at hTop
  obtain rfl : context = .template braces := Option.some.inj hTop
  rw [Frames.top?, hItems'] at hTop'
  rw [Frames.depth, Frames.depth, hItems, hItems', List.length_cons, List.length_append,
    List.length_append] at hDepth
  -- As many literals are open as before, so the braces of this one were counted.
  cases hRestacks with
  | closes => omega
  | counts _ hSum =>
    obtain rfl : _ = braces' := Context.template.inj (Option.some.inj hTop')
    exact hSum
  | opens =>
    rw [List.length_cons, List.length_cons] at hDepth
    omega

/-- Where a turn takes nothing, a string was broken off, and what is around it goes on. -/
theorem Orderly.resumes (h : Orderly frames s)
    (hTurn : Literal.turn form start frames.depth s = some t)
    (hNothing : s.rest.length ≤ t.rest.length) (hOpen : frames.depth < t.frames.depth) :
    t.rest = s.rest ∧
      ∃ u, Literal.turn form start frames.depth t = some u ∧ u.rest.length < t.rest.length := by
  obtain ⟨hDepth, ⟨hBreaks, f, rfl⟩ | ⟨hGoes, -⟩⟩ := turn_cases hTurn
  · obtain ⟨quote, cs, -, hRest⟩ := exists_of_breaksOff hBreaks
    refine ⟨rfl, ?_⟩
    cases hNext : Literal.turn form start frames.depth (s.close.note f) with
    | none =>
      rcases turn_eq_none_iff.mp hNext with hClosed | hEnd
      · exact absurd hOpen (Nat.not_lt_of_le hClosed)
      · rw [show (s.close.note f).rest = s.rest from rfl, hRest] at hEnd
        cases hEnd
    | some u =>
      have hGoes := h.breaksOff_close hDepth hOpen f
      exact ⟨u, rfl, (h.turn hTurn).length_turn hNext hGoes⟩
  · have hLess := h.length_turn hTurn hGoes
    omega

/-- **Every turn on the way is regular.** -/
theorem Orderly.regular (h : Orderly frames s)
    (hTurn : Literal.turn form start frames.depth s = some t) :
    Regular form start frames.depth s t := by
  refine ⟨?_, h.balanced hTurn, h.resumes hTurn⟩
  obtain ⟨context, outer, opened, c, cs, hRest, hItems, hNested, -, -⟩ := h.exists_restacks hTurn
  have hTop : s.frames.top? = some context := top?_eq hItems
  exact ⟨context, c, cs, hTop, hNested.literals _ (List.mem_cons_self ..), hRest⟩

/-! ## Whole tokens on a stack -/

/-- The stack after the loop: as it is where the token was closed or broken off. At the end of
the text what is open of the token is given up. -/
def settle (base : Nat) (frames : Frames) : Frames :=
  if frames.depth ≤ base then frames else frames.unwindTo base

/-- **What is left behind is the stack from before.** -/
theorem Orderly.settle_eq (h : Orderly frames s) : settle frames.depth s.frames = frames := by
  obtain ⟨opened, hItems, -⟩ := h.items
  have hFrames : s.frames = ⟨frames.limit, opened ++ frames.items⟩ := by
    rw [← h.limit, ← hItems]
  rw [hFrames, settle]
  simp only [Frames.depth, Frames.unwindTo, List.length_append]
  split
  · -- Nothing of the token is left open.
    rename_i hDepth
    have hNone : opened = [] := by
      rw [← List.length_eq_zero_iff]
      omega
    rw [hNone, List.nil_append]
  · rw [Nat.add_sub_cancel, List.drop_left]

/-- The findings for a token that the input end leaves open: how many of its literals were open,
if more than one, and the outermost of them as malformed. -/
def findingsAtEndOn (start base : Nat) (frames : Frames) : List Finding :=
  match frames.frame? base with
  | none => []
  | some outermost =>
    let removed := frames.depth - base
    let unwound := if removed > 1 then [Finding.unwound removed] else []
    let what := match outermost with
      | .string _ => Malformed.stringAtEnd
      | _ => Malformed.templateAtEnd
    unwound ++ [.malformed what start]

/-- Reads a string on a stack, and says what the stack is then. -/
def readStringOn (form : Escape.Form) (frames : Frames) (start : Nat) (quote : Char)
    (cs : List Char) : Reading × Frames :=
  match frames.push? (.string quote) with
  | some opened =>
    let s := runOn form start frames.depth { frames := opened, passed := [quote], rest := cs }
    ({ context := .string quote
       text := s.passed.reverse
       rest := s.rest
       findings := s.findings.reverse ++ findingsAtEndOn start frames.depth s.frames },
      settle frames.depth s.frames)
  | none =>
    let (closed, passed, rest) := splitFlat form quote [quote] cs
    let broken := if closed then [] else [Finding.malformed .string start]
    ({ context := .string quote
       text := passed.reverse
       rest
       findings := .depthExceeded frames.limit start :: broken }, frames)

/-- Reads a template on a stack, and says what the stack is then. -/
def readTemplateOn (form : Escape.Form) (frames : Frames) (start : Nat) (cs : List Char) :
    Reading × Frames :=
  match frames.push? (.template 0) with
  | some opened =>
    let s := runOn form start frames.depth { frames := opened, passed := ['`'], rest := cs }
    ({ context := .template s.nesting
       text := s.passed.reverse
       rest := s.rest
       findings := s.findings.reverse ++ findingsAtEndOn start frames.depth s.frames },
      settle frames.depth s.frames)
  | none =>
    ({ context := .template 0
       text := '`' :: cs
       rest := []
       findings := [.depthExceeded frames.limit start] }, frames)

variable (form) (frames) (start)

/-- A string gives the stack back as it was. -/
theorem frames_readStringOn (quote : Char) (cs : List Char) :
    (readStringOn form frames start quote cs).2 = frames := by
  unfold readStringOn
  split
  · rename_i opened hPush
    exact (orderly_push hPush rfl [quote] cs).runOn.settle_eq
  · rfl

/-- A template gives the stack back as it was. -/
theorem frames_readTemplateOn (cs : List Char) :
    (readTemplateOn form frames start cs).2 = frames := by
  unfold readTemplateOn
  split
  · rename_i opened hPush
    exact (orderly_push hPush rfl ['`'] cs).runOn.settle_eq
  · rfl

/-- On an empty stack a string is read as with a stack of its own. -/
theorem readStringOn_empty (limit : Nat) (quote : Char) (cs : List Char) :
    (readStringOn form { limit } start quote cs).1 = readString form limit start quote cs := by
  have hBase : ({ limit } : Frames).depth = 0 := rfl
  unfold readStringOn readString
  cases hPush : Frames.push? { limit } (.string quote) with
  | some opened =>
    simp only [hBase, runOn_zero]
    rfl
  | none => rfl

/-- On an empty stack a template is read as on a stack of its own. -/
theorem readTemplateOn_empty (limit : Nat) (cs : List Char) :
    (readTemplateOn form { limit } start cs).1 = readTemplate form limit start cs := by
  have hBase : ({ limit } : Frames).depth = 0 := rfl
  unfold readTemplateOn readTemplate
  cases hPush : Frames.push? { limit } (.template 0) with
  | some opened =>
    simp only [hBase, runOn_zero]
    rfl
  | none => rfl

end Literal

/-! ## Whole texts on a stack -/

namespace Scan

/-- Reads a token on a stack; only strings and templates use it. -/
def readTokenOn (form : Escape.Form) (o : Options) (frames : Frames) (before : List Char)
    (offset : Nat) (c : Char) (cs : List Char) : Reading × Frames :=
  if c = '\'' ∨ c = '"' then Literal.readStringOn form frames offset c cs
  else if c = '`' then Literal.readTemplateOn form frames offset cs
  else (readToken form o before offset c cs, frames)

/-- Every token is read on the stack as without it, and the stack is given back empty. -/
theorem readTokenOn_eq (form : Escape.Form) (o : Options) (before : List Char) (offset : Nat)
    (c : Char) (cs : List Char) :
    readTokenOn form o { limit := o.maxDepth } before offset c cs =
      (readToken form o before offset c cs, { limit := o.maxDepth }) := by
  simp only [readTokenOn]
  by_cases hQuote : c = '\'' ∨ c = '"'
  · rw [if_pos hQuote]
    refine Prod.ext ?_ (Literal.frames_readStringOn ..)
    rw [Literal.readStringOn_empty, readToken, if_pos hQuote]
  by_cases hTick : c = '`'
  · rw [if_neg hQuote, if_pos hTick]
    refine Prod.ext ?_ (Literal.frames_readTemplateOn ..)
    rw [Literal.readTemplateOn_empty, readToken, if_neg hQuote, if_pos hTick]
  · rw [if_neg hQuote, if_neg hTick]

/-- Reads at most `budget` more tokens, all on one stack, and says what is left open on it. -/
def loopOn (form : Escape.Form) (o : Options) (ceiling : Nat) :
    (budget : Nat) → Frames → State → Result × Frames
  | budget, frames, s =>
    match s.rest with
    | [] => (s.result, frames)
    | c :: cs =>
      match budget with
      | 0 => ({ s with findings := .ceilingReached ceiling s.offset :: s.findings }.result, frames)
      | budget + 1 =>
        let (r, frames) := readTokenOn form o frames s.before s.offset c cs
        let r := atLeastOne s.offset c r
        match stripStart? r.text (c :: cs) with
        | some rest => loopOn form o ceiling budget frames (s.take { r with rest })
        | none => (s.giveUp r, frames.unwindTo 0)

/-- **One stack for all tokens is as good as one for each.** -/
theorem loopOn_eq (form : Escape.Form) (o : Options) (ceiling budget : Nat) (s : State) :
    loopOn form o ceiling budget { limit := o.maxDepth } s =
      (loop form o ceiling budget s, { limit := o.maxDepth }) := by
  -- Each token is given an empty stack and gives an empty stack back.
  induction budget generalizing s with
  | zero =>
    rw [loopOn, loop]
    cases hRest : s.rest with
    | nil => rfl
    | cons c cs => rfl
  | succ budget ih =>
    rw [loopOn, loop]
    cases hRest : s.rest with
    | nil => rfl
    | cons c cs =>
      simp only [readTokenOn_eq]
      cases hStrip : stripStart? (atLeastOne s.offset c
          (readToken form o s.before s.offset c cs)).text (c :: cs) with
      | some rest => exact ih _
      | none => rfl

end Scan

namespace Tokenizer

/-- Splits a text like `tokenize`, with one stack for all texts. It is emptied at the beginning,
and what the tokens leave on it is a reason for a warning. -/
def tokenizeOn (t : Tokenizer) (frames : Frames) (content : List Char) :
    List Token × Tokenizer × Frames :=
  let ceiling := t.options.ceiling (byteLength content)
  let (result, left) :=
    Scan.loopOn .extended t.options ceiling ceiling (frames.unwindTo 0) { rest := content }
  let t := result.findings.foldl (note · content) { t with lines := {} }
  let t :=
    if left.depth = 0 then t
    else t.warn ("Context stack unwound by " ++ toString left.depth ++ " frame(s)")
  let violations := Coverage.violations result.tokens (byteLength content)
  (result.tokens, violations.foldl noteViolation t, left.unwindTo 0)

/-- Whatever earlier texts have left on the stack, nothing is left by this one. -/
theorem tokenizeOn_eq (t : Tokenizer) (items : List Context) (content : List Char) :
    t.tokenizeOn ⟨t.options.maxDepth, items⟩ content =
      ((t.tokenize content).1, (t.tokenize content).2, { limit := t.options.maxDepth }) := by
  have hEmpty : (⟨t.options.maxDepth, items⟩ : Frames).unwindTo 0 =
      { limit := t.options.maxDepth } := by
    rw [Frames.unwindTo, Nat.sub_zero]
    exact congrArg (Frames.mk _) List.drop_length
  simp only [tokenizeOn, hEmpty, Scan.loopOn_eq]
  rfl

/-- **A token gives the stack back as it was.** Whatever is on the stack when a string or a
template is read: what it opens are strings and templates, each in an interpolation of the one
around it; every turn is regular, so that braces are counted without a remainder, and a turn that
takes nothing is followed by one that does; after at most two turns for each character, and one
more, reading stops, and the stack is the one from before. So with one stack for all tokens it is
empty after each of them, and no text ends with literals to be closed and a warning about them. -/
theorem literals_give_back_the_stack (form : Escape.Form) (frames : Frames) (start : Nat) :
    (∀ s, Literal.Reached form frames start s →
      (∃ opened, s.frames.items = opened ++ frames.items ∧ Literal.Nested opened ∧
        ∀ (i : Nat) quote, opened[i]? = some (.string quote) →
          i + 1 = opened.length ∨ ∃ braces, opened[i + 1]? = some (.template (braces + 1))) ∧
      (∀ t, Literal.turn form start frames.depth s = some t →
        Literal.Regular form start frames.depth s t) ∧
      (∀ count t, Literal.Turns form start frames.depth count s t →
        count ≤ 2 * s.rest.length + 1) ∧
      (∃ count, Literal.Turns form start frames.depth count s
          (Literal.runOn form start frames.depth s) ∧
        Literal.turn form start frames.depth (Literal.runOn form start frames.depth s) = none) ∧
      Literal.settle frames.depth (Literal.runOn form start frames.depth s).frames = frames) ∧
    (∀ limit s, Literal.Visits form limit start s → Literal.Reached form { limit } start s) ∧
    (∀ quote cs, (Literal.readStringOn form frames start quote cs).2 = frames) ∧
    (∀ cs, (Literal.readTemplateOn form frames start cs).2 = frames) ∧
    (∀ (o : Options) ceiling budget (s : Scan.State),
      Scan.loopOn form o ceiling budget { limit := o.maxDepth } s =
        (Scan.loop form o ceiling budget s, { limit := o.maxDepth })) ∧
    ∀ (t : Tokenizer) items content,
      t.tokenizeOn ⟨t.options.maxDepth, items⟩ content =
        ((t.tokenize content).1, (t.tokenize content).2, { limit := t.options.maxDepth }) := by
  refine ⟨?_, fun limit s hVisits => Literal.reached_of_visits hVisits,
    Literal.frames_readStringOn form start frames, Literal.frames_readTemplateOn form start frames,
    Scan.loopOn_eq form, tokenizeOn_eq⟩
  -- All that is said about a state follows from its stack being in order.
  intro s hReached
  have hOrderly := hReached.orderly
  obtain ⟨opened, hItems, hNested⟩ := hOrderly.items
  have hAround : ∀ (i : Nat) quote, opened[i]? = some (.string quote) →
      i + 1 = opened.length ∨ ∃ braces, opened[i + 1]? = some (.template (braces + 1)) :=
    fun i quote hString => hNested.around_string hString
  refine ⟨⟨opened, hItems, hNested, hAround⟩, ?_, ?_, ?_, ?_⟩
  · intro t hTurn
    exact hOrderly.regular hTurn
  · intro count t hTurns
    exact hTurns.count_le hOrderly
  · exact Literal.exists_turns_runOn form start frames.depth s
  · exact hOrderly.runOn.settle_eq

/-- A string that is broken off in the interpolation of a template, inside of another one: the
line end is not taken with the string but in the next turn, by the interpolation. -/
theorem literals_give_back_the_stack_broken :
    ∃ s t, Literal.Reached .extended ⟨8, [.template 1]⟩ 0 s ∧
      s.frames.items = [.string '\'', .template 1, .template 1] ∧ s.rest = ['\n', 'x'] ∧
      Literal.turn .extended 0 1 s = some t ∧ t.rest = s.rest ∧
      ∃ u, Literal.turn .extended 0 1 t = some u ∧ u.rest.length < t.rest.length := by
  have hPush : Frames.push? ⟨8, [.template 1]⟩ (.template 0) =
      some ⟨8, [.template 0, .template 1]⟩ := by decide
  have hOpened : Literal.Reached .extended ⟨8, [.template 1]⟩ 0
      { frames := ⟨8, [.template 0, .template 1]⟩, passed := ['`']
        rest := ['$', '{', '\'', '\n', 'x'] } :=
    .template _ hPush
  have hEntered := hOpened.next rfl
  have hReached := hEntered.next rfl
  refine ⟨_, _, hReached, rfl, rfl, rfl, ?_⟩
  have hFacts := (literals_give_back_the_stack .extended ⟨8, [.template 1]⟩ 0).1 _ hReached
  exact (hFacts.2.1 _ rfl).resumes (by decide) (by decide)

end Tokenizer

end CommentSieve
