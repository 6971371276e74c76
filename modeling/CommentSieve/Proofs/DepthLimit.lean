import CommentSieve.Proofs.Reports

/-!
# The limit on open literals

Only so many literals may be open at once. A literal that the limit does not let open is read as
something else: as plain text inside of an interpolation, as a flat string or as all that is left
where it is a token of its own. Whenever that happens it is found, and what is found is
recorded. So a text that was read without such an error was read as if there were no limit: under
a higher one every step is the same, up to the limit itself, and with the steps the
literals, the tokens and what is recorded about them.

The comparison goes from the error backwards. That no error was recorded tells about all findings
at the end of a reading, and findings are never taken back, so that it holds for every step. A
text that is read under a ceiling need not be read to its end; what comes after the ceiling may
well be read in another way.

Main results:

* `Literal.run_withLimit` — a literal whose reading meets no limit is read alike under a higher
  one.
* `Scan.scanWith_deeper` — so is a text.
* `Literal.Visits.depth_le` — no state on the way has more open literals than the limit.
* `Literal.endsVisited_readString`, `Literal.endsVisited_readTemplate` — these are the states
  that literals are read through.
* `Tokenizer.limit_matters_if_reported` — the limit matters only where an error says so.
-/

namespace CommentSieve

open Text

/-- Whether a literal was not opened because of the limit. -/
def Finding.isDepthLimit : Finding → Bool
  | depthExceeded .. => true
  | brokenNested _ | unwound _ | malformed .. | ceilingReached .. | stalled _ | offBoundary .. =>
    false

/-- The same open literals under another limit. -/
def Frames.withLimit (f : Frames) (limit : Nat) : Frames := { f with limit }

theorem Frames.setTop_withLimit (f : Frames) (limit : Nat) (context : Context) :
    (f.withLimit limit).setTop context = (f.setTop context).withLimit limit := by
  obtain ⟨_, _ | ⟨top, outer⟩⟩ := f <;> rfl

namespace Literal

/-! ## No more open literals than the limit admits -/

/-- A step of either form changes the open literals in one of the ways listed, and then takes
characters. -/
theorem exists_change_frames {form : Escape.Form} {start : Nat} {s t : State}
    (hStep : step form start s = some t) : ∃ u, Change start s u ∧ t.frames = u.frames := by
  unfold step at hStep
  split at hStep
  · cases hStep
  · cases hStep
  · rw [← Option.some.inj hStep]
    unfold stepString
    -- An escape, the end of a line in an outer and in an inner string, the quote, the rest.
    repeat' split
    · exact ⟨s, .nothing, State.frames_skipEscape form s⟩
    · exact ⟨_, .breaks _, rfl⟩
    · exact ⟨_, .breaks _, rfl⟩
    · exact ⟨_, .closes, State.frames_advance _⟩
    · exact ⟨s, .nothing, State.frames_advance s⟩
  · rw [← Option.some.inj hStep]
    unfold stepTemplate
    -- An escape, the back-tick, the start of an interpolation, any other character.
    repeat' split
    · exact ⟨s, .nothing, State.frames_skipEscape form s⟩
    · exact ⟨_, .closes, State.frames_advance _⟩
    · exact ⟨_, .enters, (State.frames_advance _).trans (State.frames_advance _)⟩
    · exact ⟨s, .nothing, State.frames_advance s⟩
  · rw [← Option.some.inj hStep]
    unfold stepInterpolation
    -- The two braces, the two openings of literals, any other character.
    repeat' split
    · exact ⟨_, .counts _, State.frames_advance _⟩
    · exact ⟨_, .counts _, State.frames_advance _⟩
    · exact ⟨_, .opens _, State.frames_advance _⟩
    · exact ⟨_, .opens _, State.frames_advance _⟩
    · exact ⟨s, .nothing, State.frames_advance s⟩
  all_goals
    rw [← Option.some.inj hStep]
    exact ⟨_, .closes, rfl⟩

/-- The limit stays what it is, and the open literals stay within it. -/
theorem within_step {form : Escape.Form} {start limit : Nat} {s t : State}
    (hStep : step form start s = some t) (h : s.Within limit) : t.Within limit := by
  obtain ⟨u, hChange, hFrames⟩ := exists_change_frames hStep
  -- Taking characters leaves the open literals as they are.
  rw [State.Within, hFrames]
  exact hChange.within h

/-- The states in which literals are read: a literal is opened where none is open, with its
quote or back-tick passed, and then it is read step by step. -/
inductive Visits (form : Escape.Form) (limit start : Nat) : State → Prop
  | string {quote : Char} {frames : Frames} (rest : List Char) :
      Frames.push? { limit } (.string quote) = some frames →
      Visits form limit start { frames, passed := [quote], rest }
  | template {frames : Frames} (rest : List Char) :
      Frames.push? { limit } (.template 0) = some frames →
      Visits form limit start { frames, passed := ['`'], rest }
  | next {s t : State} : Visits form limit start s → step form start s = some t →
      Visits form limit start t

/-- The state in which reading stops is one of them. -/
theorem Visits.run {form : Escape.Form} {limit start : Nat} {s : State}
    (h : Visits form limit start s) : Visits form limit start (run form start s) := by
  fun_induction Literal.run form start s with
  | case1 s hStep => exact h
  | case2 s t hStep ih => exact ih (.next h hStep)

/-- A literal that was read is what was passed up to one of these states, and what is left of
the text is left there. -/
def EndsVisited (form : Escape.Form) (limit start : Nat) (r : Reading) : Prop :=
  ∃ last, Visits form limit start last ∧ r.text = last.passed.reverse ∧ r.rest = last.rest

/-- Where there is room for a string it is read through these states. -/
theorem endsVisited_readString (form : Escape.Form) {limit : Nat} (start : Nat) (quote : Char)
    (cs : List Char) (hLimit : 1 ≤ limit) :
    EndsVisited form limit start (readString form limit start quote cs) := by
  have hPush : Frames.push? { limit } (.string quote) = some ⟨limit, [.string quote]⟩ :=
    if_pos hLimit
  refine ⟨_, (Visits.string cs hPush).run, ?_⟩
  rw [readString, hPush]
  exact ⟨rfl, rfl⟩

/-- So is a template. -/
theorem endsVisited_readTemplate (form : Escape.Form) {limit : Nat} (start : Nat)
    (cs : List Char) (hLimit : 1 ≤ limit) :
    EndsVisited form limit start (readTemplate form limit start cs) := by
  have hPush : Frames.push? { limit } (.template 0) = some ⟨limit, [.template 0]⟩ := if_pos hLimit
  refine ⟨_, (Visits.template cs hPush).run, ?_⟩
  rw [readTemplate, hPush]
  exact ⟨rfl, rfl⟩

/-- The limit that a literal was opened under holds in every state on the way. -/
theorem Visits.within {form : Escape.Form} {limit start : Nat} {s : State}
    (h : Visits form limit start s) : s.Within limit := by
  have hOpened : ∀ {context : Context} {frames : Frames},
      Frames.push? { limit } context = some frames →
        frames.limit = limit ∧ frames.depth ≤ limit := by
    intro context frames hPush
    have hDepth := Frames.depth_le_of_push? hPush
    obtain rfl := frames_of_push? hPush
    exact ⟨rfl, hDepth⟩
  induction h with
  | string rest hPush => exact hOpened hPush
  | template rest hPush => exact hOpened hPush
  | next _ hStep ih => exact within_step hStep ih

/-- **No state on the way has more open literals than the limit admits.** -/
theorem Visits.depth_le {form : Escape.Form} {limit start : Nat} {s : State}
    (h : Visits form limit start s) : s.frames.depth ≤ limit :=
  h.within.2

/-! ## A higher limit -/

namespace State

/-- The same state under another limit. -/
def withLimit (s : State) (limit : Nat) : State := { s with frames := s.frames.withLimit limit }

/-- Nothing was found to be past the limit. -/
def Unlimited (s : State) : Prop := ∀ f ∈ s.findings, f.isDepthLimit = false

variable {s : State} {limit : Nat}

theorem withLimit_setBraces (braces : Nat) :
    (s.withLimit limit).setBraces braces = (s.setBraces braces).withLimit limit := by
  have hTop := s.frames.setTop_withLimit limit (.template braces)
  exact congrArg (fun frames => { s with frames }) hTop

theorem withLimit_enterInterpolation :
    (s.withLimit limit).enterInterpolation = s.enterInterpolation.withLimit limit := by
  have hTop := s.frames.setTop_withLimit limit (.template 1)
  exact congrArg (fun frames => { s with frames, nesting := max s.nesting frames.nesting }) hTop

/-- Where there is room for a literal there is room under a higher limit. -/
theorem withLimit_openLiteral (hLimit : s.frames.limit ≤ limit) {start : Nat} {context : Context}
    (hNone : (s.openLiteral start context).Unlimited) :
    (s.withLimit limit).openLiteral start context =
      (s.openLiteral start context).withLimit limit := by
  by_cases hRoom : s.frames.depth < s.frames.limit
  · have hOpens : s.frames.push? context =
        some { s.frames with items := context :: s.frames.items } := if_pos hRoom
    have hOpens' : (s.withLimit limit).frames.push? context =
        some ⟨limit, context :: s.frames.items⟩ := if_pos (Nat.lt_of_lt_of_le hRoom hLimit)
    rw [openLiteral, openLiteral, hOpens, hOpens']
    rfl
  · -- Otherwise there is a finding about it.
    have hFull : s.frames.push? context = none := if_neg hRoom
    rw [openLiteral, hFull] at hNone
    have hFound := hNone _ (List.mem_cons_self ..)
    cases hFound

end State

/-- A character does the same under a higher limit, as long as it meets none. -/
theorem action_withLimit {start : Nat} {s : State} {limit : Nat} (hLimit : s.frames.limit ≤ limit)
    {context : Context} {c : Char} {next : Option Char}
    (hNone : (action start s context c next).1.Unlimited) :
    action start (s.withLimit limit) context c next =
      ((action start s context c next).1.withLimit limit, (action start s context c next).2) := by
  have hDepth : (s.withLimit limit).frames.depth = s.frames.depth := rfl
  match context with
  | .string quote =>
    simp only [action, hDepth]
    repeat' split
    all_goals rfl
  | .template 0 =>
    simp only [action, State.withLimit_enterInterpolation]
    repeat' split
    all_goals rfl
  | .template (braces + 1) =>
    simp only [action, State.withLimit_setBraces] at hNone ⊢
    by_cases hOpen : c = '{'
    · simp only [if_pos hOpen]
    by_cases hClose : c = '}'
    · simp only [if_neg hOpen, if_pos hClose]
    -- Only a quote or a back-tick opens a literal.
    simp only [if_neg hOpen, if_neg hClose] at hNone ⊢
    by_cases hQuote : c = '\'' ∨ c = '"'
    · simp only [if_pos hQuote] at hNone ⊢
      rw [State.withLimit_openLiteral hLimit hNone]
    by_cases hTick : c = '`'
    · simp only [if_neg hQuote, if_pos hTick] at hNone ⊢
      rw [State.withLimit_openLiteral hLimit hNone]
    · simp only [if_neg hQuote, if_neg hTick]
  | .code | .regex | .comment => rfl

/-- One step under a higher limit. -/
theorem step_withLimit {start : Nat} {s t : State} {limit : Nat} (hLimit : s.frames.limit ≤ limit)
    (hStep : step .single start s = some t) (hNone : t.Unlimited) :
    step .single start (s.withLimit limit) = some (t.withLimit limit) := by
  obtain ⟨context, c, cs, hTop, hRest⟩ := exists_of_step hStep
  have hSame : (s.withLimit limit).frames.top? = some context := hTop
  have hText : (s.withLimit limit).rest = c :: cs := hRest
  rw [step_eq_action start hTop hRest] at hStep
  obtain rfl := Option.some.inj hStep
  -- Taking characters leaves the findings as they are.
  have hAction : (action start s context c cs.head?).1.Unlimited := hNone
  rw [step_eq_action start hSame hText, action_withLimit hLimit hAction]
  rfl

/-- **A literal whose reading meets no limit is read alike under a higher one.** -/
theorem run_withLimit {start limit deeper : Nat} {s : State} (hLimit : limit ≤ deeper)
    (hWithin : s.Within limit) (hNone : (run .single start s).Unlimited) :
    run .single start (s.withLimit deeper) = (run .single start s).withLimit deeper := by
  fun_induction run .single start s with
  | case1 s hStep =>
    have hEnd : s.frames.top? = none ∨ s.rest = [] := (step_eq_none_iff start).mp hStep
    have hStuck : step .single start (s.withLimit deeper) = none :=
      (step_eq_none_iff start).mpr hEnd
    rw [run_of_stuck hStuck]
  | case2 s t hStep ih =>
    -- What is found in this step is still there at the end.
    have hFirst : t.Unlimited := fun f hf =>
      hNone f ((suffix_findings_run start t).subset hf)
    rw [run_of_step (step_withLimit (hWithin.1.trans_le hLimit) hStep hFirst)]
    exact ih (within_step hStep hWithin) hNone

/-! ## Whole literals -/

theorem unlimited_of_allFindings {s : State} {start : Nat}
    (h : ∀ f ∈ s.allFindings start, f.isDepthLimit = false) : s.Unlimited := fun f hf =>
  h f (List.mem_append_left _ (List.mem_reverse.mpr hf))

theorem push?_zero (context : Context) : Frames.push? { limit := 0 } context = none := rfl

/-- A string that meets no limit is read alike under a higher one. -/
theorem readString_deeper {limit deeper start : Nat} (hLimit : limit ≤ deeper) {quote : Char}
    {cs : List Char}
    (hNone : ∀ f ∈ (readString .single limit start quote cs).findings, f.isDepthLimit = false) :
    readString .single deeper start quote cs = readString .single limit start quote cs := by
  rcases Nat.eq_zero_or_pos limit with rfl | hRoom
  · -- Without any room there is a finding about it.
    rw [readString, push?_zero] at hNone
    cases hNone _ (List.mem_cons_self ..)
  · rw [readString_eq start quote cs hRoom] at hNone ⊢
    have hWithin : (stringStart limit quote cs).Within limit := ⟨rfl, hRoom⟩
    have hRun : run .single start (stringStart deeper quote cs) =
        (run .single start (stringStart limit quote cs)).withLimit deeper :=
      run_withLimit hLimit hWithin (unlimited_of_allFindings hNone)
    rw [readString_eq start quote cs (hRoom.trans_le hLimit), hRun]
    rfl

/-- How a template is read, escapes taken one character at a time. -/
theorem readTemplate_single {limit : Nat} (start : Nat) (cs : List Char) (hLimit : 1 ≤ limit) :
    readTemplate .single limit start cs =
      { context := .template (run .single start (templateStart limit cs)).nesting
        text := (run .single start (templateStart limit cs)).passed.reverse
        rest := (run .single start (templateStart limit cs)).rest
        findings := (run .single start (templateStart limit cs)).allFindings start } := by
  rw [← readTemplate_extended, readTemplate_eq start cs hLimit,
    run_extended (sound_templateStart limit cs)]

/-- A template that meets no limit is read in the same way under a higher one. -/
theorem readTemplate_deeper {limit deeper start : Nat} (hLimit : limit ≤ deeper) {cs : List Char}
    (hNone : ∀ f ∈ (readTemplate .single limit start cs).findings, f.isDepthLimit = false) :
    readTemplate .single deeper start cs = readTemplate .single limit start cs := by
  rcases Nat.eq_zero_or_pos limit with rfl | hRoom
  · rw [readTemplate, push?_zero] at hNone
    cases hNone _ (List.mem_singleton_self _)
  · rw [readTemplate_single start cs hRoom] at hNone ⊢
    have hWithin : (templateStart limit cs).Within limit := ⟨rfl, hRoom⟩
    have hRun : run .single start (templateStart deeper cs) =
        (run .single start (templateStart limit cs)).withLimit deeper :=
      run_withLimit hLimit hWithin (unlimited_of_allFindings hNone)
    rw [readTemplate_single start cs (hRoom.trans_le hLimit), hRun]
    rfl

end Literal

/-! ## Texts -/

namespace Scan

/-- A token that meets no limit is read in the same way under a higher one. -/
theorem readToken_deeper {o : Options} {deeper : Nat} (hLimit : o.maxDepth ≤ deeper)
    {before : List Char} {offset : Nat} {c : Char} {cs : List Char}
    (hNone : ∀ f ∈ (readToken .single o before offset c cs).findings, f.isDepthLimit = false) :
    readToken .single { o with maxDepth := deeper } before offset c cs =
      readToken .single o before offset c cs := by
  simp only [readToken] at hNone ⊢
  by_cases hQuote : c = '\'' ∨ c = '"'
  · rw [if_pos hQuote] at hNone ⊢
    rw [if_pos hQuote]
    exact Literal.readString_deeper hLimit hNone
  by_cases hTick : c = '`'
  · rw [if_neg hQuote, if_pos hTick] at hNone ⊢
    rw [if_neg hQuote, if_pos hTick]
    exact Literal.readTemplate_deeper hLimit hNone
  · -- Nothing else asks about the limit.
    rw [if_neg hQuote, if_neg hTick, if_neg hQuote, if_neg hTick]

/-- The first pieces of a text are the same under a higher limit if none of them meets the lower
one, and if they are all pieces, they still are. -/
theorem take_pieces_deeper {o : Options} {deeper : Nat} (hLimit : o.maxDepth ≤ deeper)
    (count : Nat) (before : List Char) (offset : Nat) (cs : List Char)
    (hNone : ∀ f ∈ findingsOf ((pieces .single o before offset cs).take count),
      f.isDepthLimit = false) :
    (pieces .single { o with maxDepth := deeper } before offset cs).take count =
        (pieces .single o before offset cs).take count ∧
      ((pieces .single { o with maxDepth := deeper } before offset cs).length ≤ count ↔
        (pieces .single o before offset cs).length ≤ count) := by
  -- Piece by piece: the next one starts where this one has ended.
  induction count generalizing before offset cs with
  | zero =>
    cases cs with
    | nil => simp
    | cons c cs => simp [pieces_cons]
  | succ count ih =>
    cases cs with
    | nil => simp
    | cons c cs =>
      rw [pieces_cons, List.take_succ_cons, findingsOf_cons] at hNone
      have hFirst := readToken_deeper hLimit fun f hf => hNone f (List.mem_append_left _ hf)
      obtain ⟨hMore, hLength⟩ := ih _ _ _ fun f hf => hNone f (List.mem_append_right _ hf)
      rw [pieces_cons, pieces_cons, hFirst, List.take_succ_cons, List.take_succ_cons, hMore,
        List.length_cons, List.length_cons, Nat.add_le_add_iff_right, Nat.add_le_add_iff_right]
      exact ⟨rfl, hLength⟩

/-- A template of the grammar is the one piece of its text. -/
theorem pieces_template {o : Options} {opened nesting : Nat} {v : List Char}
    (h : Literal.Word .template opened nesting v) (hDepth : opened + 1 ≤ o.maxDepth) :
    pieces .extended o [] 0 ('`' :: v) = [⟨⟨.template nesting, '`' :: v, 0⟩, []⟩] := by
  have hRead : readToken .extended o [] 0 '`' v =
      { context := .template nesting, text := '`' :: v, rest := [], findings := [] } := by
    have hTemplate := Literal.readTemplate_word h hDepth 0 []
    rw [List.append_nil] at hTemplate
    simp only [readToken, if_neg (by decide : ¬ ('`' = '\'' ∨ '`' = '"')), if_pos, hTemplate]
  rw [pieces_cons, hRead, pieces_nil]

/-- **A text whose reading meets no limit is split alike under a higher one.** -/
theorem scanWith_deeper {o : Options} {deeper : Nat} (hLimit : o.maxDepth ≤ deeper)
    {content : List Char}
    (hNone : ∀ f ∈ (scanWith .extended o content).findings, f.isDepthLimit = false) :
    scanWith .extended { o with maxDepth := deeper } content = scanWith .extended o content := by
  have hCeiling : ({ o with maxDepth := deeper } : Options).ceiling (byteLength content) =
      o.ceiling (byteLength content) := rfl
  -- Only the pieces before the ceiling were read, and nothing is known about those after it.
  rw [scanWith_findings, pieces_extended] at hNone
  obtain ⟨hTake, hLength⟩ := take_pieces_deeper hLimit (o.ceiling (byteLength content)) [] 0 content
    fun f hf => hNone f (List.mem_append_left _ hf)
  rw [scanWith, scanWith, loop_eq, loop_eq, pieces_extended, pieces_extended, hCeiling]
  dsimp only
  rw [hTake, findingAtCeiling, findingAtCeiling, hTake]
  simp only [hLength]

end Scan

/-! ## What is recorded -/

namespace Tokenizer

/-- The same tokenizer under another limit. -/
def withLimit (t : Tokenizer) (limit : Nat) : Tokenizer :=
  { t with options := { t.options with maxDepth := limit } }

variable (t : Tokenizer) (limit : Nat) (content : List Char)

/-- Warnings are recorded under either limit. -/
theorem foldl_warn_withLimit (messages : List String) :
    messages.foldl warn (t.withLimit limit) = (messages.foldl warn t).withLimit limit := by
  induction messages generalizing t with
  | nil => rfl
  | cons message messages ih => exact ih (t.warn message)

/-- Unfinished constructs are reported under either limit. -/
theorem reportMalformed_withLimit (what : Malformed) (position : Nat) :
    (t.withLimit limit).reportMalformed content what position =
      (t.reportMalformed content what position).withLimit limit := by
  have hLocated : (t.withLimit limit).located content what.category .medium what.message position =
      ((t.located content what.category .medium what.message position).1,
        (t.located content what.category .medium what.message position).2.withLimit limit) := rfl
  generalize hPlace : t.located content what.category .medium what.message position = place
    at hLocated
  -- Recovery asks the log whether it is wanted.
  have hRecovery : Recovery.attempt (place.2.withLimit limit).log place.1 content position =
      Recovery.attempt place.2.log place.1 content position := rfl
  rw [reportMalformed, reportMalformed, hLocated, hPlace]
  dsimp only
  rw [hRecovery, foldl_warn_withLimit]
  rfl

/-- What is recorded about a finding does not depend on the limit. -/
theorem note_withLimit (f : Finding) :
    (t.withLimit limit).note content f = (t.note content f).withLimit limit := by
  cases f with
  | malformed what offset => exact t.reportMalformed_withLimit limit content what offset
  | brokenNested | unwound | offBoundary | depthExceeded | ceilingReached | stalled => rfl

/-- Findings, one after the other, are noted under either limit. -/
theorem foldl_note_withLimit (fs : List Finding) :
    fs.foldl (note · content) (t.withLimit limit) =
      (fs.foldl (note · content) t).withLimit limit := by
  induction fs generalizing t with
  | nil => rfl
  | cons f fs ih => rw [List.foldl_cons, note_withLimit, ih, List.foldl_cons]

theorem foldl_noteViolation_withLimit (vs : List Coverage.Violation) :
    vs.foldl noteViolation (t.withLimit limit) = (vs.foldl noteViolation t).withLimit limit := by
  induction vs generalizing t with
  | nil => rfl
  | cons v vs ih => exact ih (t.noteViolation v)

/-- A text whose reading meets no limit gives the same tokens and the same log under a higher
one. -/
theorem tokenize_withLimit {t : Tokenizer} {limit : Nat} (hLimit : t.options.maxDepth ≤ limit)
    {content : List Char}
    (hNone : ∀ f ∈ (Scan.scanWith .extended t.options content).findings, f.isDepthLimit = false) :
    (t.withLimit limit).tokenize content =
      ((t.tokenize content).1, (t.tokenize content).2.withLimit limit) := by
  have hScan : Scan.scanWith .extended (t.withLimit limit).options content =
      Scan.scanWith .extended t.options content := Scan.scanWith_deeper hLimit hNone
  have hReset : ({ t.withLimit limit with lines := {} } : Tokenizer) =
      ({ t with lines := {} } : Tokenizer).withLimit limit := rfl
  rw [tokenize, tokenize, tokenizeWith, tokenizeWith, hScan]
  dsimp only
  rw [hReset, foldl_note_withLimit, foldl_noteViolation_withLimit]

/-! ## No error, no finding -/

/-- Errors are only added. -/
theorem errors_prefix_note (f : Finding) : t.log.errors <+: (t.note content f).log.errors := by
  cases f with
  | malformed what offset =>
    obtain ⟨d, -, hErrors⟩ := t.errors_reportMalformed content what offset
    rw [note, hErrors]
    exact List.prefix_append ..
  | brokenNested | unwound => exact List.prefix_rfl
  | depthExceeded | ceilingReached | stalled | offBoundary => exact List.prefix_append ..

/-- No finding takes an error back. -/
theorem errors_prefix_foldl_note (fs : List Finding) :
    t.log.errors <+: (fs.foldl (note · content) t).log.errors := by
  induction fs generalizing t with
  | nil => exact List.prefix_rfl
  | cons f fs ih => exact (t.errors_prefix_note content f).trans (ih _)

/-- No violation takes an error back. -/
theorem errors_prefix_foldl_noteViolation (vs : List Coverage.Violation) :
    t.log.errors <+: (vs.foldl noteViolation t).log.errors := by
  induction vs generalizing t with
  | nil => exact List.prefix_rfl
  | cons v vs ih => exact (List.prefix_append ..).trans (ih (t.noteViolation v))

/-- A literal that the limit did not let open is an error. -/
theorem exists_isDepthLimit_note {f : Finding} (h : f.isDepthLimit = true) :
    ∃ d ∈ (t.note content f).log.errors, d.isDepthLimit = true := by
  cases f with
  | depthExceeded limit offset =>
    refine ⟨_, List.mem_append_right _ (List.mem_singleton_self _), ?_⟩
    exact Diagnostic.isDepthLimit_of_limit rfl
  | brokenNested | unwound | malformed | ceilingReached | stalled | offBoundary => cases h

/-- An error about the limit is still there after other findings. -/
theorem exists_isDepthLimit_foldl_note {f : Finding} {fs : List Finding} (hMem : f ∈ fs)
    (h : f.isDepthLimit = true) :
    ∃ d ∈ (fs.foldl (note · content) t).log.errors, d.isDepthLimit = true := by
  obtain ⟨before, after, rfl⟩ := List.append_of_mem hMem
  obtain ⟨d, hError, hDepth⟩ :=
    exists_isDepthLimit_note (before.foldl (note · content) t) content h
  -- Later findings leave the error where it is.
  refine ⟨d, ?_, hDepth⟩
  rw [List.foldl_append, List.foldl_cons]
  exact (errors_prefix_foldl_note _ content after).subset hError

/-- So without such an error nothing was found to be past the limit. -/
theorem unlimited_of_errors {t : Tokenizer} {content : List Char}
    (h : ∀ d ∈ (t.tokenize content).2.log.errors, d.isDepthLimit = false) :
    ∀ f ∈ (Scan.scanWith .extended t.options content).findings, f.isDepthLimit = false := by
  intro f hf
  by_contra hFound
  rw [Bool.not_eq_false] at hFound
  obtain ⟨d, hError, hDepth⟩ :=
    exists_isDepthLimit_foldl_note { t with lines := {} } content hf hFound
  have hStays : d ∈ (t.tokenize content).2.log.errors :=
    (errors_prefix_foldl_noteViolation _ _).subset hError
  rw [h d hStays] at hDepth
  cases hDepth

end Tokenizer

namespace Tokenizer

/-! ## The limit matters only where it is reported -/

/-- **The limit matters only where an error says so.** If the errors about a text are not about
the limit, a higher limit gives the same tokens, errors and warnings. And no literal is read with
more literals open than the limit admits: none of the states on the way has more of them, and
strings and templates are read through these states wherever there is room for one. -/
theorem limit_matters_if_reported (o : Options) (content : List Char) :
    ((∀ d ∈ ((new o).tokenize content).2.log.errors, d.isDepthLimit = false) →
      ∀ limit, o.maxDepth ≤ limit →
        let deeper := (new { o with maxDepth := limit }).tokenize content
        deeper.1 = ((new o).tokenize content).1 ∧
          deeper.2.log.errors = ((new o).tokenize content).2.log.errors ∧
          deeper.2.log.warnings = ((new o).tokenize content).2.log.warnings) ∧
      (∀ start s, Literal.Visits .extended o.maxDepth start s → s.frames.depth ≤ o.maxDepth) ∧
      (1 ≤ o.maxDepth → ∀ start cs,
        (∀ quote, Literal.EndsVisited .extended o.maxDepth start
          (Literal.readString .extended o.maxDepth start quote cs)) ∧
        Literal.EndsVisited .extended o.maxDepth start
          (Literal.readTemplate .extended o.maxDepth start cs)) := by
  refine ⟨fun hNone limit hLimit => ?_, fun start s hVisits => hVisits.depth_le,
    fun hRoom start cs =>
      ⟨fun quote => Literal.endsVisited_readString .extended start quote cs hRoom,
        Literal.endsVisited_readTemplate .extended start cs hRoom⟩⟩
  -- Where no error is about the limit, nothing was found about it, and the runs are the same.
  have hDeeper : (new { o with maxDepth := limit }).tokenize content =
      (((new o).tokenize content).1, ((new o).tokenize content).2.withLimit limit) :=
    tokenize_withLimit hLimit (unlimited_of_errors hNone)
  rw [hDeeper]
  exact ⟨rfl, rfl, rfl⟩

/-- With a string in a template the limit of two is reached, but not passed, so that the template
is the one token under a limit of fifty as well. -/
theorem limit_matters_if_reported_string :
    let o : Options := { maxDepth := 2 }
    let content := ['`', '$', '{', '\'', '}', '\'', '}', '`']
    let deeper := (new { o with maxDepth := 50 }).tokenize content
    (∀ d ∈ ((new o).tokenize content).2.log.errors, d.isDepthLimit = false) ∧ o.maxDepth ≤ 50 ∧
      deeper.1 = [⟨.template 1, content, 0⟩] ∧ deeper.2.log.errors = [] := by
  intro o content deeper
  have hString : Literal.Word (.string '\'') 0 0 ['}', '\''] :=
    .stringPlain (by decide) .quote
  have hWord : Literal.Word .template 1 1 content.tail :=
    .interpolation (.string (.inl rfl) hString .brace) .tick
  -- The brace in the string closes nothing, so that two levels are enough.
  have hPieces : Scan.pieces .extended o [] 0 content = [⟨⟨.template 1, content, 0⟩, []⟩] :=
    Scan.pieces_template hWord (by decide)
  have hLe : (Scan.pieces .extended o [] 0 content).length ≤ o.ceiling (byteLength content) := by
    rw [hPieces]
    decide
  have hTokens : ((new o).tokenize content).1 = [⟨.template 1, content, 0⟩] := by
    rw [tokens_tokenize, options_new, List.take_of_length_le hLe, hPieces]
    rfl
  have hErrors : ((new o).tokenize content).2.log.errors = [] := by
    rw [tokenize_of_le hLe, options_new, hPieces]
    rfl
  have hNone : ∀ d ∈ ((new o).tokenize content).2.log.errors, d.isDepthLimit = false := by
    rw [hErrors]
    decide
  obtain ⟨hSame, hSameErrors, -⟩ := (limit_matters_if_reported o content).1 hNone 50 (by decide)
  exact ⟨hNone, by decide, hSame.trans hTokens, hSameErrors.trans hErrors⟩

end Tokenizer

end CommentSieve
