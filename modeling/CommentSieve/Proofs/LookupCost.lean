import CommentSieve.Proofs.DepthLimit

/-!
# What looking up lines costs

An index of lines counts columns from its last answer where it can. So a question that is not
about an earlier place costs no more than the way from the last answer to this one, and
questions in ascending order walk a text once in all.

A tokenizer asks in ascending order as well, with one exception. What is found inside of a token
is found on the way through it, and tokens follow each other; but that a template is unfinished
is found at the end of the text, and it is reported at the start of the template. There is
nothing left to ask about then, so that this happens once, and a second walk through the text
pays for it.

Main results:

* `LineIndex.scanned_ahead` — a question further on costs the way from the last answer.
* `LineIndex.scanned_ascending` — ascending questions walk the text once.
* `Scan.asks_upTo` — a tokenizer asks in ascending order, apart from its last question.
* `Tokenizer.lookups_walk_twice` — so its index walks the text at most twice.
-/

namespace CommentSieve

open Text

/-! ## Rounding up -/

/-- Rounding up does not go back. -/
theorem le_ceilBoundary_go (position pos : Nat) (cs : List Char) :
    pos ≤ ceilBoundary.go position pos cs := by
  induction cs generalizing pos with
  | nil => exact Nat.le_refl _
  | cons c cs ih =>
    have hNext := ih (pos + c.utf8Size)
    rw [ceilBoundary.go]
    split <;> omega

/-- Greater offsets are rounded up to greater ones. -/
theorem ceilBoundary_mono (cs : List Char) {p q : Nat} (h : p ≤ q) :
    ceilBoundary cs p ≤ ceilBoundary cs q := by
  suffices hGo : ∀ pos, ceilBoundary.go p pos cs ≤ ceilBoundary.go q pos cs from hGo 0
  induction cs with
  | nil =>
    intro pos
    exact Nat.le_refl _
  | cons c cs ih =>
    intro pos
    have hMore := ih (pos + c.utf8Size)
    have hStays := le_ceilBoundary_go q (pos + c.utf8Size) cs
    simp only [ceilBoundary.go]
    split <;> split <;> omega

/-! ## One question -/

namespace LineIndex

/-- The byte offset of the last answer. -/
def reached (index : LineIndex) : Nat := (index.last.map Mark.offset).getD 0

/-- An index after questions about one text. -/
def after (index : LineIndex) (content : List Char) (positions : List Nat) : LineIndex :=
  positions.foldl (fun index position => (index.locate content position).2) index

variable {content : List Char} {index : LineIndex}

@[simp] theorem reached_locate (index : LineIndex) (content : List Char) (position : Nat) :
    (index.locate content position).2.reached = ceilBoundary content position := by
  rw [← ceilBoundary_min]
  rfl

/-- What a question costs: the bytes from where columns are counted to the end of a front of the
text. -/
theorem exists_front_of_scanned (hIndex : index.Valid content) (position : Nat) :
    ∃ u, u <+: content ∧ ceilBoundary content position = byteLength u ∧
      (index.locate content position).2.scanned = index.scanned + (byteLength u - (index.origin
        (lineStarts u).length ((lineStarts u).getLastD 0) (byteLength u)).offset) := by
  obtain ⟨u, v, rfl, hCeil, -⟩ := exists_front_of_locate content position
  have hStarts : (if index.starts.isEmpty then lineStarts (u ++ v) else index.starts) =
      lineStarts (u ++ v) := by
    rcases hIndex.starts with hNone | hAll
    · simp [hNone]
    · simp [hAll]
  refine ⟨u, List.prefix_append u v, hCeil, ?_⟩
  simp only [locate, hStarts, ceilBoundary_min, hCeil, takeWhile_lineStarts]

/-- Columns are never counted from before the last answer, unless the question is about an
earlier place. -/
theorem reached_le_origin (hIndex : index.Valid content) {u : List Char} (hu : u <+: content)
    (hAhead : index.reached ≤ byteLength u) :
    index.reached ≤
      (index.origin (lineStarts u).length ((lineStarts u).getLastD 0) (byteLength u)).offset := by
  unfold origin
  cases hLast : index.last with
  | none =>
    rw [reached, hLast]
    exact Nat.zero_le _
  | some mark =>
    have hReached : index.reached = mark.offset := by
      rw [reached, hLast]
      rfl
    rw [hReached] at hAhead ⊢
    dsimp only
    split
    · exact Nat.le_refl _
    · -- An answer on the line of the question would have been used, so it lies on an earlier one.
      rename_i hOther
      by_contra hLate
      rw [Nat.not_le] at hLate
      apply hOther
      obtain ⟨w, hw, hOffset, hLocation⟩ := hIndex.last mark hLast
      obtain ⟨x, y, rfl, hLine, hStart, hReading⟩ := exists_lastLine u
      have hwu : w <+: x ++ y := prefix_of_byteLength_le hw hu (hOffset ▸ hAhead)
      have hxw : x <+: w := by
        apply prefix_of_byteLength_le ((List.prefix_append x y).trans hu) hw
        rw [hStart, hOffset]
        exact Nat.le_of_lt hLate
      obtain ⟨z, hz⟩ := hwu
      obtain ⟨y', rfl⟩ := hxw
      have hy : y' ++ z = y := by
        rw [List.append_assoc] at hz
        exact List.append_cancel_left hz
      have hNoLine : '\n' ∉ z := by
        intro hMem
        exact hLine (hy ▸ List.mem_append_right _ hMem)
      have hSame := Location.reading_append hNoLine (x ++ y')
      rw [hz, hReading] at hSame
      refine ⟨?_, Nat.le_of_lt hLate, hAhead⟩
      rw [hLocation]
      exact (congrArg Location.line hSame).symm

/-- **A question further on costs no more than the way from the last answer.** -/
theorem scanned_ahead (hIndex : index.Valid content) {position : Nat}
    (hAhead : index.reached ≤ ceilBoundary content position) :
    (index.locate content position).2.scanned + index.reached ≤
      index.scanned + ceilBoundary content position := by
  obtain ⟨u, hu, hCeil, hScanned⟩ := exists_front_of_scanned hIndex position
  rw [hCeil] at hAhead ⊢
  have hOrigin := reached_le_origin hIndex hu hAhead
  omega

/-- Any question costs at most a walk through the text. -/
theorem scanned_le (hIndex : index.Valid content) (position : Nat) :
    (index.locate content position).2.scanned ≤ index.scanned + byteLength content := by
  obtain ⟨u, ⟨v, rfl⟩, -, hScanned⟩ := exists_front_of_scanned hIndex position
  rw [byteLength_append]
  omega

/-! ## Questions in ascending order -/

/-- The index is right after any look-ups. -/
theorem valid_after (hIndex : index.Valid content) (positions : List Nat) :
    (index.after content positions).Valid content := by
  induction positions generalizing index with
  | nil => exact hIndex
  | cons position positions ih => exact ih (locate_eq hIndex position).2

/-- Each answer is where the next way begins, so that the ways add up. -/
theorem scanned_after_ascending (hIndex : index.Valid content) {positions : List Nat}
    (hAscending : positions.Pairwise (· ≤ ·))
    (hAhead : ∀ position ∈ positions, index.reached ≤ ceilBoundary content position) :
    (index.after content positions).scanned + index.reached ≤
      index.scanned + (index.after content positions).reached := by
  induction positions generalizing index with
  | nil => exact Nat.le_refl _
  | cons position positions ih =>
    obtain ⟨hFirst, hMore⟩ := List.pairwise_cons.mp hAscending
    have hStep := scanned_ahead hIndex (hAhead position (List.mem_cons_self ..))
    have hRest := ih (locate_eq hIndex position).2 hMore fun q hq => by
        rw [reached_locate]
        exact ceilBoundary_mono content (hFirst q hq)
    rw [reached_locate] at hRest
    show ((index.locate content position).2.after content positions).scanned + index.reached ≤
      index.scanned + ((index.locate content position).2.after content positions).reached
    omega

/-- No boundary is past the end of the text. -/
theorem ceilBoundary_le (content : List Char) (position : Nat) :
    ceilBoundary content position ≤ byteLength content := by
  obtain ⟨u, v, rfl, hCeil, -⟩ := exists_front_of_locate content position
  rw [hCeil, byteLength_append]
  exact Nat.le_add_right _ _

/-- No look-up reaches beyond the end of the text. -/
theorem reached_after_le (hReached : index.reached ≤ byteLength content)
    (positions : List Nat) : (index.after content positions).reached ≤ byteLength content := by
  induction positions generalizing index with
  | nil => exact hReached
  | cons position positions ih =>
    apply ih
    rw [reached_locate]
    exact ceilBoundary_le content position

/-- **Ascending questions to a new index walk the text at most once.** -/
theorem scanned_ascending (content : List Char) {positions : List Nat}
    (hAscending : positions.Pairwise (· ≤ ·)) :
    (({} : LineIndex).after content positions).scanned ≤ byteLength content := by
  have hEmpty : ({} : LineIndex).reached = 0 := rfl
  have hWalk := scanned_after_ascending (.empty content) hAscending fun position _ => by
    rw [hEmpty]
    exact Nat.zero_le _
  have hLast : (({} : LineIndex).after content positions).reached ≤ byteLength content :=
    reached_after_le (Nat.zero_le _) positions
  have hNothing : ({} : LineIndex).scanned = 0 := rfl
  omega

end LineIndex

/-! ## What a tokenizer asks -/

/-- The offset for which recording a finding asks the index of lines. -/
def Finding.asks? : Finding → Option Nat
  | depthExceeded _ offset | malformed _ offset | ceilingReached _ offset | stalled offset =>
    some offset
  | brokenNested _ | unwound _ | offBoundary .. => none

/-- The offsets for which recording some findings asks, in order. -/
def asksOf (fs : List Finding) : List Nat := fs.filterMap Finding.asks?

theorem asksOf_append (fs gs : List Finding) : asksOf (fs ++ gs) = asksOf fs ++ asksOf gs :=
  List.filterMap_append

namespace Tokenizer

variable (t : Tokenizer) (content : List Char)

/-- The index is asked about the places of a finding, and about nothing else. -/
theorem lines_note (f : Finding) :
    (t.note content f).lines = t.lines.after content (asksOf [f]) := by
  cases f with
  | malformed what offset => exact lines_foldl_warn ..
  | depthExceeded | brokenNested | unwound | ceilingReached | stalled | offBoundary => rfl

/-- The index is asked about the places of findings, one after the other. -/
theorem lines_foldl_note (fs : List Finding) :
    (fs.foldl (note · content) t).lines = t.lines.after content (asksOf fs) := by
  induction fs generalizing t with
  | nil => rfl
  | cons f fs ih =>
    have hSplit : asksOf (f :: fs) = asksOf [f] ++ asksOf fs := asksOf_append [f] fs
    rw [List.foldl_cons, ih, lines_note, hSplit]
    simp only [LineIndex.after, List.foldl_append]

/-- A violation has no place to be asked about. -/
theorem lines_foldl_noteViolation (vs : List Coverage.Violation) :
    (vs.foldl noteViolation t).lines = t.lines := by
  induction vs generalizing t with
  | nil => rfl
  | cons v vs ih => exact ih (t.noteViolation v)

/-- The index of a tokenizer that has split a text has answered what was asked about it. -/
theorem lines_tokenize :
    (t.tokenize content).2.lines =
      ({} : LineIndex).after content
        (asksOf (Scan.scanWith .single t.options content).findings) := by
  rw [tokenize, tokenizeWith, lines_foldl_noteViolation, lines_foldl_note, Scan.scanWith_extended]

end Tokenizer

/-! ## Ascending offsets -/

/-- Offsets that ascend from `low` up to `high`. -/
structure AscendingPlaces (low high : Nat) (offsets : List Nat) : Prop where
  sorted : offsets.Pairwise (· ≤ ·)
  bounds : ∀ offset ∈ offsets, low ≤ offset ∧ offset ≤ high

namespace AscendingPlaces

variable {low middle high : Nat} {offsets more : List Nat}

theorem nil : AscendingPlaces low high [] := ⟨.nil, by simp⟩

theorem single {offset : Nat} (hLow : low ≤ offset) (hHigh : offset ≤ high) :
    AscendingPlaces low high [offset] := ⟨List.pairwise_singleton _ _, by simpa using ⟨hLow, hHigh⟩⟩

/-- Places that are all the lower bound ascend between the bounds. -/
theorem of_forall_eq (hLow : low ≤ high) (h : ∀ offset ∈ offsets, offset = low) :
    AscendingPlaces low high offsets := by
  constructor
  · exact List.pairwise_of_forall_mem_list fun p hp q hq => by rw [h p hp, h q hq]
  · intro offset hOffset
    rw [h offset hOffset]
    exact ⟨Nat.le_refl _, hLow⟩

/-- The upper bound can be raised. -/
theorem mono {high' : Nat} (h : AscendingPlaces low high offsets) (hHigh : high ≤ high') :
    AscendingPlaces low high' offsets := by
  refine ⟨h.sorted, fun offset hOffset => ?_⟩
  obtain ⟨hFrom, hTo⟩ := h.bounds offset hOffset
  exact ⟨hFrom, hTo.trans hHigh⟩

/-- Places up to a bound and from it on ascend together. -/
theorem append (h : AscendingPlaces low middle offsets) (hMore : AscendingPlaces middle high more)
    (hLow : low ≤ middle) (hHigh : middle ≤ high) : AscendingPlaces low high (offsets ++ more) := by
  constructor
  · rw [List.pairwise_append]
    refine ⟨h.sorted, hMore.sorted, ?_⟩
    intro p hp q hq
    exact (h.bounds p hp).2.trans (hMore.bounds q hq).1
  · intro offset hOffset
    rcases List.mem_append.mp hOffset with hFirst | hLast
    · have hBounds := h.bounds offset hFirst
      omega
    · have hBounds := hMore.bounds offset hLast
      omega

end AscendingPlaces

/-- Offsets that ascend, apart from the last. -/
def AscendingButLast (low high : Nat) (offsets : List Nat) : Prop :=
  ∃ front back, offsets = front ++ back ∧ AscendingPlaces low high front ∧ back.length ≤ 1

/-! ## What a literal asks -/

namespace Literal

/-- A character is the cause of one finding at most: that the limit is met, where the character
stands, or that a string is broken off. -/
theorem findings_action (start : Nat) (s : State) (context : Context) (c : Char)
    (next : Option Char) :
    ∃ fs, (action start s context c next).1.findings = fs ++ s.findings ∧
      (fs = [] ∨ fs = [.malformed .string start] ∨ fs = [.brokenNested (s.offset start)] ∨
        fs = [.depthExceeded s.frames.limit (s.offset start)]) := by
  -- Opening a literal finds at most that there is no room for it.
  have hOpen : ∀ inner, ∃ fs, (s.openLiteral start inner).findings = fs ++ s.findings ∧
      (fs = [] ∨ fs = [.malformed .string start] ∨ fs = [.brokenNested (s.offset start)] ∨
        fs = [.depthExceeded s.frames.limit (s.offset start)]) := by
    intro inner
    unfold State.openLiteral
    split
    · exact ⟨[], rfl, .inl rfl⟩
    · exact ⟨[_], rfl, .inr (.inr (.inr rfl))⟩
  match context with
  | .string quote =>
    simp only [action]
    -- An escape, the end of a line in an outer and in an inner string, the quote, the rest.
    repeat' split
    · exact ⟨[], rfl, .inl rfl⟩
    · exact ⟨[_], rfl, .inr (.inl rfl)⟩
    · exact ⟨[_], rfl, .inr (.inr (.inl rfl))⟩
    · exact ⟨[], rfl, .inl rfl⟩
    · exact ⟨[], rfl, .inl rfl⟩
  | .template 0 =>
    simp only [action]
    repeat' split
    all_goals exact ⟨[], rfl, .inl rfl⟩
  | .template (braces + 1) =>
    simp only [action]
    repeat' split
    · exact ⟨[], rfl, .inl rfl⟩
    · exact ⟨[], rfl, .inl rfl⟩
    · exact hOpen _
    · exact hOpen _
    · exact ⟨[], rfl, .inl rfl⟩
  | .code | .regex | .comment => exact ⟨[], rfl, .inl rfl⟩

/-- What is asked about a literal up to where its reading has come, in order. -/
def State.asked (s : State) : List Nat := asksOf s.findings.reverse

/-- Where the outermost literal is a template, all that is asked about on the way are the places
of literals that the limit did not let open. -/
theorem asked_action {start : Nat} {s : State} {context : Context} (c : Char)
    (next : Option Char) (hTop : s.frames.top? = some context) (hAnchored : s.Anchored)
    (h : AscendingPlaces start (s.offset start) s.asked) :
    AscendingPlaces start (s.offset start) (action start s context c next).1.asked := by
  obtain ⟨fs, hFindings, hNew⟩ := findings_action start s context c next
  have hAsked : (action start s context c next).1.asked = s.asked ++ asksOf fs.reverse := by
    rw [State.asked, hFindings, List.reverse_append, asksOf_append]
    rfl
  have hHere : start ≤ s.offset start := Nat.le_add_right _ _
  rw [hAsked]
  refine h.append ?_ hHere (Nat.le_refl _)
  rcases hNew with rfl | rfl | rfl | rfl
  · exact .nil
  · -- That the token itself is broken off would be found to be unfinished.
    have hSame := (anchored_action start c next hTop hAnchored).2
    rw [State.unfinished, State.unfinished, hFindings] at hSame
    have hLength := congrArg List.length hSame
    simp [Finding.unfinished?] at hLength
  · exact .nil
  · exact .single (Nat.le_refl _) (Nat.le_refl _)

/-- A change of the open literals takes no character. -/
theorem Change.offset_eq {start : Nat} {s t : State} (h : Change start s t) :
    t.offset start = s.offset start := by
  cases h with
  | opens context =>
    unfold State.openLiteral
    split
    all_goals rfl
  | nothing | breaks | closes | enters | counts => rfl

/-- Moving over characters does not go back. -/
theorem offset_moveOver_le (start count : Nat) (s : State) :
    s.offset start ≤ (s.moveOver count).offset start := by
  simp only [State.offset, State.moveOver, byteLength_append]
  omega

/-- While a literal is read its findings come in ascending order, none before its start and none
past where reading has got to. -/
theorem asked_run (start : Nat) {s : State} (hAnchored : s.Anchored)
    (h : AscendingPlaces start (s.offset start) s.asked) :
    AscendingPlaces start ((run .single start s).offset start) (run .single start s).asked := by
  fun_induction run .single start s with
  | case1 s hStep => exact h
  | case2 s t hStep ih =>
    obtain ⟨context, c, cs, hTop, hRest⟩ := exists_of_step hStep
    rw [step_eq_action start hTop hRest] at hStep
    obtain rfl := Option.some.inj hStep
    have hNext := (anchored_action start c cs.head? hTop hAnchored).1
    have hAction := asked_action c cs.head? hTop hAnchored h
    -- Then characters are taken, and the findings stay.
    have hOffset := (change_action start s context c cs.head?).offset_eq
    have hTaken := offset_moveOver_le start (action start s context c cs.head?).2
      (action start s context c cs.head?).1
    rw [hOffset] at hTaken
    exact ih hNext (hAction.mono hTaken)

/-- At the end of the text the index is asked once more at most. -/
theorem length_asksOf_findingsAtEnd (start : Nat) (frames : Frames) :
    (asksOf (findingsAtEnd start frames)).length ≤ 1 := by
  unfold findingsAtEnd
  split
  · exact Nat.zero_le _
  · rw [asksOf_append]
    split
    all_goals exact Nat.le_refl _

end Literal

/-! ## What a token asks -/

/-- What is asked about a token: offsets in it, in ascending order. Only about a token that takes
all that is left of the text there may be a question about an earlier place at the end. -/
def Reading.AsksAlong (offset : Nat) (r : Reading) : Prop :=
  AscendingPlaces offset (offset + byteLength r.text) (asksOf r.findings) ∨
    (r.rest = [] ∧ AscendingButLast offset (offset + byteLength r.text) (asksOf r.findings))

/-- Most tokens are asked about at their start alone. -/
theorem Reading.asksAlong_of_start {offset : Nat} {r : Reading}
    (h : ∀ f ∈ r.findings, ∀ p ∈ f.asks?, p = offset) : r.AsksAlong offset := by
  refine .inl (.of_forall_eq (Nat.le_add_right _ _) fun p hp => ?_)
  obtain ⟨f, hf, hAsks⟩ := List.mem_filterMap.mp hp
  exact h f hf p hAsks

/-- A string asks about places in ascending order. -/
theorem Literal.asksAlong_readString (limit start : Nat) (quote : Char) (cs : List Char) :
    (readString .single limit start quote cs).AsksAlong start := by
  apply Reading.asksAlong_of_start
  rcases Nat.eq_zero_or_pos limit with rfl | hRoom
  · -- The limit and the missing quote are both reported at the start.
    intro f hf p hp
    rw [readString, push?_zero] at hf
    rcases List.mem_cons.mp hf with rfl | hf
    · exact (Option.some.inj hp).symm
    · split at hf
      · cases hf
      · obtain rfl := List.mem_singleton.mp hf
        exact (Option.some.inj hp).symm
  · intro f hf p hp
    rcases findings_readString start quote cs hRoom with hNone | ⟨what, hOne, -⟩
    · rw [hNone] at hf
      cases hf
    · rw [hOne] at hf
      obtain rfl := List.mem_singleton.mp hf
      exact (Option.some.inj hp).symm

/-- A template, with all that is open in it, asks about places in ascending order. -/
theorem Literal.asksAlong_readTemplate (limit start : Nat) (cs : List Char) :
    (readTemplate .single limit start cs).AsksAlong start := by
  rcases Nat.eq_zero_or_pos limit with rfl | hRoom
  · apply Reading.asksAlong_of_start
    intro f hf p hp
    rw [readTemplate, push?_zero] at hf
    obtain rfl := List.mem_singleton.mp hf
    exact (Option.some.inj hp).symm
  · rw [readTemplate_single start cs hRoom]
    have hAnchored : (templateStart limit cs).Anchored := by
      intro context hContext
      obtain rfl := Option.some.inj hContext
      exact ⟨0, rfl⟩
    have hAlong := asked_run start hAnchored .nil
    have hSound := sound_templateStart limit cs
    have hEnd : (run .single start (templateStart limit cs)).frames.depth ≠ 0 →
        (run .single start (templateStart limit cs)).rest = [] := by
      rw [← run_extended hSound]
      exact rest_run_of_open hSound
    generalize run .single start (templateStart limit cs) = last at hAlong hEnd
    -- The text that was passed ends where reading has come to.
    have hOffset : start + byteLength last.passed.reverse = last.offset start := by
      rw [byteLength_reverse]
      rfl
    have hAsks : asksOf (last.allFindings start) =
        last.asked ++ asksOf (findingsAtEnd start last.frames) := asksOf_append ..
    rw [Reading.AsksAlong]
    dsimp only
    rw [hOffset, hAsks]
    by_cases hOpen : last.frames.depth = 0
    · have hItems : last.frames.items = [] := List.length_eq_zero_iff.mp hOpen
      have hNone : findingsAtEnd start last.frames = [] := by
        simp [findingsAtEnd, Frames.frame?, hItems]
      rw [hNone]
      left
      simpa [asksOf] using hAlong
    · exact .inr ⟨hEnd hOpen, _, _, rfl, hAlong, length_asksOf_findingsAtEnd start last.frames⟩

namespace Scan

/-- Every token asks about places in ascending order. -/
theorem Branch.asksAlong {o : Options} {before : List Char} {offset : Nat} {c : Char}
    {cs : List Char} {r : Reading} (h : Branch .single o before offset c cs r) :
    r.AsksAlong offset := by
  cases h with
  | string => exact Literal.asksAlong_readString ..
  | template => exact Literal.asksAlong_readTemplate ..
  | delimited style =>
    -- Any other token asks at most about its own start.
    apply Reading.asksAlong_of_start
    unfold Comment.read
    split
    all_goals simp [Finding.asks?]
  | line =>
    apply Reading.asksAlong_of_start
    unfold Comment.readLine
    split
    all_goals simp
  | regex =>
    apply Reading.asksAlong_of_start
    unfold RegexLiteral.read
    split
    all_goals simp [Finding.asks?]
  | code =>
    apply Reading.asksAlong_of_start
    unfold readCode
    split
    all_goals simp

/-- What is asked about the pieces that a budget allows, and where it ends. -/
def asksUpTo (o : Options) (ceiling budget : Nat) (before : List Char) (offset : Nat)
    (cs : List Char) : List Nat :=
  asksOf (findingsOf ((pieces .single o before offset cs).take budget) ++
    findingAtCeiling ceiling budget offset (pieces .single o before offset cs))

/-- **A text is asked about in ascending order, apart from the last question.** -/
theorem asks_upTo (o : Options) (ceiling budget : Nat) (before : List Char) (offset : Nat)
    (cs : List Char) :
    AscendingButLast offset (offset + byteLength cs)
      (asksUpTo o ceiling budget before offset cs) := by
  induction before, offset, cs using pieces_induction .single o generalizing budget with
  | nil before offset =>
    refine ⟨[], [], ?_, .nil, Nat.zero_le _⟩
    simp [asksUpTo, findingAtCeiling, asksOf]
  | cons before offset c cs ih =>
    have hAlong := (readToken_branch .single o before offset c cs).asksAlong
    have hLength : byteLength (c :: cs) = byteLength (readToken .single o before offset c cs).text +
        byteLength (readToken .single o before offset c cs).rest := by
      rw [← byteLength_append, (readToken_splits ..).append]
    cases budget with
    | zero =>
      -- Reading stops here, and this is where the ceiling is reported.
      refine ⟨[offset], [], ?_, .single (Nat.le_refl _) (Nat.le_add_right _ _), Nat.zero_le _⟩
      simp [asksUpTo, findingAtCeiling, pieces_cons, asksOf, Finding.asks?]
    | succ budget =>
      have hMore := ih budget
      generalize hRead : readToken .single o before offset c cs = r at hAlong hLength hMore
      have hAsks : asksUpTo o ceiling (budget + 1) before offset (c :: cs) =
          asksOf r.findings ++
            asksUpTo o ceiling budget (r.text.reverse ++ before) (offset + byteLength r.text)
              r.rest := by
        simp [asksUpTo, pieces_cons, hRead, findingAtCeiling, asksOf_append, Nat.add_assoc]
      rw [hAsks, hLength, ← Nat.add_assoc]
      rcases hAlong with hAlong | ⟨hLast, front, back, hSplit, hFront, hBack⟩
      · obtain ⟨front, back, hSplit, hFront, hBack⟩ := hMore
        refine ⟨asksOf r.findings ++ front, back, ?_, ?_, hBack⟩
        · rw [hSplit, List.append_assoc]
        · exact hAlong.append hFront (Nat.le_add_right _ _) (Nat.le_add_right _ _)
      · -- After a question about an earlier place there is no text left.
        have hNothing : asksUpTo o ceiling budget (r.text.reverse ++ before)
            (offset + byteLength r.text) r.rest = [] := by
          simp [asksUpTo, hLast, findingAtCeiling, asksOf]
        rw [hNothing, List.append_nil]
        exact ⟨front, back, hSplit, hFront.mono (Nat.le_add_right _ _), hBack⟩

end Scan

/-! ## What a tokenizer pays -/

/-- One walk for questions in ascending order, and another for one about an earlier place. -/
theorem LineIndex.scanned_butLast {content : List Char} {low high : Nat} {positions : List Nat}
    (h : AscendingButLast low high positions) :
    (({} : LineIndex).after content positions).scanned ≤ 2 * byteLength content := by
  obtain ⟨front, back, rfl, hFront, hBack⟩ := h
  have hOnce := scanned_ascending content hFront.sorted
  have hValid := valid_after (.empty content) front
  have hSplit : ({} : LineIndex).after content (front ++ back) =
      (({} : LineIndex).after content front).after content back := List.foldl_append
  rw [hSplit]
  match back, hBack with
  | [], _ =>
    show (({} : LineIndex).after content front).scanned ≤ 2 * byteLength content
    omega
  | [position], _ =>
    have hAgain := scanned_le hValid position
    show ((({} : LineIndex).after content front).locate content position).2.scanned ≤
      2 * byteLength content
    omega

namespace Tokenizer

/-- **Looking up lines walks a text once, or twice for a tokenizer.** An index that is asked
about places in ascending order, inside of characters and past the end as well, never walks more
bytes than the text has. After a tokenizer has split a text, whatever its options and whatever it
was used for before, its index has walked at most twice as many, however many errors it had to
locate. -/
theorem lookups_walk_twice (t : Tokenizer) (content : List Char) :
    (∀ positions : List Nat, positions.Pairwise (· ≤ ·) →
      (({} : LineIndex).after content positions).scanned ≤ byteLength content) ∧
    (t.tokenize content).2.lines.scanned ≤ 2 * byteLength content := by
  refine ⟨fun positions hAscending => LineIndex.scanned_ascending content hAscending, ?_⟩
  rw [lines_tokenize, Scan.scanWith_findings]
  exact LineIndex.scanned_butLast (Scan.asks_upTo ..)

/-- Of eight bytes seven are walked to the string that the limit does not let open, and then four
of them again, to the start of the template around it. -/
theorem lookups_walk_twice_template :
    let content := ['a', 'a', 'a', 'a', '`', '$', '{', '\'']
    [1, 3, 3, 9].Pairwise (· ≤ ·) ∧
    (({} : LineIndex).after ['é', '\n', 'b'] [1, 3, 3, 9]).scanned ≤ 4 ∧
    ((new { maxDepth := 1 }).tokenize content).2.lines.scanned = 11 ∧
    11 ≤ 2 * byteLength content := by
  intro content
  have hAscending : [1, 3, 3, 9].Pairwise (· ≤ ·) := by decide
  have hCode : Scan.readToken .single { maxDepth := 1 } [] 0 'a'
      ['a', 'a', 'a', '`', '$', '{', '\''] =
      { context := .code, text := ['a', 'a', 'a', 'a'], rest := ['`', '$', '{', '\''] } := rfl
  -- The string finds no room, and the template is still open at the end.
  have hRun : Literal.run .single 4 (Literal.templateStart 1 ['$', '{', '\'']) =
      { frames := ⟨1, [.template 1]⟩, passed := ['\'', '{', '$', '`'], rest := [], nesting := 1
        findings := [.depthExceeded 1 7] } := by
    rw [Literal.run_of_step rfl, Literal.run_of_step rfl, Literal.run_of_stuck rfl]
    rfl
  have hTemplate : Scan.readToken .single { maxDepth := 1 } ['a', 'a', 'a', 'a'] 4 '`'
      ['$', '{', '\''] =
      { context := .template 1, text := ['`', '$', '{', '\''], rest := []
        findings := [.depthExceeded 1 7, .malformed .templateAtEnd 4] } := by
    show Literal.readTemplate .single 1 4 ['$', '{', '\''] = _
    rw [Literal.readTemplate_single 4 _ (Nat.le_refl 1), hRun]
    rfl
  have hPieces : Scan.pieces .single { maxDepth := 1 } [] 0 content =
      [⟨⟨.code, ['a', 'a', 'a', 'a'], 0⟩, []⟩,
        ⟨⟨.template 1, ['`', '$', '{', '\''], 4⟩,
          [.depthExceeded 1 7, .malformed .templateAtEnd 4]⟩] := by
    rw [Scan.pieces_cons, hCode]
    show _ :: Scan.pieces _ _ ['a', 'a', 'a', 'a'] 4 ['`', '$', '{', '\''] = _
    rw [Scan.pieces_cons, hTemplate, Scan.pieces_nil]
  have hAsks : asksOf (Scan.scanWith .single { maxDepth := 1 } content).findings = [7, 4] := by
    rw [Scan.scanWith_findings, hPieces]
    rfl
  -- The second question goes back, so that the text is walked over again.
  have hScanned : ((new { maxDepth := 1 }).tokenize content).2.lines.scanned = 11 := by
    rw [lines_tokenize, options_new, hAsks]
    decide +kernel
  have hOnce := (lookups_walk_twice (new {}) ['é', '\n', 'b']).1 [1, 3, 3, 9] hAscending
  have hTwice := (lookups_walk_twice (new { maxDepth := 1 }) content).2
  rw [hScanned] at hTwice
  exact ⟨hAscending, hOnce, hScanned, hTwice⟩

end Tokenizer

end CommentSieve
