import CommentSieve.Proofs.Extents
import CommentSieve.Proofs.LineLookup
import CommentSieve.Proofs.RegexGrammar
import CommentSieve.Proofs.TemplateGrammar
import Mathlib.Data.List.Forall2

/-!
# One error for each unfinished token

A token is unfinished if it lacks its end: a string its quote, a regular expression its
slash, a comment its terminator, a template whatever was still open in it when the text
ended. Each reader notices this on its own way out, some inside of the loop that reads a
literal and some after it, and a string that is broken off inside of an interpolation must
not be taken for a token. Still there is one error for each unfinished token and none for
the others, in order, with the place of the token.

What stands apart are the errors about the depth limit. They are about places inside of a
token, so that the index is asked about offsets in no particular order.

Main results:

* `Literal.findings_readString_eq_nil_iff`, `Literal.unfinished_readTemplate` — what is found
  about strings and templates.
* `Scan.accounted_of_mem_pieces` — what is found about a token says whether it is finished.
* `Tokenizer.errors_of_unfinished` — the errors are those about the unfinished tokens.
-/

namespace CommentSieve

open Text

/-! ## Unfinished tokens -/

/-- Whether the text ends, or the line, before a token does. -/
def Token.Unfinished (limit : Nat) (content : List Char) (token : Token) : Prop :=
  match token.context with
  | .string quote =>
    ¬ ∃ opened nesting word,
      token.text = quote :: word ∧ Literal.Word (.string quote) opened nesting word
  | .template _ =>
    let last := Literal.run .extended token.start
      (Literal.templateStart limit (cut content token.start).2.tail)
    last.rest = [] ∧ last.frames.depth ≠ 0
  | .regex => ¬ RegexLiteral.Whole token.text
  | .comment =>
    ∃ (style : Comment.Style) (body : List Char),
      token.text = style.opening ++ body ∧ ¬ style.terminator <:+: body
  | .code => False

/-- The category of the error about an unfinished token. -/
def Token.Kind.category? : Token.Kind → Option Diagnostic.Category
  | string => some .stringHandling
  | template => some .templateLiteral
  | regex => some .regex
  | comment => some .commentDetection
  | code => none

/-- What a finding says to be unfinished, and where it starts. -/
def Finding.unfinished? : Finding → Option (Malformed × Nat)
  | malformed what offset => some (what, offset)
  | depthExceeded .. | brokenNested _ | unwound _ | ceilingReached .. | stalled _
  | offBoundary .. => none

/-- What has to be found about a token: that it is unfinished, once, or nothing of the kind. -/
inductive Token.Accounted (token : Token) (unfinished : Prop) (fs : List Finding) : Prop
  | unfinished (h : unfinished) (what : Malformed)
      (hFound : fs.filterMap Finding.unfinished? = [(what, token.start)])
      (hCategory : token.kind.category? = some what.category)
  | finished (h : ¬ unfinished) (hNone : fs.filterMap Finding.unfinished? = [])

/-! ## Strings -/

namespace Literal

/-- The state in which a string is read: it is open, and its quote has been passed. -/
def stringStart (limit : Nat) (quote : Char) (cs : List Char) : State :=
  { frames := ⟨limit, [.string quote]⟩, passed := [quote], rest := cs }

section ReadString

variable {limit : Nat} (start : Nat) (quote : Char) (cs : List Char)

/-- How a string is read where there is room for it. -/
theorem readString_eq (hLimit : 1 ≤ limit) :
    readString .single limit start quote cs =
      { context := .string quote
        text := (run .single start (stringStart limit quote cs)).passed.reverse
        rest := (run .single start (stringStart limit quote cs)).rest
        findings := (run .single start (stringStart limit quote cs)).allFindings start } := by
  have hPush : Frames.push? { limit } (.string quote) = some ⟨limit, [.string quote]⟩ :=
    if_pos hLimit
  rw [readString, hPush]
  rfl

/-- There is at most one finding about a string, that it is unfinished. -/
theorem findings_readString (hLimit : 1 ≤ limit) :
    (readString .single limit start quote cs).findings = [] ∨
      ∃ what, (readString .single limit start quote cs).findings = [.malformed what start] ∧
        what.category = .stringHandling := by
  rw [readString_eq start quote cs hLimit, run_string .single start rfl]
  -- closed by its quote, or broken off by the end of the text or of the line
  obtain ⟨_ | _, passed, _ | ⟨c, rest⟩⟩ :=
    splitFlat .single quote (stringStart limit quote cs).passed (stringStart limit quote cs).rest
  · exact .inr ⟨.stringAtEnd, rfl, rfl⟩
  · exact .inr ⟨.string, rfl, rfl⟩
  · exact .inl rfl
  · exact .inl rfl

/-- A string opens no other literal. -/
theorem opened_of_word {q : Char} {o n : Nat} {w : List Char} (h : Word (.string q) o n w) :
    o = 0 := by
  generalize hPart : Part.string q = part at h
  induction h with
  | quote => rfl
  | stringPlain _ _ ih => exact ih hPart
  | stringEscape _ ih => exact ih hPart
  | _ => cases hPart

/-- A string is a word of the grammar exactly if nothing is found about it. -/
theorem findings_readString_eq_nil_iff (hLimit : 1 ≤ limit)
    (hQuote : quote = '\'' ∨ quote = '"') :
    (readString .single limit start quote cs).findings = [] ↔
      ∃ opened nesting word, (readString .single limit start quote cs).text = quote :: word ∧
        Word (.string quote) opened nesting word := by
  have hAppend := (readString_splits .single limit start quote cs).append
  have hSound : (stringStart limit quote cs).frames.Sound := by
    intro context hContext
    obtain rfl := List.mem_singleton.mp hContext
    simpa [Context.isSound] using hQuote
  rw [readString_eq start quote cs hLimit] at hAppend ⊢
  dsimp only at hAppend ⊢
  constructor
  · intro hNone
    obtain ⟨hFindings, hEnd⟩ := List.append_eq_nil_iff.mp hNone
    obtain ⟨u, hCloses, hRest⟩ := closes_of_run hSound ⟨rfl, hLimit⟩
      (List.reverse_eq_nil_iff.mp hFindings) (items_of_findingsAtEnd hEnd)
    -- the string was all that was open
    obtain ⟨o, n, w, v, hWord, -, hNothing, rfl⟩ := hCloses.exists_word (.string hQuote)
    cases hNothing with
    | nil =>
      rw [List.append_nil] at hRest
      have hCs : cs = w ++ (run .single start (stringStart limit quote cs)).rest := hRest
      have hText := hAppend.trans (congrArg (quote :: ·) hCs)
      exact ⟨o, n, w, List.append_cancel_right hText, hWord⟩
    | word hReads => cases hReads
  · rintro ⟨o, n, w, hText, hWord⟩
    obtain rfl := opened_of_word hWord
    have hPasses : Passes start limit [.string quote] _ w [] :=
      passes_word start hWord (.string hQuote) hLimit
    rw [hText, List.cons_append] at hAppend
    have hCs := (List.cons.inj hAppend).2
    have hRun := hPasses [quote] (run .single start (stringStart limit quote cs)).rest 0 []
    rw [hCs] at hRun
    have hStart : stringStart limit quote cs = ⟨⟨limit, [.string quote]⟩, [quote], cs, 0, []⟩ := rfl
    rw [hStart, hRun, run_of_stuck rfl]
    rfl

end ReadString

/-! ## Templates -/

/-- The outermost of the open literals is a template. A string lies inside of it then, and
its breaking off is no matter of the token. -/
def State.Anchored (s : State) : Prop :=
  ∀ context ∈ s.frames.items.getLast?, ∃ braces, context = .template braces

/-- What is found to be unfinished in some findings. -/
def State.unfinished (s : State) : List (Malformed × Nat) :=
  s.findings.filterMap Finding.unfinished?

/-- Closing a literal keeps the one that was opened first, or leaves none. -/
theorem State.Anchored.close {s : State} (h : s.Anchored) : s.close.Anchored := by
  obtain ⟨⟨limit, _ | ⟨top, _ | ⟨next, outer⟩⟩⟩, passed, rest, nesting, findings⟩ := s
  · exact h
  · simp [State.Anchored, State.close, Frames.pop]
  · exact h

/-- Counting braces keeps it a template. -/
theorem State.Anchored.setTop {s : State} (h : s.Anchored) (braces : Nat) :
    ∀ context ∈ (s.frames.setTop (.template braces)).items.getLast?,
      ∃ braces, context = .template braces := by
  obtain ⟨⟨limit, _ | ⟨top, _ | ⟨next, outer⟩⟩⟩, passed, rest, nesting, findings⟩ := s
  · exact h
  · simp [Frames.setTop]
  · exact h

/-- Inside of an interpolation a literal is opened above its template. -/
theorem State.Anchored.openLiteral {s : State} (h : s.Anchored) (hTop : s.frames.top? ≠ none)
    (start : Nat) (context : Context) :
    (s.openLiteral start context).Anchored ∧
      (s.openLiteral start context).unfinished = s.unfinished := by
  unfold State.openLiteral
  split
  · rename_i frames hPush
    refine ⟨?_, rfl⟩
    unfold Frames.push? at hPush
    split at hPush
    · obtain rfl := Option.some.inj hPush
      obtain ⟨⟨limit, _ | ⟨top, outer⟩⟩, passed, rest, nesting, findings⟩ := s
      · exact absurd rfl hTop
      · exact h
    · simp at hPush
  · exact ⟨h, rfl⟩

/-- No character of a template says that a token is unfinished. -/
theorem anchored_action (start : Nat) {s : State} {context : Context} (c : Char)
    (next : Option Char) (hTop : s.frames.top? = some context) (h : s.Anchored) :
    (action start s context c next).1.Anchored ∧
      (action start s context c next).1.unfinished = s.unfinished := by
  have hNe : s.frames.top? ≠ none := by simp [hTop]
  match context with
  | .string quote =>
    simp only [action]
    repeat' split
    · exact ⟨h, rfl⟩
    · -- the outermost literal is no string
      rename_i hDepth
      obtain ⟨outer, hItems⟩ := List.head?_eq_some_iff.mp hTop
      have hOne : outer = [] := by simpa [Frames.depth, hItems] using hDepth
      rw [hOne] at hItems
      obtain ⟨braces, hTemplate⟩ := h (.string quote) (by simp [hItems])
      cases hTemplate
    · exact ⟨h.close, rfl⟩
    · exact ⟨h.close, rfl⟩
    · exact ⟨h, rfl⟩
  | .template 0 =>
    simp only [action]
    repeat' split
    · exact ⟨h, rfl⟩
    · exact ⟨h.close, rfl⟩
    · exact ⟨h.setTop 1, rfl⟩
    · exact ⟨h, rfl⟩
  | .template (braces + 1) =>
    simp only [action]
    repeat' split
    · exact ⟨h.setTop _, rfl⟩
    · exact ⟨h.setTop _, rfl⟩
    · exact h.openLiteral hNe start _
    · exact h.openLiteral hNe start _
    · exact ⟨h, rfl⟩
  | .code | .regex | .comment => exact ⟨h.close, rfl⟩

/-- A whole run keeps findings anchored, and nothing in it is found to be unfinished. -/
theorem anchored_run (start : Nat) {s : State} (h : s.Anchored) :
    (run .single start s).Anchored ∧ (run .single start s).unfinished = s.unfinished := by
  fun_induction run .single start s with
  | case1 s hStep => exact ⟨h, rfl⟩
  | case2 s t hStep ih =>
    obtain ⟨context, c, cs, hTop, hRest⟩ := exists_of_step hStep
    obtain ⟨hNext, hSame⟩ := anchored_action start c cs.head? hTop h
    rw [step_eq_action start hTop hRest] at hStep
    obtain rfl := Option.some.inj hStep
    obtain ⟨hAnchored, hRun⟩ := ih hNext
    exact ⟨hAnchored, hRun.trans hSame⟩

/-- A template is found to be unfinished if something is left open at the end of the text. -/
theorem unfinished_readTemplate {limit : Nat} (start : Nat) (cs : List Char)
    (hLimit : 1 ≤ limit) :
    (readTemplate .extended limit start cs).findings.filterMap Finding.unfinished? =
      if (run .extended start (templateStart limit cs)).frames.depth = 0 then []
      else [(.templateAtEnd, start)] := by
  have hStart : (templateStart limit cs).Anchored := by
    intro context hContext
    obtain rfl := Option.some.inj hContext
    exact ⟨0, rfl⟩
  rw [readTemplate_eq start cs hLimit, run_extended (sound_templateStart limit cs)]
  obtain ⟨hAnchored, hRun⟩ := anchored_run start hStart
  generalize run .single start (templateStart limit cs) = last at hAnchored hRun
  -- in the loop nothing of the kind is found, so that only the end counts
  have hLoop : last.findings.reverse.filterMap Finding.unfinished? = [] := by
    rw [List.filterMap_reverse]
    exact congrArg List.reverse hRun
  simp only [State.allFindings, List.filterMap_append, hLoop, List.nil_append]
  cases hOutermost : last.frames.frame? 0 with
  | none =>
    have hItems : last.frames.items = [] := by simpa [Frames.frame?] using hOutermost
    simp [findingsAtEnd, hOutermost, Frames.depth, hItems]
  | some outermost =>
    have hLast : last.frames.items.getLast? = some outermost := by
      rw [List.getLast?_eq_head?_reverse, List.head?_eq_getElem?]
      exact hOutermost
    obtain ⟨braces, rfl⟩ := hAnchored outermost hLast
    have hOpen : last.frames.depth ≠ 0 := by
      intro hDepth
      rw [Frames.depth, List.length_eq_zero_iff] at hDepth
      simp [hDepth] at hLast
    rw [if_neg hOpen, findingsAtEnd, hOutermost]
    simp only [List.filterMap_append]
    split <;> rfl

/-- Where something is left open, the text has been read to its end. -/
theorem rest_run_of_open {start : Nat} {s : State} (hSound : s.frames.Sound)
    (h : (run .extended start s).frames.depth ≠ 0) : (run .extended start s).rest = [] := by
  rw [run_extended hSound] at h ⊢
  have hStuck : step .single start (run .single start s) = none := by
    fun_induction run .single start s with
    | case1 s hStep => exact hStep
    | case2 s t hStep ih => exact ih (sound_step hStep hSound) h
  refine ((step_eq_none_iff start).mp hStuck).resolve_left ?_
  intro hTop
  rw [Frames.top?, List.head?_eq_none_iff] at hTop
  exact h (by rw [Frames.depth, hTop]; rfl)

end Literal

/-! ## Every token -/

namespace Comment

/-- The opening tells the style. -/
theorem Style.eq_of_opening {style style' : Style} {body body' : List Char}
    (h : style.opening ++ body = style'.opening ++ body') : style = style' ∧ body = body' := by
  cases style <;> cases style' <;> simp_all [opening]

theorem Style.opening_ne_line (style : Style) (body body' : List Char) :
    lineOpening ++ body ≠ style.opening ++ body' := by
  cases style <;> simp [opening, lineOpening]

/-- A comment with a terminator is unfinished if it has none. -/
theorem accounted_read {limit : Nat} {content : List Char} {style : Style} {cs : List Char}
    (offset : Nat) (h : startsWith style.opening cs = true) :
    let r := read style offset cs
    (⟨r.context, r.text, offset⟩ : Token).Accounted
      ((⟨r.context, r.text, offset⟩ : Token).Unfinished limit content) r.findings := by
  obtain ⟨body, rfl, ⟨hNone, hRead⟩ | ⟨inner, rest, hSplit, -, hRead⟩⟩ := read_cases offset h
  · rw [hRead]
    exact .unfinished ⟨style, body, rfl, not_infix_of_splitAround? hNone⟩ style.malformed rfl
      (by cases style <;> rfl)
  · rw [hRead]
    refine .finished ?_ rfl
    rintro ⟨style', body', hText, hNone⟩
    obtain ⟨rfl, rfl⟩ := Style.eq_of_opening hText
    exact hNone (List.suffix_append inner style.terminator).isInfix

/-- A line comment is always finished. -/
theorem accounted_readLine {limit : Nat} {content cs : List Char} (offset : Nat)
    (h : startsWith lineOpening cs = true) :
    let r := readLine cs
    (⟨r.context, r.text, offset⟩ : Token).Accounted
      ((⟨r.context, r.text, offset⟩ : Token).Unfinished limit content) r.findings := by
  obtain ⟨body, -, hRead⟩ := readLine_eq h
  rw [hRead]
  refine .finished ?_ rfl
  rintro ⟨style, body', hText, -⟩
  exact style.opening_ne_line _ _ hText

end Comment

namespace Scan

/-- What is found while a token is read says whether it is finished. -/
theorem Branch.accounted {o : Options} {before : List Char} {offset : Nat} {c : Char}
    {cs content : List Char} {r : Reading} (h : Branch .single o before offset c cs r)
    (hDepth : 1 ≤ o.maxDepth) (hPlace : (cut content offset).2 = c :: cs) :
    (⟨r.context, r.text, offset⟩ : Token).Accounted
      ((⟨r.context, r.text, offset⟩ : Token).Unfinished o.maxDepth content) r.findings := by
  cases h with
  | string hQuote =>
    have hWord := Literal.findings_readString_eq_nil_iff offset c cs hDepth hQuote
    have hContext := Literal.context_readString .single o.maxDepth offset c cs
    rcases Literal.findings_readString offset c cs hDepth with hNone | ⟨what, hOne, hWhat⟩
    · refine .finished ?_ (by rw [hNone]; rfl)
      rw [Token.Unfinished, hContext, not_not]
      exact hWord.mp hNone
    · refine .unfinished ?_ what (by rw [hOne]; rfl) ?_
      · rw [Token.Unfinished, hContext]
        dsimp only
        rw [← hWord, hOne]
        exact List.cons_ne_nil _ _
      · rw [Token.kind, hContext, hWhat]
        rfl
  | template hTick =>
    -- Whether a template is closed is told by where its run has ended.
    have hSame := Literal.readTemplate_extended o.maxDepth offset cs
    have hFound := Literal.unfinished_readTemplate offset cs hDepth
    have hTail : (cut content offset).2.tail = cs := by rw [hPlace]; rfl
    rw [← hSame]
    have hContext := congrArg Reading.context (Literal.readTemplate_eq offset cs hDepth)
    split at hFound
    · rename_i hClosed
      refine .finished ?_ hFound
      rw [Token.Unfinished, hContext]
      dsimp only
      rw [hTail]
      exact fun hOpen => hOpen.2 hClosed
    · rename_i hOpen
      refine .unfinished ?_ _ hFound (by rw [Token.kind, hContext]; rfl)
      rw [Token.Unfinished, hContext]
      dsimp only
      rw [hTail]
      exact ⟨Literal.rest_run_of_open (Literal.sound_templateStart o.maxDepth cs) hOpen, hOpen⟩
  | delimited style hOpening => exact Comment.accounted_read offset hOpening
  | line hOpening => exact Comment.accounted_readLine offset hOpening
  | regex hSlash =>
    -- A literal is unfinished exactly where none can be recognised.
    subst hSlash
    have hContext := RegexLiteral.context_read offset ('/' :: cs)
    rcases RegexLiteral.read_cases offset cs with ⟨hWhole, hNone⟩ | ⟨hBroken, hOne⟩
    · refine .finished ?_ (by rw [hNone]; rfl)
      rw [Token.Unfinished, hContext, not_not]
      exact hWhole
    · refine .unfinished ?_ .regex (by rw [hOne]; rfl) (by rw [Token.kind, hContext]; rfl)
      rw [Token.Unfinished, hContext]
      exact hBroken
  | code =>
    refine .finished ?_ ?_
    · rw [Token.Unfinished, context_readCode]
      exact id
    · unfold readCode
      split <;> rfl

/-- What is found about a piece says whether it is finished. -/
theorem accounted_of_mem_pieces {o : Options} {content : List Char} (hDepth : 1 ≤ o.maxDepth)
    {p : Piece} (h : p ∈ pieces .extended o [] 0 content) :
    p.token.Accounted (p.token.Unfinished o.maxDepth content) p.findings := by
  obtain ⟨v, c, cs, r, hContent, hRead, rfl⟩ := exists_read_of_mem_pieces h
  have hBranch := readToken_branch .single o (v.reverse ++ []) (0 + byteLength v) c cs
  rw [← readToken_extended, ← hRead] at hBranch
  refine hBranch.accounted hDepth ?_
  rw [hContent, Nat.zero_add, cut_append_left]

end Scan

/-! ## From findings to errors -/

/-- The errors about literals that the limit did not let open. -/
def Diagnostic.isDepthLimit (d : Diagnostic) : Bool :=
  startsWith "Context depth limit of ".toList d.message.toList

/-- The message about the limit is told by how it starts. -/
theorem Diagnostic.isDepthLimit_of_limit {d : Diagnostic} {limit : Nat}
    (h : d.message = "Context depth limit of " ++ toString limit ++
      " exceeded; nested literal read as plain content") : d.isDepthLimit = true := by
  rw [isDepthLimit, h, String.toList_append, String.toList_append, List.append_assoc]
  exact Comment.startsWith_append ..

theorem Diagnostic.isDepthLimit_of_malformed {d : Diagnostic} {what : Malformed}
    (h : d.message = what.message) : d.isDepthLimit = false := by
  rw [isDepthLimit, h]
  cases what <;> decide

/-- An error of medium severity about something that starts at an offset. -/
structure Diagnostic.Describes (content : List Char) (category : Diagnostic.Category)
    (offset : Nat) (d : Diagnostic) : Prop where
  severity : d.severity = .medium
  category_eq : d.category = category
  position : d.position = some offset
  location : d.location = some (locate content offset)

namespace Tokenizer

/-- An unfinished construct adds the one error that describes it. -/
theorem describes_malformed {t : Tokenizer} {content : List Char} (what : Malformed)
    (offset : Nat) (hLines : t.lines.Valid content) :
    (t.note content (.malformed what offset)).lines.Valid content ∧
      ∃ d, (t.note content (.malformed what offset)).log.errors = t.log.errors ++ [d] ∧
        d.Describes content what.category offset ∧ d.isDepthLimit = false := by
  obtain ⟨hLocation, hValid⟩ := LineIndex.locate_eq hLines offset
  have hSame : (t.note content (.malformed what offset)).lines =
      (t.lines.locate content offset).2 := lines_foldl_warn ..
  refine ⟨hSame ▸ hValid, _, congrArg (· ++ _) (errors_foldl_warn ..), ?_, ?_⟩
  · exact ⟨rfl, rfl, rfl, congrArg some hLocation⟩
  · exact Diagnostic.isDepthLimit_of_malformed rfl

/-- Unfinished constructs of one kind add one error each, of the category of the kind, at the
places where they start. -/
theorem errors_foldl_malformed {t : Tokenizer} {content : List Char} (what : Malformed)
    (offsets : List Nat) (hLines : t.lines.Valid content) :
    ∃ new : List Diagnostic,
      ((offsets.map (Finding.malformed what)).foldl (note · content) t).log.errors =
        t.log.errors ++ new ∧
      (∀ d ∈ new, d.severity = .medium ∧ d.category = what.category) ∧
      new.map (·.location) = offsets.map fun offset => some (locate content offset) := by
  induction offsets generalizing t with
  | nil => exact ⟨[], (List.append_nil _).symm, by simp, rfl⟩
  | cons offset offsets ih =>
    obtain ⟨hNext, d, hFirst, hDescribes, -⟩ := describes_malformed what offset hLines
    obtain ⟨new, hErrors, hNew, hPlaces⟩ := ih hNext
    refine ⟨d :: new, ?_, ?_, ?_⟩
    · rw [List.map_cons, List.foldl_cons, hErrors, hFirst, List.append_assoc,
        List.singleton_append]
    · exact List.forall_mem_cons.mpr ⟨⟨hDescribes.severity, hDescribes.category_eq⟩, hNew⟩
    · rw [List.map_cons, List.map_cons, hDescribes.location, hPlaces]

/-- What one finding adds to the errors. -/
theorem describes_note {t : Tokenizer} {content : List Char} {f : Finding}
    (hOrdinary : f.isOrdinary = true) (hLines : t.lines.Valid content) :
    (t.note content f).lines.Valid content ∧
      ∃ new, (t.note content f).log.errors = t.log.errors ++ new ∧
        List.Forall₂ (fun found d => d.Describes content found.1.category found.2)
          (([f] : List Finding).filterMap Finding.unfinished?) (new.filter (!·.isDepthLimit)) := by
  cases f with
  | malformed what offset =>
    obtain ⟨hValid, d, hErrors, hDescribes, hOther⟩ := describes_malformed what offset hLines
    refine ⟨hValid, [d], hErrors, ?_⟩
    rw [List.filter_cons_of_pos (by rw [hOther]; rfl)]
    exact .cons hDescribes .nil
  | depthExceeded limit offset =>
    -- The error about the limit is recorded, and then filtered out.
    obtain ⟨-, hValid⟩ := LineIndex.locate_eq hLines offset
    refine ⟨hValid, [_], rfl, ?_⟩
    rw [List.filter_cons_of_neg (by rw [Diagnostic.isDepthLimit_of_limit rfl]; decide)]
    exact .nil
  -- Warnings leave the errors, and the last three findings are not ordinary.
  | brokenNested offset => exact ⟨hLines, [], (List.append_nil _).symm, .nil⟩
  | unwound count => exact ⟨hLines, [], (List.append_nil _).symm, .nil⟩
  | ceilingReached limit offset => simp [Finding.isOrdinary] at hOrdinary
  | stalled offset => simp [Finding.isOrdinary] at hOrdinary
  | offBoundary start stop => simp [Finding.isOrdinary] at hOrdinary

/-- What findings add to the errors, one after the other. The index of lines stays right. -/
theorem describes_foldl_note {t : Tokenizer} {content : List Char} {fs : List Finding}
    (hOrdinary : ∀ f ∈ fs, f.isOrdinary = true) (hLines : t.lines.Valid content) :
    (fs.foldl (note · content) t).lines.Valid content ∧
      ∃ new, (fs.foldl (note · content) t).log.errors = t.log.errors ++ new ∧
        List.Forall₂ (fun found d => d.Describes content found.1.category found.2)
          (fs.filterMap Finding.unfinished?) (new.filter (!·.isDepthLimit)) := by
  induction fs generalizing t with
  | nil => exact ⟨hLines, [], (List.append_nil _).symm, .nil⟩
  | cons f fs ih =>
    obtain ⟨hFirst, hOthers⟩ := List.forall_mem_cons.mp hOrdinary
    obtain ⟨hNext, one, hOne, hDescribes⟩ := describes_note hFirst hLines
    obtain ⟨hLast, more, hMore, hRest⟩ := ih hOthers hNext
    refine ⟨hLast, one ++ more, ?_, ?_⟩
    · rw [List.foldl_cons, hMore, hOne, List.append_assoc]
    · have hFound : (f :: fs).filterMap Finding.unfinished? =
          ([f] : List Finding).filterMap Finding.unfinished? ++
            fs.filterMap Finding.unfinished? := by
        rw [← List.filterMap_append]
        rfl
      rw [hFound, List.filter_append]
      exact List.rel_append hDescribes hRest

end Tokenizer

/-- The error about an unfinished token. -/
structure Diagnostic.IsAbout (content : List Char) (token : Token) (d : Diagnostic) : Prop where
  severity : d.severity = .medium
  category : token.kind.category? = some d.category
  position : d.position = some token.start
  location : d.location = some (locate content token.start)

namespace Tokenizer

open Classical in
/-- Pieces that account for themselves add one error for each unfinished token. -/
theorem isAbout_foldl_note {t : Tokenizer} {content : List Char} {limit : Nat}
    {ps : List Scan.Piece} (hOrdinary : ∀ p ∈ ps, ∀ f ∈ p.findings, f.isOrdinary = true)
    (hAccounted : ∀ p ∈ ps, p.token.Accounted (p.token.Unfinished limit content) p.findings)
    (hLines : t.lines.Valid content) :
    ∃ new, ((Scan.findingsOf ps).foldl (note · content) t).log.errors = t.log.errors ++ new ∧
      List.Forall₂ (Diagnostic.IsAbout content)
        ((Scan.tokensOf ps).filter (·.Unfinished limit content))
        (new.filter (!·.isDepthLimit)) := by
  induction ps generalizing t with
  | nil => exact ⟨[], (List.append_nil _).symm, .nil⟩
  | cons p ps ih =>
    obtain ⟨hFirst, hOthers⟩ := List.forall_mem_cons.mp hOrdinary
    obtain ⟨hToken, hTokens⟩ := List.forall_mem_cons.mp hAccounted
    obtain ⟨hNext, one, hOne, hDescribes⟩ := describes_foldl_note hFirst hLines
    obtain ⟨more, hMore, hRest⟩ := ih hOthers hTokens hNext
    refine ⟨one ++ more, ?_, ?_⟩
    · rw [Scan.findingsOf_cons, List.foldl_append, hMore, hOne, List.append_assoc]
    rw [Scan.tokensOf_cons, List.filter_append]
    cases hToken with
    | unfinished hOpen what hFound hCategory =>
      rw [hFound] at hDescribes
      -- the one finding is recorded as the one error
      obtain ⟨d, ds, hd, hNone, hErrors⟩ := List.forall₂_cons_left_iff.mp hDescribes
      obtain rfl := List.forall₂_nil_left_iff.mp hNone
      rw [hErrors, List.filter_cons_of_pos (by simpa using hOpen)]
      refine .cons ⟨hd.severity, ?_, hd.position, hd.location⟩ hRest
      rw [hCategory, hd.category_eq]
    | finished hClosed hNone =>
      rw [hNone] at hDescribes
      rw [List.forall₂_nil_left_iff.mp hDescribes, List.nil_append,
        List.filter_cons_of_neg (by simpa using hClosed)]
      exact hRest

open Classical in
/-- **One error for each unfinished token.** Apart from those about the depth limit, the
errors of a fresh tokenizer are those about the unfinished tokens, in order: of medium
severity, under the category of the token, at its start. -/
theorem errors_of_unfinished (o : Options) (content : List Char)
    (hFactor : 1 ≤ o.iterationFactor) (hDepth : 1 ≤ o.maxDepth)
    (hWord : byteLength content ≤ maxWord) :
    List.Forall₂ (Diagnostic.IsAbout content)
      (((new o).tokenize content).1.filter (·.Unfinished o.maxDepth content))
      (((new o).tokenize content).2.log.errors.filter (!·.isDepthLimit)) := by
  have hLe := Scan.length_pieces_le_ceiling .extended hFactor hWord
  have hFresh : ({ new o with lines := {} } : Tokenizer).log.errors = [] := rfl
  have hAccounted : ∀ p ∈ Scan.pieces .extended o [] 0 content,
      p.token.Accounted (p.token.Unfinished o.maxDepth content) p.findings := fun p hp =>
    Scan.accounted_of_mem_pieces hDepth hp
  obtain ⟨errors, hErrors, hAbout⟩ := isAbout_foldl_note (t := { new o with lines := {} })
    (fun p hp => Scan.ordinary_of_mem_pieces hp) hAccounted (.empty content)
  rw [hFresh, List.nil_append] at hErrors
  rw [← hErrors] at hAbout
  rw [tokens_tokenize, options_new, List.take_of_length_le hLe, tokenize_of_le hLe]
  exact hAbout

open Classical in
/-- A regular expression that the line end breaks off, and on the next line a comment without
its terminator. -/
theorem errors_of_unfinished_lines :
    let content := ['(', '/', 'é', '\n', ' ', '/', '*']
    1 ≤ ({} : Options).iterationFactor ∧ 1 ≤ ({} : Options).maxDepth ∧
    byteLength content ≤ maxWord ∧
    List.Forall₂ (Diagnostic.IsAbout content)
      (((new {}).tokenize content).1.filter (·.Unfinished ({} : Options).maxDepth content))
      (((new {}).tokenize content).2.log.errors.filter (!·.isDepthLimit)) ∧
    ((new {}).tokenize content).2.log.errors.map (fun d => (d.category, d.location)) =
      [(.regex, some ⟨1, 2⟩), (.commentDetection, some ⟨2, 2⟩)] := by
  intro content
  have hWord : byteLength content ≤ maxWord := by decide
  have hErrors : ((new {}).tokenize content).2.log.errors.map (fun d => (d.category, d.location)) =
      [(.regex, some ⟨1, 2⟩), (.commentDetection, some ⟨2, 2⟩)] := by
    decide +kernel
  exact ⟨by decide, by decide, hWord,
    errors_of_unfinished {} content (by decide) (by decide) hWord, hErrors⟩

end Tokenizer

end CommentSieve
