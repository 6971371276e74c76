import CommentSieve.Proofs.Locality
import CommentSieve.Proofs.OnePass

/-!
# Where tokens and patterns agree

A text can be stripped along its tokens or by the pattern of a dialect. The pattern knows
nothing of interpolations and regular expressions, and takes what is not finished for plain
text. Where none of these occur, both read the text in the same way: a string, a template
or a comment ends at the same place, and at a character of code the pattern finds nothing.
So the same comments are found, and what is left of the text is the same.

Main results:

* `Tokenizer.tokens_of_errors` — a text without errors has been read to its end, and
  nothing was left unfinished in it.
* `Fallback.leftFrom_token` — the pattern goes over a token as a whole.
* `Fallback.strip_eq_sifted` — both ways leave the same of a text.
-/

namespace CommentSieve

open Text

/-! ## What is not an error -/

/-- Findings that are recorded as warnings. -/
def Finding.isWarning : Finding → Bool
  | brokenNested _ | unwound _ => true
  | depthExceeded .. | malformed .. | ceilingReached .. | stalled _ | offBoundary .. => false

namespace Tokenizer

/-- A finding adds one error unless it is only warned of. -/
theorem length_errors_note (t : Tokenizer) (content : List Char) (f : Finding) :
    (t.note content f).log.errors.length = t.log.errors.length + (!f.isWarning).toNat := by
  cases f with
  | malformed what offset =>
    obtain ⟨d, -, hErrors⟩ := t.errors_reportMalformed content what offset
    rw [note, hErrors, List.length_append]
    rfl
  | brokenNested | unwound => rfl
  | depthExceeded | ceilingReached | stalled | offBoundary => exact List.length_append

/-- Over a list of findings, the log gains one error for each that is more than a warning. -/
theorem length_errors_foldl_note (t : Tokenizer) (content : List Char) (fs : List Finding) :
    (fs.foldl (note · content) t).log.errors.length =
      t.log.errors.length + fs.countP (!·.isWarning) := by
  induction fs generalizing t with
  | nil => rfl
  | cons f fs ih =>
    rw [List.foldl_cons, ih, length_errors_note, List.countP_cons]
    cases f.isWarning
    · simp
      omega
    · simp

/-- Each violation adds one error. -/
theorem length_errors_foldl_noteViolation (t : Tokenizer) (vs : List Coverage.Violation) :
    (vs.foldl noteViolation t).log.errors.length = t.log.errors.length + vs.length := by
  induction vs generalizing t with
  | nil => rfl
  | cons v vs ih =>
    rw [List.foldl_cons, ih, List.length_cons]
    have hOne : (t.noteViolation v).log.errors.length = t.log.errors.length + 1 :=
      List.length_append
    omega

/-- Without a new error, all that was found is recorded as a warning. -/
theorem isWarning_of_errors {t : Tokenizer} {content : List Char}
    (h : (t.tokenize content).2.log.errors = t.log.errors) :
    ∀ f ∈ (Scan.scanWith .extended t.options content).findings, f.isWarning = true := by
  have hLength := congrArg List.length h
  rw [tokenize, tokenizeWith] at hLength
  dsimp only at hLength
  rw [length_errors_foldl_noteViolation, length_errors_foldl_note] at hLength
  have hNone : (Scan.scanWith .extended t.options content).findings.countP (!·.isWarning) = 0 := by
    have hSame : ({ t with lines := {} } : Tokenizer).log.errors.length = t.log.errors.length := rfl
    omega
  intro f hf
  simpa using List.countP_eq_zero.mp hNone f hf

/-- Without a new error the text has been read to its end. -/
theorem tokens_of_errors {t : Tokenizer} {content : List Char}
    (h : (t.tokenize content).2.log.errors = t.log.errors) :
    (t.tokenize content).1 = Scan.tokensOf (Scan.pieces .extended t.options [] 0 content) ∧
      ∀ p ∈ Scan.pieces .extended t.options [] 0 content, ∀ f ∈ p.findings, f.isWarning = true := by
  have hWarnings := isWarning_of_errors h
  rw [Scan.scanWith_findings] at hWarnings
  have hAll : (Scan.pieces .extended t.options [] 0 content).length ≤
      t.options.ceiling (byteLength content) := by
    -- That reading stopped early would have been found.
    by_contra hMore
    rw [Scan.findingAtCeiling, if_neg hMore] at hWarnings
    have hCeiling := hWarnings _ (List.mem_append_right _ (List.mem_singleton_self _))
    exact Bool.false_ne_true hCeiling
  rw [List.take_of_length_le hAll] at hWarnings
  refine ⟨?_, fun p hp f hf => hWarnings f ?_⟩
  · rw [tokens_tokenize, List.take_of_length_le hAll]
  · exact List.mem_append_left _ (List.mem_flatMap.mpr ⟨p, hp, hf⟩)

end Tokenizer

/-! ## Strings and templates -/

namespace Literal

open Dialect (closing?)

/-- A flat string is closed where the pattern closes it, or not at all. -/
theorem splitFlat_cases {quote : Char} (hQuote : quote ≠ '\\') (hLine : quote ≠ '\n')
    (passed cs : List Char) :
    (closing? quote true cs = none ∧ (splitFlat .single quote passed cs).1 = false) ∨
    ∃ count, closing? quote true cs = some count ∧
      splitFlat .single quote passed cs =
        (true, (cs.take count).reverse ++ passed, cs.drop count) := by
  fun_induction closing? quote true cs generalizing passed with
  | case1 => exact .inl ⟨rfl, by simp [splitFlat]⟩
  | case2 => exact .inl ⟨rfl, by simp [splitFlat, Escape.after, Escape.split]⟩
  | case3 d cs ih =>
    -- An escape is moved over as a whole on both sides.
    have hEscape : splitFlat .single quote passed ('\\' :: d :: cs) =
        splitFlat .single quote (d :: '\\' :: passed) cs := by
      rw [splitFlat, if_pos rfl]
      rfl
    rw [hEscape]
    rcases ih (d :: '\\' :: passed) with ⟨hOpen, hFlat⟩ | ⟨count, hClosed, hFlat⟩
    · exact .inl ⟨by rw [hOpen]; rfl, hFlat⟩
    · refine .inr ⟨count + 2, by rw [hClosed]; rfl, ?_⟩
      rw [hFlat]
      simp
  | case4 cs =>
    refine .inr ⟨1, rfl, ?_⟩
    rw [splitFlat, if_neg hQuote, if_neg hLine, if_pos rfl]
    rfl
  | case5 c cs hEscape hOther hBroken =>
    refine .inl ⟨rfl, ?_⟩
    rw [splitFlat, if_neg hEscape, if_pos (by simpa using hBroken)]
  | case6 c cs hEscape hOther hBroken ih =>
    have hOn : splitFlat .single quote passed (c :: cs) =
        splitFlat .single quote (c :: passed) cs := by
      rw [splitFlat, if_neg hEscape, if_neg (by simpa using hBroken), if_neg hOther]
    rw [hOn]
    rcases ih (c :: passed) with ⟨hOpen, hFlat⟩ | ⟨count, hClosed, hFlat⟩
    · exact .inl ⟨by rw [hOpen]; rfl, hFlat⟩
    · refine .inr ⟨count + 1, by rw [hClosed]; rfl, ?_⟩
      rw [hFlat]
      simp

/-- A string without errors ends where the pattern closes it. -/
theorem readString_closed {limit start : Nat} {quote : Char} {cs : List Char}
    (hQuote : quote = '\'' ∨ quote = '"')
    (h : ∀ f ∈ (readString .single limit start quote cs).findings, f.isWarning = true) :
    ∃ count, closing? quote true cs = some count ∧
      (readString .single limit start quote cs).text = quote :: cs.take count ∧
      (readString .single limit start quote cs).rest = cs.drop count := by
  obtain ⟨hText, hRest⟩ := readString_extent .single limit start quote cs
  obtain ⟨hEscape, hLine⟩ := quote_ne hQuote
  rcases splitFlat_cases hEscape hLine [quote] cs with ⟨-, hFlat⟩ | ⟨count, hClosed, hFlat⟩
  · -- A string that is not closed would have been reported.
    exfalso
    unfold readString at h
    split at h
    · rename_i frames hPush
      obtain rfl := frames_of_push? hPush
      rw [run_string .single start rfl] at h
      generalize splitFlat .single quote [quote] cs = flat at hFlat h
      obtain ⟨closed, passed, _ | ⟨c, rest⟩⟩ := flat
      · obtain rfl : closed = false := hFlat
        exact Bool.false_ne_true (h (.malformed .stringAtEnd start) (List.mem_singleton_self _))
      · obtain rfl : closed = false := hFlat
        exact Bool.false_ne_true (h (.malformed .string start) (List.mem_singleton_self _))
    · exact absurd (h _ (List.mem_cons_self ..)) (by simp [Finding.isWarning])
  · refine ⟨count, hClosed, ?_, ?_⟩
    · rw [hText, hFlat]
      simp
    · rw [hRest, hFlat]

/-- The depth that was reached is never forgotten. -/
theorem Change.nesting_le {start : Nat} {s t : State} (h : Change start s t) :
    s.nesting ≤ t.nesting := by
  cases h with
  | enters => exact Nat.le_max_left _ _
  | opens context =>
    unfold State.openLiteral
    split <;> exact Nat.le_refl _
  | nothing | breaks | closes | counts => exact Nat.le_refl _

/-- The deepest nesting so far only grows. -/
theorem nesting_le_run (start : Nat) (s : State) :
    s.nesting ≤ (run .single start s).nesting := by
  fun_induction run .single start s with
  | case1 s hStep => exact Nat.le_refl _
  | case2 s t hStep ih =>
    obtain ⟨u, taken, hChange, rfl⟩ := exists_change hStep
    exact Nat.le_trans hChange.nesting_le ih

theorem State.nesting_advance (s : State) : s.advance.nesting = s.nesting := by
  unfold advance
  split <;> rfl

/-- A template that enters no interpolation is closed where the pattern closes it, or not
at all. -/
theorem run_template {limit start : Nat} {passed cs : List Char}
    (h : (run .single start ⟨⟨limit, [.template 0]⟩, passed, cs, 0, []⟩).nesting = 0) :
    run .single start ⟨⟨limit, [.template 0]⟩, passed, cs, 0, []⟩ =
      match closing? '`' false cs with
      | some count => ⟨⟨limit, []⟩, (cs.take count).reverse ++ passed, cs.drop count, 0, []⟩
      | none => ⟨⟨limit, [.template 0]⟩, cs.reverse ++ passed, [], 0, []⟩ := by
  have hStep : ∀ passed c cs,
      run .single start ⟨⟨limit, [.template 0]⟩, passed, c :: cs, 0, []⟩ =
        run .single start
          (stepTemplate .single c cs ⟨⟨limit, [.template 0]⟩, passed, c :: cs, 0, []⟩) :=
    fun passed c cs => run_of_step rfl
  -- By induction on where the pattern closes the text: both take the same characters.
  fun_induction closing? '`' false cs generalizing passed with
  | case1 => exact run_of_stuck rfl
  | case2 =>
    rw [hStep, stepTemplate, if_pos rfl]
    exact run_of_stuck rfl
  | case3 d cs ih =>
    have hEscape : stepTemplate .single '\\' (d :: cs)
        ⟨⟨limit, [.template 0]⟩, passed, '\\' :: d :: cs, 0, []⟩ =
        ⟨⟨limit, [.template 0]⟩, d :: '\\' :: passed, cs, 0, []⟩ := rfl
    rw [hStep, hEscape] at h ⊢
    rw [ih h]
    cases closing? '`' false cs <;> simp
  | case4 cs =>
    rw [hStep, stepTemplate, if_neg (by decide), if_pos rfl]
    exact run_of_stuck rfl
  | case5 c cs hEscape hOther hBroken => simp at hBroken
  | case6 c cs hEscape hOther hBroken ih =>
    by_cases hEnters : c = '$' ∧ cs.head? = some '{'
    · -- The nesting keeps record of an interpolation that was entered.
      rw [hStep, stepTemplate, if_neg hEscape, if_neg hOther, if_pos hEnters] at h
      have hGrows := nesting_le_run start (State.enterInterpolation
        ⟨⟨limit, [.template 0]⟩, passed, c :: cs, 0, []⟩).advance.advance
      rw [h, State.nesting_advance, State.nesting_advance] at hGrows
      exact absurd hGrows (by decide : ¬ 1 ≤ 0)
    · have hOn : stepTemplate .single c cs ⟨⟨limit, [.template 0]⟩, passed, c :: cs, 0, []⟩ =
          ⟨⟨limit, [.template 0]⟩, c :: passed, cs, 0, []⟩ := by
        rw [stepTemplate, if_neg hEscape, if_neg hOther, if_neg hEnters]
        rfl
      rw [hStep, hOn] at h ⊢
      rw [ih h]
      cases closing? '`' false cs <;> simp

theorem exists_context_readTemplate (form : Escape.Form) (limit start : Nat) (cs : List Char) :
    ∃ depth, (readTemplate form limit start cs).context = .template depth := by
  unfold readTemplate
  split <;> exact ⟨_, rfl⟩

/-- A template without errors and interpolations ends where the pattern closes it. -/
theorem readTemplate_closed {limit start : Nat} {cs : List Char}
    (h : ∀ f ∈ (readTemplate .single limit start cs).findings, f.isWarning = true)
    (hFlat : (readTemplate .single limit start cs).context = .template 0) :
    ∃ count, closing? '`' false cs = some count ∧
      (readTemplate .single limit start cs).text = '`' :: cs.take count ∧
      (readTemplate .single limit start cs).rest = cs.drop count := by
  unfold readTemplate at h hFlat ⊢
  split at h
  · rename_i frames hPush
    obtain rfl := frames_of_push? hPush
    -- The depth of the token is the nesting at the end of the run.
    have hNesting : (run .single start ⟨⟨limit, [.template 0]⟩, ['`'], cs, 0, []⟩).nesting = 0 := by
      simpa [hPush] using hFlat
    have hRun := run_template hNesting
    cases hClosed : closing? '`' false cs with
    | none =>
      rw [hClosed] at hRun
      rw [hRun] at h
      exact absurd (h (.malformed .templateAtEnd start) (List.mem_singleton_self _))
        Bool.false_ne_true
    | some count =>
      rw [hClosed] at hRun
      refine ⟨count, rfl, ?_, ?_⟩
      · simp [hRun]
      · simp [hRun]
  · exact absurd (h _ (List.mem_cons_self ..)) (by simp [Finding.isWarning])

end Literal

/-! ## What the patterns find at a token -/

namespace Dialect

open Scan (isQuote opensComment)

variable {d : Dialect} (hd : d ≠ .hash)

include hd

/-- A quote encloses what comes up to the next such quote on its line. -/
theorem enclosedAt?_quote {c : Char} (hQuote : c = '\'' ∨ c = '"') (cs : List Char) :
    d.enclosedAt? (c :: cs) = (closing? c true cs).map (1 + ·) := by
  cases d with
  | hash => contradiction
  | cStyle | markup =>
    rcases hQuote with rfl | rfl <;> simp [enclosedAt?, enclosedLength?, stripStart?]

/-- A back-tick encloses what comes up to the next back-tick, on whichever line. -/
theorem enclosedAt?_tick (cs : List Char) :
    d.enclosedAt? ('`' :: cs) = (closing? '`' false cs).map (1 + ·) := by
  cases d with
  | hash => contradiction
  | cStyle | markup => simp [enclosedAt?, enclosedLength?, stripStart?]

/-- A character that is neither a quote nor a back-tick encloses nothing. -/
theorem enclosedAt?_plain {c : Char} (hQuote : isQuote c = false) (cs : List Char) :
    d.enclosedAt? (c :: cs) = none := by
  obtain ⟨⟨hSingle, hDouble⟩, hTick⟩ : (c ≠ '\'' ∧ c ≠ '"') ∧ c ≠ '`' := by
    simpa [isQuote] using hQuote
  cases d with
  | hash => contradiction
  | cStyle | markup =>
    simp [enclosedAt?, enclosedLength?, stripStart?, hSingle.symm, hDouble.symm, hTick.symm]

/-- Where a tokenizer sees no comment open, a stripper sees none. -/
theorem commentAt?_plain {cs : List Char} (hPlain : opensComment cs = false) :
    d.commentAt? cs = none := by
  simp only [opensComment, Bool.or_eq_false_iff, startsWith, Option.isSome_eq_false_iff,
    Option.isNone_iff_eq_none] at hPlain
  obtain ⟨⟨hBlock, hLine⟩, hHtml⟩ := hPlain
  cases d with
  | hash => contradiction
  | cStyle | markup => simp [commentAt?, delimitedLength?, lineLength?, hBlock, hLine, hHtml]

/-- A line comment goes on to the end of its line. -/
theorem commentAt?_line (body : List Char) :
    d.commentAt? (Comment.lineOpening ++ body) =
      some (2 + (body.takeWhile (· != '\n')).length) := by
  cases d with
  | hash => contradiction
  | cStyle | markup =>
    simp [commentAt?, delimitedLength?, lineLength?, stripStart?, Comment.lineOpening,
      Comment.Style.opening]

/-- Comments in angle brackets are known to one dialect only. -/
theorem commentAt?_delimited {style : Comment.Style} (hStyle : d = .cStyle → style = .block)
    {body inner rest : List Char}
    (hSplit : splitAround? style.terminator body = some (inner, rest)) :
    d.commentAt? (style.opening ++ body) =
      some (style.opening.length + (inner.length + style.terminator.length)) := by
  cases style with
  | block =>
    cases d with
    | hash => contradiction
    | cStyle | markup =>
      simp [commentAt?, delimitedLength?, stripStart?, Comment.Style.opening, hSplit]
  | html =>
    cases d with
    | hash => contradiction
    | cStyle => exact absurd (hStyle rfl) (by simp)
    | markup => simp [commentAt?, delimitedLength?, stripStart?, Comment.Style.opening, hSplit]

end Dialect

namespace Fallback

variable {d : Dialect} (hd : d ≠ .hash) (e : Engine)

/-- Whether a piece of the text goes into the output: all but unwanted comments do. -/
def wanted (isComment : Bool) (text : List Char) : Bool := !isComment || e.keeps text

/-- What is left of the text of some tokens if the comments that an engine does not want are
deleted from them. -/
def sifted (tokens : List Token) : Stripped where
  content := (tokens.filter fun u => wanted e u.isComment u.text).flatMap (·.text)
  removed := tokens.countP fun u => u.isComment && !e.keeps u.text
  preserved := tokens.countP fun u => u.isComment && e.keeps u.text

/-- This is what a remover puts together and counts. -/
theorem reassemble_eq_sifted (content : List Char) (tokens : List Token) (log : Log) :
    (⟨(Remover.reassemble e content tokens log).content,
      (Remover.reassemble e content tokens log).removed,
      (Remover.reassemble e content tokens log).preserved⟩ : Stripped) = sifted e tokens := by
  have hKept : ∀ u, Remover.keepsToken e u = wanted e u.isComment u.text := by
    intro u
    rw [Remover.keepsToken, Engine.keep_classify, wanted]
  simp only [Remover.reassemble, sifted, List.filter_map, List.flatMap_map, List.countP_map,
    Stripped.mk.injEq]
  refine ⟨?_, ?_, ?_⟩
  · congr 2
    funext u
    exact hKept u
  · apply List.countP_congr
    intro u _
    simp [hKept, wanted]
  · apply List.countP_congr
    intro u _
    cases hComment : u.isComment <;> simp [hKept, wanted, hComment]

/-- Tokens are sifted one after the other. -/
theorem sifted_cons (u : Token) (tokens : List Token) :
    sifted e (u :: tokens) =
      (judged u.text u.isComment (wanted e u.isComment u.text)).followedBy (sifted e tokens) := by
  cases hComment : u.isComment <;> cases hKeeps : e.keeps u.text <;>
    simp [sifted, judged, wanted, Stripped.followedBy, hComment, hKeeps, Nat.add_comm]

/-- A piece that means the same to the pattern of a dialect: it is finished, the pattern
knows of its kind, and there is nothing nested in it. -/
structure Common (d : Dialect) (p : Scan.Piece) : Prop where
  finished : ∀ f ∈ p.findings, f.isWarning = true
  notRegex : p.token.kind ≠ .regex
  flat : ∀ depth, p.token.context = .template depth → depth = 0
  known : d = .cStyle → p.token.isComment = true →
    startsWith Comment.Style.html.opening p.token.text = false

include hd

/-- A run at the front of a text, and the rest of it. -/
theorem leftFrom_run (index : Nat) {cs text rest : List Char} {run : Bool × Nat}
    (h : d.front? cs = some run) (hText : cs.take run.2 = text) (hRest : cs.drop run.2 = rest) :
    leftFrom d e index cs =
      (judged text run.1 (wanted e run.1 text)).followedBy
        (leftFrom d e (index + text.length) rest) := by
  have hLine : isInterpreterLine d index text = false := by simp [isInterpreterLine, hd]
  have hLength : text.length = run.2 := by
    rw [← hText, List.length_take, Nat.min_eq_left (d.bounds_of_front? h).2]
  rw [leftFrom_of_some d e index h, hText, hRest, hLength, leftOfRun, hLine, Bool.false_or]
  rfl

/-- What is enclosed in quotes is left as it is. -/
theorem leftFrom_enclosed (index : Nat) {c : Char} {cs : List Char} {count : Nat}
    (h : d.enclosedAt? (c :: cs) = some (1 + count)) :
    leftFrom d e index (c :: cs) =
      (copied (c :: cs.take count)).followedBy
        (leftFrom d e (index + (c :: cs.take count).length) (cs.drop count)) := by
  have hFront : d.front? (c :: cs) = some (false, 1 + count) := by
    rw [Dialect.front?, h]
    rfl
  apply leftFrom_run hd e index hFront
  · rw [Nat.add_comm, List.take_succ_cons]
  · rw [Nat.add_comm, List.drop_succ_cons]

/-- A comment is judged as a whole. -/
theorem leftFrom_comment (index : Nat) {c : Char} {cs text rest : List Char}
    (hQuote : Scan.isQuote c = false) (hAppend : text ++ rest = c :: cs)
    (hComment : d.commentAt? (c :: cs) = some text.length) :
    leftFrom d e index (c :: cs) =
      (judged text true (e.keeps text)).followedBy
        (leftFrom d e (index + text.length) rest) := by
  have hFront : d.front? (c :: cs) = some (true, text.length) := by
    rw [Dialect.front?, Dialect.enclosedAt?_plain hd hQuote, hComment]
    rfl
  apply leftFrom_run hd e index hFront
  · rw [← hAppend, List.take_left]
  · rw [← hAppend, List.drop_left]

/-- A character of code is copied. -/
theorem leftFrom_code (index : Nat) {c : Char} {cs : List Char}
    (hQuote : Scan.isQuote c = false) (hPlain : Scan.opensComment (c :: cs) = false) :
    leftFrom d e index (c :: cs) = (copied [c]).followedBy (leftFrom d e (index + 1) cs) := by
  apply leftFrom_of_none
  rw [Dialect.front?, Dialect.enclosedAt?_plain hd hQuote, Dialect.commentAt?_plain hd hPlain]
  rfl

/-- So is a run of code, up to the next construct or blank. -/
theorem leftFrom_splitCode (index : Nat) (passed cs : List Char) :
    ∃ more, (Scan.splitCode passed cs).1 = more.reverse ++ passed ∧
      leftFrom d e index cs =
        (copied more).followedBy
          (leftFrom d e (index + more.length) (Scan.splitCode passed cs).2) := by
  fun_induction Scan.splitCode passed cs generalizing index with
  | case1 => exact ⟨[], rfl, (Stripped.nil_followedBy _).symm⟩
  | case2 => exact ⟨[], rfl, (Stripped.nil_followedBy _).symm⟩
  | case3 passed c cs hConstruct =>
    obtain ⟨hQuote, -, hPlain⟩ := Scan.code_of_startsConstruct (by simpa using hConstruct)
    exact ⟨[c], rfl, leftFrom_code hd e index hQuote hPlain⟩
  | case4 passed c cs hConstruct hBlank ih =>
    obtain ⟨hQuote, -, hPlain⟩ := Scan.code_of_startsConstruct (by simpa using hConstruct)
    obtain ⟨more, hMore, hLeft⟩ := ih (index + 1)
    refine ⟨c :: more, by rw [hMore]; simp, ?_⟩
    rw [leftFrom_code hd e index hQuote hPlain, hLeft, copied_cons c more,
      Stripped.followedBy_assoc, List.length_cons, Nat.add_right_comm, Nat.add_assoc]

/-- A run of code is left as it is. -/
theorem leftFrom_readCode (index : Nat) {c : Char} {cs : List Char}
    (hQuote : Scan.isQuote c = false) (hPlain : Scan.opensComment (c :: cs) = false) :
    leftFrom d e index (c :: cs) =
      (copied (Scan.readCode c cs).text).followedBy
        (leftFrom d e (index + (Scan.readCode c cs).text.length) (Scan.readCode c cs).rest) := by
  rw [leftFrom_code hd e index hQuote hPlain, Scan.readCode]
  split
  · rfl
  · obtain ⟨more, hMore, hLeft⟩ := leftFrom_splitCode hd e (index + 1) [c] cs
    have hText : (Scan.splitCode [c] cs).1.reverse = c :: more := by
      rw [hMore]
      simp
    dsimp only
    rw [hLeft, hText, copied_cons c more, Stripped.followedBy_assoc, List.length_cons,
      Nat.add_right_comm, Nat.add_assoc]

/-- The pattern goes over a token as a whole. -/
theorem leftFrom_token (index : Nat) {o : Options} {before : List Char} {offset : Nat}
    {c : Char} {cs : List Char} {r : Reading}
    (hBranch : Scan.Branch .single o before offset c cs r)
    (hCommon : Common d ⟨⟨r.context, r.text, offset⟩, r.findings⟩) :
    leftFrom d e index (c :: cs) =
      (judged r.text (r.context.kind == .comment)
        (wanted e (r.context.kind == .comment) r.text)).followedBy
        (leftFrom d e (index + r.text.length) r.rest) := by
  obtain ⟨hFindings, hRegex, hTemplate, hHtml⟩ := hCommon
  have hAppend := hBranch.splits.append
  cases hBranch with
  | string hQuote =>
    -- A string ends where the pattern closes the text in quotes.
    obtain ⟨count, hClosed, hText, hRest⟩ := Literal.readString_closed hQuote hFindings
    rw [hText, hRest, Literal.context_readString]
    apply leftFrom_enclosed hd e index
    rw [Dialect.enclosedAt?_quote hd hQuote, hClosed]
    rfl
  | template hTick =>
    subst hTick
    -- So does a template, as nothing is nested in it.
    obtain ⟨depth, hDepth⟩ := Literal.exists_context_readTemplate .single o.maxDepth offset cs
    rw [hTemplate depth hDepth] at hDepth
    obtain ⟨count, hClosed, hText, hRest⟩ := Literal.readTemplate_closed hFindings hDepth
    rw [hText, hRest, Literal.kind_readTemplate]
    apply leftFrom_enclosed hd e index
    rw [Dialect.enclosedAt?_tick hd, hClosed]
    rfl
  | delimited style hOpening =>
    obtain ⟨body, hCs, ⟨-, hRead⟩ | ⟨inner, rest, hSplit, -, hRead⟩⟩ :=
      Comment.read_cases offset hOpening
    · -- A comment without its terminator would have been reported.
      rw [hRead] at hFindings
      exact absurd (hFindings _ (List.mem_singleton_self _)) Bool.false_ne_true
    · -- The dialect knows the style of the comment, and the terminator is the same.
      have hStyle : d = .cStyle → style = .block := by
        intro hC
        cases style with
        | block => rfl
        | html =>
          rw [hRead] at hHtml
          have hOther := hHtml hC rfl
          simp [startsWith, stripStart?_append] at hOther
      have hOpens : Scan.opensComment (c :: cs) = true := by
        cases style <;> simp [Scan.opensComment, hOpening]
      have hQuote := Scan.isQuote_of_opensComment hOpens
      rw [hRead] at hAppend ⊢
      apply leftFrom_comment hd e index hQuote hAppend
      rw [hCs, Dialect.commentAt?_delimited hd hStyle hSplit]
      simp
  | line hOpening =>
    obtain ⟨body, hCs, hRead⟩ := Comment.readLine_eq hOpening
    have hOpens : Scan.opensComment (c :: cs) = true := by simp [Scan.opensComment, hOpening]
    have hQuote := Scan.isQuote_of_opensComment hOpens
    rw [hRead] at hAppend ⊢
    apply leftFrom_comment hd e index hQuote hAppend
    rw [hCs, Dialect.commentAt?_line hd]
    simp [Comment.lineOpening, Nat.add_comm 2]
  | regex => exact absurd (congrArg Context.kind (RegexLiteral.context_read ..)) hRegex
  | code hQuote hPlain hDivides =>
    rw [Scan.context_readCode]
    exact leftFrom_readCode hd e index hQuote hPlain

/-- The pattern goes over all tokens, one after the other. -/
theorem leftFrom_eq_sifted (o : Options) (before : List Char) (offset index : Nat)
    (cs : List Char) (hCommon : ∀ p ∈ Scan.pieces .single o before offset cs, Common d p) :
    leftFrom d e index cs =
      sifted e (Scan.tokensOf (Scan.pieces .single o before offset cs)) := by
  induction before, offset, cs using Scan.pieces_induction .single o generalizing index with
  | nil before offset =>
    rw [Scan.pieces_nil, leftFrom_nil]
    rfl
  | cons before offset c cs ih =>
    rw [Scan.pieces_cons] at hCommon ⊢
    have hFirst := hCommon _ (List.mem_cons_self ..)
    rw [leftFrom_token hd e index (Scan.readToken_branch ..) hFirst, Scan.tokensOf_cons,
      sifted_cons, ih _ fun p hp => hCommon p (List.mem_cons_of_mem _ hp)]
    rfl

omit hd

/-- **Stripping by pattern and by tokens agree.** Take a text in which a tokenizer finds
nothing that it records as an error, no regular expression and no template with an
interpolation. Whatever the engine wants to keep, the pattern that knows all comments leaves
of the text what is left of the tokens without the unwanted comments, and drops and keeps
as many comments. If none of the comments starts with an angle bracket, so does the pattern
that knows only comments with slashes. -/
theorem strip_eq_sifted (t : Tokenizer) (content : List Char)
    (hErrors : (t.tokenize content).2.log.errors = t.log.errors)
    (hRegex : ∀ u ∈ (t.tokenize content).1, u.kind ≠ .regex)
    (hTemplate : ∀ u ∈ (t.tokenize content).1, ∀ depth, u.context = .template depth → depth = 0) :
    strip .markup e content = sifted e (t.tokenize content).1 ∧
      ((∀ u ∈ (t.tokenize content).1, u.isComment = true →
          startsWith Comment.Style.html.opening u.text = false) →
        strip .cStyle e content = sifted e (t.tokenize content).1) := by
  -- All pieces were read, so that what holds of the tokens holds of all pieces.
  obtain ⟨hTokens, hFindings⟩ := Tokenizer.tokens_of_errors hErrors
  rw [hTokens] at hRegex hTemplate ⊢
  rw [Scan.pieces_extended] at *
  have hMember : ∀ p ∈ Scan.pieces .single t.options [] 0 content,
      p.token ∈ Scan.tokensOf (Scan.pieces .single t.options [] 0 content) :=
    fun p hp => List.mem_map_of_mem hp
  constructor
  · rw [strip_eq_leftFrom]
    apply leftFrom_eq_sifted (by decide)
    intro p hp
    exact ⟨hFindings p hp, hRegex _ (hMember p hp), hTemplate _ (hMember p hp), by simp⟩
  · intro hHtml
    rw [strip_eq_leftFrom]
    apply leftFrom_eq_sifted (by decide)
    intro p hp
    exact ⟨hFindings p hp, hRegex _ (hMember p hp), hTemplate _ (hMember p hp),
      fun _ => hHtml _ (hMember p hp)⟩

/-- A string with slashes in it, a slash that divides, and a comment: the string is copied
and the comment dropped, by either pattern and by the tokens. -/
theorem strip_eq_sifted_division :
    (((Tokenizer.new {}).tokenize ['"', '/', '/', '"', '/', ' ', '/', '*', 'x', '*', '/']).1 =
        [⟨.string '"', ['"', '/', '/', '"'], 0⟩, ⟨.code, ['/', ' '], 4⟩,
          ⟨.comment, ['/', '*', 'x', '*', '/'], 6⟩] ∧
      ((Tokenizer.new {}).tokenize
        ['"', '/', '/', '"', '/', ' ', '/', '*', 'x', '*', '/']).2.log.errors = []) ∧
    strip .markup .empty ['"', '/', '/', '"', '/', ' ', '/', '*', 'x', '*', '/'] =
      { content := ['"', '/', '/', '"', '/', ' '], removed := 1 } ∧
    strip .cStyle .empty ['"', '/', '/', '"', '/', ' ', '/', '*', 'x', '*', '/'] =
      { content := ['"', '/', '/', '"', '/', ' '], removed := 1 } := by
  have hString : Scan.readToken .extended {} [] 0 '"'
      ['/', '/', '"', '/', ' ', '/', '*', 'x', '*', '/'] =
      { context := .string '"', text := ['"', '/', '/', '"'],
        rest := ['/', ' ', '/', '*', 'x', '*', '/'] } := by
    simp [Scan.readToken, Literal.readString, Frames.push?, Frames.depth, Literal.run_string,
      Literal.splitFlat, Literal.stringEnd, Literal.State.close, Frames.pop,
      Literal.State.allFindings, Literal.findingsAtEnd, Frames.frame?]
  have hScan : Scan.scanWith .extended {}
      ['"', '/', '/', '"', '/', ' ', '/', '*', 'x', '*', '/'] =
      ⟨[⟨.string '"', ['"', '/', '/', '"'], 0⟩, ⟨.code, ['/', ' '], 4⟩,
        ⟨.comment, ['/', '*', 'x', '*', '/'], 6⟩], []⟩ := by
    -- The string is read by its lemma, what comes after it by evaluation.
    show Scan.loop .extended {} 60 (59 + 1)
      { rest := ['"', '/', '/', '"', '/', ' ', '/', '*', 'x', '*', '/'] } = _
    rw [Scan.loop_cons rfl, hString]
    decide +kernel
  have hTokens : ((Tokenizer.new {}).tokenize
      ['"', '/', '/', '"', '/', ' ', '/', '*', 'x', '*', '/']).1 =
      [⟨.string '"', ['"', '/', '/', '"'], 0⟩, ⟨.code, ['/', ' '], 4⟩,
        ⟨.comment, ['/', '*', 'x', '*', '/'], 6⟩] := congrArg Scan.Result.tokens hScan
  have hErrors : ((Tokenizer.new {}).tokenize
      ['"', '/', '/', '"', '/', ' ', '/', '*', 'x', '*', '/']).2.log.errors = [] := by
    rw [Tokenizer.tokenize, Tokenizer.tokenizeWith, Tokenizer.options_new, hScan]
    decide +kernel
  have hAgree := strip_eq_sifted .empty (Tokenizer.new {})
    ['"', '/', '/', '"', '/', ' ', '/', '*', 'x', '*', '/'] hErrors
    (by rw [hTokens]; decide)
    (by rw [hTokens]; simp)
  rw [hTokens] at hAgree
  exact ⟨⟨hTokens, hErrors⟩, hAgree.1, hAgree.2 (by decide)⟩

end Fallback

end CommentSieve
