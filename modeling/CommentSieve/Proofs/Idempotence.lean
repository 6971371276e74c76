import CommentSieve.Proofs.Directives
import CommentSieve.Proofs.DocumentationTags
import CommentSieve.Proofs.Extents
import CommentSieve.Proofs.Trust

/-!
# Processing the output again

Where a comment is dropped, the text before it and the text after it come to stand side by
side. Two things can then be read in another way than before: a comment can open across the
seam, as in `<` and `!--`; and a slash can divide where it opened a regular expression, or
the other way round, since that is decided by what comes before it. These are the only two.
If neither happens (`seamless`), the comments of the output are the comments that were kept,
and processing it again drops nothing.

The argument is about the comments of a text alone, not its other tokens: a regular
expression may take a letter as a flag that was code before, and runs of code may be cut
elsewhere. Code can be read one character at a time as far as comments are concerned
(`commentsFrom_code`).

Main results:

* `Scan.commentsFrom_code` — a character of code can be passed over.
* `Scan.commentsFrom_kept` — the comments of the output are those that were kept.
* `Remover.process_process` — processing the output again drops nothing.
-/

namespace CommentSieve

open Text

namespace Scan

/-! ## The comments of a text -/

/-- The comments among some pieces. -/
def commentsOf (ps : List Piece) : List (List Char) :=
  (ps.filter (·.token.isComment)).map (·.token.text)

/-- Comments are collected piece by piece. -/
theorem commentsOf_cons (p : Piece) (ps : List Piece) :
    commentsOf (p :: ps) =
      (if p.token.kind = .comment then [p.token.text] else []) ++ commentsOf ps := by
  by_cases h : p.token.kind = .comment
  · simp [commentsOf, Token.isComment, h]
  · simp [commentsOf, Token.isComment, h]

/-- The comments of the text from some place on, given the text `before` it with the last
character first. -/
def commentsFrom (o : Options) (before cs : List Char) : List (List Char) :=
  commentsOf (pieces .extended o before 0 cs)

/-- Where a token stands matters for what is found in it, but not for its extent. -/
theorem readToken_offset (o : Options) (before : List Char) (offset offset' : Nat) (c : Char)
    (cs : List Char) :
    (readToken .extended o before offset c cs).text =
        (readToken .extended o before offset' c cs).text ∧
      (readToken .extended o before offset c cs).rest =
        (readToken .extended o before offset' c cs).rest ∧
      (readToken .extended o before offset c cs).context =
        (readToken .extended o before offset' c cs).context := by
  by_cases hKind : (readToken .extended o before offset c cs).context.kind ∈
      [Token.Kind.string, .template, .comment]
  · have hSame : EndsAlike (readToken .extended o before offset c cs).rest
        (readToken .extended o before offset c cs).rest := ⟨id, id⟩
    have hAppend := (readToken_splits .extended o before offset c cs).append.symm
    obtain ⟨hText, hRest, hContext⟩ := readToken_withRest hKind hSame before offset' hAppend
    exact ⟨hText.symm, hRest.symm, hContext.symm⟩
  · have hBranch := readToken_branch .extended o before offset c cs
    generalize readToken .extended o before offset c cs = r at hKind hBranch ⊢
    -- Regular expressions and code are left.
    cases hBranch with
    | string => simp [Context.kind] at hKind
    | template => simp [Literal.kind_readTemplate] at hKind
    | delimited => simp [Context.kind] at hKind
    | line => simp [Context.kind] at hKind
    | regex hSlash hPlain hOpens =>
      subst hSlash
      rw [readToken_of_regex _ _ hPlain hOpens]
      unfold RegexLiteral.read
      split <;> exact ⟨rfl, rfl, rfl⟩
    | code hQuote hPlain hDivides =>
      rw [readToken_of_code _ _ hQuote hPlain hDivides]
      exact ⟨rfl, rfl, rfl⟩

/-- The comments of a text do not depend on where the text starts. -/
theorem commentsOf_offset (o : Options) (before : List Char) (offset offset' : Nat)
    (cs : List Char) :
    commentsOf (pieces .extended o before offset cs) =
      commentsOf (pieces .extended o before offset' cs) := by
  induction before, offset, cs using pieces_induction .extended o generalizing offset' with
  | nil before offset => simp
  | cons before offset c cs ih =>
    obtain ⟨hText, hRest, hContext⟩ := readToken_offset o before offset offset' c cs
    have hMore := ih (offset' + byteLength (readToken .extended o before offset c cs).text)
    rw [pieces_cons, pieces_cons, commentsOf_cons, commentsOf_cons, hMore, hText, hRest, hContext]
    rfl

/-- The comments of a text: its first token, if that is one, and the comments after it. -/
theorem commentsFrom_cons (o : Options) (before : List Char) (c : Char) (cs : List Char) :
    commentsFrom o before (c :: cs) =
      (if (readToken .extended o before 0 c cs).context.kind = .comment then
        [(readToken .extended o before 0 c cs).text] else []) ++
      commentsFrom o ((readToken .extended o before 0 c cs).text.reverse ++ before)
        (readToken .extended o before 0 c cs).rest := by
  rw [commentsFrom, pieces_cons, commentsOf_cons, commentsOf_offset _ _ _ 0]
  rfl

/-! ## Code, character by character -/

/-- A character of code can be passed over. -/
theorem commentsFrom_code {o : Options} {before : List Char} {c : Char} {cs : List Char}
    (hQuote : isQuote c = false) (hPlain : opensComment (c :: cs) = false)
    (hDivides : c = '/' → RegexLiteral.opensAfter o.maxLookback before = false) :
    commentsFrom o before (c :: cs) = commentsFrom o (c :: before) cs := by
  have hCode : ∀ text start ps, commentsOf (⟨⟨.code, text, start⟩, []⟩ :: ps) = commentsOf ps :=
    fun _ _ _ => commentsOf_cons ..
  have hOffset := commentsOf_offset o (c :: before) 0 (0 + c.utf8Size) cs
  obtain ⟨more, ps, hHere, hNext⟩ := pieces_code 0 hQuote hPlain hDivides
  rw [commentsFrom, commentsFrom, hHere, hCode, hOffset]
  rcases hNext with ⟨-, hNext⟩ | hNext
  · rw [hNext]
  · rw [hNext, hCode]

/-- Whether a comment opens at a character of a text that is followed by another one. -/
def opensWithin : (text after : List Char) → Bool
  | [], _ => false
  | c :: cs, after => opensComment (c :: (cs ++ after)) || opensWithin cs after

/-- Several characters of code, none of them a quote or a slash. -/
theorem commentsFrom_plain {o : Options} {before text after : List Char}
    (hText : ∀ c ∈ text, isQuote c = false ∧ c ≠ '/') (hPlain : opensWithin text after = false) :
    commentsFrom o before (text ++ after) = commentsFrom o (text.reverse ++ before) after := by
  induction text generalizing before with
  | nil => rfl
  | cons c text ih =>
    obtain ⟨hQuote, hSlash⟩ := hText c (List.mem_cons_self ..)
    obtain ⟨hHere, hMore⟩ := Bool.or_eq_false_iff.mp hPlain
    rw [List.cons_append, commentsFrom_code hQuote hHere fun h => absurd h hSlash,
      ih (fun d hd => hText d (List.mem_cons_of_mem _ hd)) hMore]
    simp

/-- No comment opens at a flag. -/
theorem opensWithin_flags {flags : List Char} (h : ∀ c ∈ flags, RegexLiteral.isFlag c = true)
    (after : List Char) : opensWithin flags after = false := by
  induction flags with
  | nil => rfl
  | cons c flags ih =>
    obtain ⟨-, hSlash, hAngle⟩ := code_of_isFlag (h c (List.mem_cons_self ..))
    rw [opensWithin, ih fun d hd => h d (List.mem_cons_of_mem _ hd), Bool.or_false]
    exact opensComment_of_ne hSlash hAngle _

/-- After the first character of a run of code there are no quotes and no slashes. -/
theorem text_readCode (c : Char) (cs : List Char) :
    ∃ more, (readCode c cs).text = c :: more ∧ ∀ d ∈ more, isQuote d = false ∧ d ≠ '/' := by
  unfold readCode
  split
  · exact ⟨[], rfl, by simp⟩
  · obtain ⟨more, hMore, -, hSlashes, hPlain⟩ := isPlain_splitCode [c] cs
    refine ⟨more, by simp [hMore], fun d hd => ⟨hPlain.unquoted d hd, ?_⟩⟩
    exact ne_of_mem_of_not_mem hd hSlashes

/-! ## Seams -/

/-- Whether a slash after the text `kept` means what it means after the text `before`. -/
def sameVerdict (o : Options) (before kept : List Char) : Bool :=
  RegexLiteral.opensAfter o.maxLookback kept == RegexLiteral.opensAfter o.maxLookback before

/-- Whether a token that stood after the text `before` is read in the same way between the
texts `kept` and `after`: no comment opens in code, and a slash means what it meant. Both
texts before it are given with the last character first. -/
def fits (o : Options) (before kept : List Char) (t : Token) (after : List Char) : Bool :=
  match t.kind with
  | .code => !opensWithin t.text after && (t.text.head? != some '/' || sameVerdict o before kept)
  | .regex => sameVerdict o before kept
  | .string | .template | .comment => true

end Scan

/-- A slash that is all of a regular expression stands at the end of its line. -/
theorem RegexLiteral.endsLine_of_text {offset : Nat} {inner : List Char}
    (h : (read offset ('/' :: inner)).text = ['/']) :
    (read offset ('/' :: inner)).rest = [] ∨
      (read offset ('/' :: inner)).rest.head? = some '\n' := by
  cases hRead : recognise ('/' :: inner) with
  | ok pieces =>
    obtain ⟨text, rest⟩ := pieces
    obtain ⟨v, after, -, -, rfl, -⟩ := recognise_ok hRead
    simp [read, hRead] at h
  | error complaints =>
    have hRest : (read offset ('/' :: inner)).rest = inner.dropWhile (· != '\n') := by
      simp [read, hRead]
    rw [hRest]
    exact line_cases inner

namespace Scan

/-- A regular expression at a seam: the flags it may take there are code. -/
theorem commentsFrom_regex {o : Options} {offset : Nat} {inner kept after : List Char}
    (hPlain : opensComment ('/' :: inner) = false)
    (hOpens : RegexLiteral.opensAfter o.maxLookback kept = true)
    (hAlike : EndsAlike (RegexLiteral.read offset ('/' :: inner)).rest after) :
    commentsFrom o kept ((RegexLiteral.read offset ('/' :: inner)).text ++ after) =
      commentsFrom o ((RegexLiteral.read offset ('/' :: inner)).text.reverse ++ kept) after := by
  obtain ⟨hText, hRest⟩ := RegexLiteral.read_withRest hAlike 0
  obtain ⟨v, hv, hInner⟩ := (RegexLiteral.read_splits offset inner).exists_cons
  -- No comment opens at its slash: the next character is what it was, or there is none on
  -- the line.
  have hPlain' : opensComment ('/' :: (v ++ after)) = false := by
    cases v with
    | nil =>
      rw [opensComment_slash, List.nil_append]
      rcases RegexLiteral.endsLine_of_text hv with hEnd | hEnd
      · rw [hAlike.nil hEnd]
        rfl
      · rw [hAlike.line hEnd]
        rfl
    | cons d v =>
      rw [hInner, opensComment_slash] at hPlain
      rw [opensComment_slash]
      exact hPlain
  have hFlags : ∀ c ∈ after.takeWhile RegexLiteral.isFlag, RegexLiteral.isFlag c = true :=
    fun c hc => List.mem_takeWhile_imp hc
  have hCode : ∀ c ∈ after.takeWhile RegexLiteral.isFlag, isQuote c = false ∧ c ≠ '/' := by
    intro c hc
    obtain ⟨hQuote, hSlash, -⟩ := code_of_isFlag (hFlags c hc)
    exact ⟨hQuote, hSlash⟩
  rw [hv, List.cons_append] at hText hRest ⊢
  rw [commentsFrom_cons, readToken_of_regex .extended 0 hPlain' hOpens, hText, hRest]
  have hTaken : commentsFrom o (('/' :: v).reverse ++ kept) (after.takeWhile RegexLiteral.isFlag ++
        after.dropWhile RegexLiteral.isFlag) =
      commentsFrom o ((after.takeWhile RegexLiteral.isFlag).reverse ++
        (('/' :: v).reverse ++ kept)) (after.dropWhile RegexLiteral.isFlag) :=
    commentsFrom_plain hCode (opensWithin_flags hFlags _)
  rw [List.takeWhile_append_dropWhile] at hTaken
  rw [hTaken]
  simp [Context.kind]

/-- A token that fits between the text kept before it and the text after it brings no
comment but itself, if it is one. -/
theorem commentsFrom_token {o : Options} {before kept : List Char} {offset : Nat} {c : Char}
    {cs after : List Char}
    (hAlike : EndsAlike (readToken .extended o before offset c cs).rest after)
    (hFits : fits o before kept ⟨(readToken .extended o before offset c cs).context,
      (readToken .extended o before offset c cs).text, offset⟩ after = true) :
    commentsFrom o kept ((readToken .extended o before offset c cs).text ++ after) =
      (if (readToken .extended o before offset c cs).context.kind = .comment then
        [(readToken .extended o before offset c cs).text] else []) ++
      commentsFrom o ((readToken .extended o before offset c cs).text.reverse ++ kept) after := by
  obtain ⟨v, hv, -⟩ := (readToken_splits .extended o before offset c cs).exists_cons
  by_cases hKind : (readToken .extended o before offset c cs).context.kind ∈
      [Token.Kind.string, .template, .comment]
  · -- Strings, templates and comments are read as before.
    have hCons : c :: (v ++ after) = (readToken .extended o before offset c cs).text ++ after := by
      rw [hv]
      rfl
    obtain ⟨hText, hRest, hContext⟩ := readToken_withRest hKind hAlike kept 0 hCons
    rw [← hCons, commentsFrom_cons, hText, hRest, hContext]
  have hBranch := readToken_branch .extended o before offset c cs
  generalize readToken .extended o before offset c cs = r at *
  cases hBranch with
  | string => simp [Context.kind] at hKind
  | template => simp at hKind
  | delimited => simp [Context.kind] at hKind
  | line => simp [Context.kind] at hKind
  | regex hSlash hPlain hOpens =>
    subst hSlash
    have hKept : RegexLiteral.opensAfter o.maxLookback kept = true := by
      simpa [fits, Token.kind, Context.kind, sameVerdict, hOpens] using hFits
    rw [commentsFrom_regex hPlain hKept hAlike]
    simp [Context.kind]
  | code hQuote hPlain hDivides =>
    obtain ⟨more, hMore, hCode⟩ := text_readCode c cs
    simp only [fits, Token.kind, Scan.context_readCode, Context.kind, hMore, opensWithin,
      Bool.and_eq_true, Bool.not_eq_true', Bool.or_eq_false_iff] at hFits
    obtain ⟨⟨hHere, hLater⟩, hVerdict⟩ := hFits
    have hKept : c = '/' → RegexLiteral.opensAfter o.maxLookback kept = false := by
      intro hSlash
      simpa [sameVerdict, hSlash, hDivides hSlash] using hVerdict
    rw [hMore, List.cons_append, commentsFrom_code hQuote hHere hKept,
      commentsFrom_plain hCode hLater]
    simp [Context.kind]

/-! ## The whole output -/

/-- The tokens that an engine keeps, put together. -/
def keptText (e : Engine) (ts : List Token) : List Char :=
  (ts.filter (Remover.keepsToken e)).flatMap (·.text)

/-- Whether all tokens that are kept fit where they come to stand. The texts are those
before the tokens in the input and in the output, with the last character first. -/
def seamlessFrom (o : Options) (e : Engine) : (before kept : List Char) → List Token → Bool
  | _, _, [] => true
  | before, kept, t :: ts =>
    if Remover.keepsToken e t then
      fits o before kept t (keptText e ts) &&
        seamlessFrom o e (t.text.reverse ++ before) (t.text.reverse ++ kept) ts
    else seamlessFrom o e (t.text.reverse ++ before) kept ts

theorem keptText_cons_of_pos {e : Engine} {t : Token} (h : Remover.keepsToken e t = true)
    (ts : List Token) : keptText e (t :: ts) = t.text ++ keptText e ts := by
  rw [keptText, List.filter_cons_of_pos h, List.flatMap_cons]
  rfl

theorem keptText_cons_of_neg {e : Engine} {t : Token} (h : ¬ Remover.keepsToken e t = true)
    (ts : List Token) : keptText e (t :: ts) = keptText e ts := by
  rw [keptText, List.filter_cons_of_neg h]
  rfl

theorem keptText_congr {e e' : Engine} {ts : List Token}
    (h : ∀ t ∈ ts, Remover.keepsToken e t = Remover.keepsToken e' t) :
    keptText e ts = keptText e' ts := by
  rw [keptText, keptText, List.filter_congr h]

/-- Whether the seams hold depends on which tokens are kept, and on nothing else of the engine. -/
theorem seamlessFrom_congr {o : Options} {e e' : Engine} {before kept : List Char}
    {ts : List Token} (h : ∀ t ∈ ts, Remover.keepsToken e t = Remover.keepsToken e' t) :
    seamlessFrom o e before kept ts = seamlessFrom o e' before kept ts := by
  induction ts generalizing before kept with
  | nil => rfl
  | cons t ts ih =>
    have hMore : ∀ u ∈ ts, Remover.keepsToken e u = Remover.keepsToken e' u := fun u hu =>
      h u (List.mem_cons_of_mem _ hu)
    rw [seamlessFrom, seamlessFrom, h t (List.mem_cons_self ..), keptText_congr hMore, ih hMore,
      ih hMore]

/-- A line end is a token of code, which is kept: what is left of a text ends its line if
the text did. -/
theorem endsAlike_keptText (o : Options) (e : Engine) (before : List Char) (offset : Nat)
    (cs : List Char) :
    EndsAlike cs (keptText e (tokensOf (pieces .extended o before offset cs))) := by
  constructor
  · rintro rfl
    rw [pieces_nil]
    rfl
  · intro hHead
    obtain ⟨more, rfl⟩ := List.head?_eq_some_iff.mp hHead
    have hPlain : opensComment ('\n' :: more) = false := by
      simp [opensComment, startsWith, stripStart?, Comment.Style.opening, Comment.lineOpening]
    have hRead : readToken .extended o before offset '\n' more = readCode '\n' more :=
      readToken_of_code .extended offset rfl hPlain fun h => absurd h (by decide)
    rw [pieces_cons, hRead, tokensOf_cons, keptText_cons_of_pos rfl]
    rfl

/-- The comments of the output are the comments that were kept. -/
theorem commentsFrom_kept {o : Options} {e : Engine} {before kept : List Char} {offset : Nat}
    {cs : List Char}
    (h : seamlessFrom o e before kept (tokensOf (pieces .extended o before offset cs)) = true) :
    commentsFrom o kept (keptText e (tokensOf (pieces .extended o before offset cs))) =
      ((tokensOf (pieces .extended o before offset cs)).filter fun t =>
        t.isComment && Remover.keepsToken e t).map (·.text) := by
  -- Along the tokens of the input; the text kept so far may be any, as long as they fit.
  induction before, offset, cs using pieces_induction .extended o generalizing kept with
  | nil before offset =>
    rw [pieces_nil]
    show commentsFrom o kept [] = []
    rw [commentsFrom, pieces_nil]
    rfl
  | cons before offset c cs ih =>
    have hAlike := endsAlike_keptText o e
      ((readToken .extended o before offset c cs).text.reverse ++ before)
      (offset + byteLength (readToken .extended o before offset c cs).text)
      (readToken .extended o before offset c cs).rest
    rw [pieces_cons, tokensOf_cons] at h ⊢
    rw [seamlessFrom] at h
    split at h
    · rename_i hKeeps
      obtain ⟨hFits, hMore⟩ := Bool.and_eq_true_iff.mp h
      rw [keptText_cons_of_pos hKeeps, commentsFrom_token hAlike hFits, ih hMore]
      by_cases hComment : (readToken .extended o before offset c cs).context.kind = .comment
      · rw [if_pos hComment, List.filter_cons_of_pos (by simp [Token.isComment, Token.kind,
          hComment, hKeeps])]
        rfl
      · rw [if_neg hComment, List.filter_cons_of_neg (by simp [Token.isComment, Token.kind,
          hComment])]
        rfl
    · rename_i hDrops
      rw [keptText_cons_of_neg hDrops, ih h, List.filter_cons_of_neg (by simp [hDrops])]

end Scan

namespace Remover

/-- Whether dropping the comments of a text leaves no seam at which the rest is read in
another way: no comment opens there, and no slash changes its meaning. -/
def seamless (r : Remover) (content : List Char) : Bool :=
  Scan.seamlessFrom r.tokenizer.options r.engine [] [] (r.tokenizer.clear.tokenize content).1

theorem content_reassemble (e : Engine) (content : List Char) (tokens : List Token) (log : Log) :
    (reassemble e content tokens log).content = Scan.keptText e tokens := by
  simp only [reassemble, Scan.keptText, List.filter_map, List.flatMap_map]
  rfl

/-- Tokens that are all kept give back the text that they cut up. -/
theorem reassemble_of_keeps {e : Engine} {content : List Char} {tokens : List Token} (log : Log)
    (hJoins : tokens.flatMap (·.text) = content) (hKeeps : ∀ t ∈ tokens, keepsToken e t = true) :
    (reassemble e content tokens log).content = content ∧
      (reassemble e content tokens log).removed = 0 := by
  constructor
  · rw [content_reassemble, Scan.keptText, List.filter_eq_self.mpr hKeeps, hJoins]
  · simp only [reassemble, List.countP_map]
    rw [List.countP_eq_zero]
    intro t ht
    simp [hKeeps t ht]

/-- What is left is no longer than the tokens. -/
theorem byteLength_keptText_le (e : Engine) (tokens : List Token) :
    byteLength (Scan.keptText e tokens) ≤ byteLength (tokens.flatMap (·.text)) := by
  induction tokens with
  | nil => exact Nat.le_refl _
  | cons t tokens ih =>
    rw [List.flatMap_cons, byteLength_append]
    by_cases hKeeps : keepsToken e t = true
    · rw [Scan.keptText_cons_of_pos hKeeps, byteLength_append]
      omega
    · rw [Scan.keptText_cons_of_neg hKeeps]
      omega

/-- All tokens of the output are kept: its comments are comments that were kept. -/
theorem keepsToken_of_mem_output {o : Options} {e : Engine} {content : List Char}
    (h : Scan.seamlessFrom o e [] []
      (Scan.tokensOf (Scan.pieces .extended o [] 0 content)) = true) :
    ∀ t ∈ Scan.tokensOf (Scan.pieces .extended o [] 0
        (Scan.keptText e (Scan.tokensOf (Scan.pieces .extended o [] 0 content)))),
      keepsToken e t = true := by
  intro t ht
  obtain ⟨p, hp, rfl⟩ := List.mem_map.mp ht
  by_cases hComment : p.token.isComment = true
  · have hMem : p.token.text ∈ Scan.commentsFrom o []
        (Scan.keptText e (Scan.tokensOf (Scan.pieces .extended o [] 0 content))) :=
      List.mem_map.mpr ⟨p, List.mem_filter.mpr ⟨hp, hComment⟩, rfl⟩
    rw [Scan.commentsFrom_kept h] at hMem
    obtain ⟨u, hu, hText⟩ := List.mem_map.mp hMem
    obtain ⟨-, hKept⟩ := List.mem_filter.mp hu
    obtain ⟨hCommentOld, hKeeps⟩ := Bool.and_eq_true_iff.mp hKept
    -- The engine judges by the text alone.
    simp only [keepsToken, hCommentOld, Bool.not_true, Bool.false_or] at hKeeps
    rw [keepsToken, ← hText, hKeeps, Bool.or_true]
  · simp [keepsToken, hComment]

/-- **Processing the output again drops nothing.** With a factor of at least one, and if
dropping comments leaves no seam at which the rest is read in another way, the remover
returns its own output unchanged.

The length of a text is a machine word. -/
theorem process_process (r : Remover) (content : List Char) (extension : String)
    (hFactor : 1 ≤ r.tokenizer.options.iterationFactor) (hWord : byteLength content ≤ maxWord)
    (hSeamless : r.seamless content = true) :
    ((r.process content extension).2.process (r.process content extension).1.content
        extension).1.content = (r.process content extension).1.content ∧
      ((r.process content extension).2.process (r.process content extension).1.content
        extension).1.removed = 0 := by
  have hFirst : (r.process content extension).1.content =
      Scan.keptText r.engine (r.allTokens content) := by
    rw [process_eq_reassemble hFactor hWord, content_reassemble]
  have hShorter : byteLength (Scan.keptText r.engine (r.allTokens content)) ≤ maxWord := by
    have hLe := byteLength_keptText_le r.engine (r.allTokens content)
    rw [(r.partition_allTokens content).joins] at hLe
    exact Nat.le_trans hLe hWord
  obtain ⟨log, hSecond⟩ := process_after hFactor hShorter content extension
  rw [hFirst, hSecond]
  apply reassemble_of_keeps
  · exact (r.partition_allTokens _).joins
  · rw [seamless, tokens_eq_allTokens hFactor hWord] at hSeamless
    exact keepsToken_of_mem_output hSeamless

end Remover

/-! ## Seams that matter -/

namespace Rule.Builtin

/-- The shortest comments with a terminator. -/
def emptyComments : List (List Char) :=
  [['/', '*', '*', '/'], ['<', '!', '-', '-', '-', '-', '>']]

/-- No built-in pattern occurs in them: what each was read as is searched for in both. -/
theorem occursIn_emptyComments :
    ∀ r ∈ all, ∀ text ∈ emptyComments, r.pattern.occursIn text = false := by
  intro r hr
  simp only [all, List.mem_cons, List.not_mem_nil, or_false] at hr
  rcases hr with rfl | rfl | rfl | rfl
  · rw [framework_pattern]
    decide +kernel
  · rw [tooling_pattern]
    decide +kernel
  · rw [documentation_pattern]
    decide +kernel
  · rw [development_pattern]
    decide +kernel

/-- The built-in rules keep no comment that is empty. -/
theorem keeps_default_empty : ∀ text ∈ emptyComments, Engine.default.keeps text = false := by
  intro text hText
  rw [Engine.keeps, List.any_eq_false]
  intro r hr
  rw [Engine.selects, Rule.applies, occursIn_emptyComments r hr text hText, Bool.and_false]
  exact Bool.false_ne_true

end Rule.Builtin

namespace Remover

/-- The remover of the default configuration. -/
def standard : Remover where
  config := {}
  tokenizer := .new ({} : Config).options
  engine := .default

theorem make_default : make {} = .ok standard := rfl

theorem tokens_standard {content : List Char} (hWord : byteLength content ≤ maxWord) :
    standard.allTokens content = (standard.tokenizer.clear.tokenize content).1 :=
  (tokens_eq_allTokens (by decide) hWord).symm

/-- Where all comments are empty, the built-in rules keep what an engine without rules
keeps. -/
theorem keepsToken_standard {t : Token}
    (h : t.isComment = true → t.text ∈ Rule.Builtin.emptyComments) :
    keepsToken standard.engine t = keepsToken .empty t := by
  cases hComment : t.isComment with
  | false => simp [keepsToken, hComment]
  | true =>
    have hDrops := Rule.Builtin.keeps_default_empty t.text (h hComment)
    rw [← Engine.keep_classify] at hDrops
    simp only [keepsToken, hComment, Bool.not_true, Bool.false_or]
    exact hDrops

/-- A comment after a division and a blank leaves no seam. -/
theorem process_process_division :
    (1 ≤ standard.tokenizer.options.iterationFactor ∧
      byteLength ['a', '/', 'b', ' ', '/', '*', '*', '/', 'c'] ≤ maxWord ∧
      standard.seamless ['a', '/', 'b', ' ', '/', '*', '*', '/', 'c'] = true) ∧
    ((standard.process ['a', '/', 'b', ' ', '/', '*', '*', '/', 'c'] "js").2.process
        (standard.process ['a', '/', 'b', ' ', '/', '*', '*', '/', 'c'] "js").1.content
        "js").1.content =
      (standard.process ['a', '/', 'b', ' ', '/', '*', '*', '/', 'c'] "js").1.content ∧
    ((standard.process ['a', '/', 'b', ' ', '/', '*', '*', '/', 'c'] "js").2.process
        (standard.process ['a', '/', 'b', ' ', '/', '*', '*', '/', 'c'] "js").1.content
        "js").1.removed = 0 := by
  have hFactor : 1 ≤ standard.tokenizer.options.iterationFactor := by decide
  have hWord : byteLength ['a', '/', 'b', ' ', '/', '*', '*', '/', 'c'] ≤ maxWord := by decide
  have hTokens : (standard.tokenizer.clear.tokenize
      ['a', '/', 'b', ' ', '/', '*', '*', '/', 'c']).1 =
      [⟨.code, ['a'], 0⟩, ⟨.code, ['/', 'b', ' '], 1⟩, ⟨.comment, ['/', '*', '*', '/'], 4⟩,
        ⟨.code, ['c'], 8⟩] := by
    decide +kernel
  have hSeamless : standard.seamless ['a', '/', 'b', ' ', '/', '*', '*', '/', 'c'] = true := by
    -- No rule keeps the comment, so that the seams can be computed without searching.
    rw [seamless, hTokens, Scan.seamlessFrom_congr fun t ht => keepsToken_standard (by
      revert t
      decide)]
    decide +kernel
  exact ⟨⟨hFactor, hWord, hSeamless⟩, process_process standard _ "js" hFactor hWord hSeamless⟩

/-- Dropping a comment can open another one: of `</**/!---->` the characters `<!---->` are
left, which are dropped as a comment when the output is processed again. -/
theorem process_process_opens :
    ¬ ∀ r, make {} = .ok r → ∀ content extension,
      ((r.process content extension).2.process (r.process content extension).1.content
          extension).1.content = (r.process content extension).1.content ∧
        ((r.process content extension).2.process (r.process content extension).1.content
          extension).1.removed = 0 := by
  intro hAll
  have hAgain := (hAll standard make_default
    ['<', '/', '*', '*', '/', '!', '-', '-', '-', '-', '>'] "js").2
  have hFactor : 1 ≤ standard.tokenizer.options.iterationFactor := by decide
  have hWord : byteLength ['<', '/', '*', '*', '/', '!', '-', '-', '-', '-', '>'] ≤ maxWord := by
    decide
  have hWord' : byteLength ['<', '!', '-', '-', '-', '-', '>'] ≤ maxWord := by decide
  have hTokens : (standard.tokenizer.clear.tokenize
      ['<', '/', '*', '*', '/', '!', '-', '-', '-', '-', '>']).1 =
      [⟨.code, ['<'], 0⟩, ⟨.comment, ['/', '*', '*', '/'], 1⟩,
        ⟨.code, ['!', '-', '-', '-', '-', '>'], 5⟩] := by
    decide +kernel
  have hTokens' : (standard.tokenizer.clear.tokenize ['<', '!', '-', '-', '-', '-', '>']).1 =
      [⟨.comment, ['<', '!', '-', '-', '-', '-', '>'], 0⟩] := by
    decide +kernel
  -- Without the comment between them the bracket and the mark open a comment.
  have hFirst : (standard.process ['<', '/', '*', '*', '/', '!', '-', '-', '-', '-', '>']
      "js").1.content = ['<', '!', '-', '-', '-', '-', '>'] := by
    rw [process_eq_reassemble hFactor hWord, content_reassemble, tokens_standard hWord, hTokens,
      Scan.keptText_congr fun t ht => keepsToken_standard (by revert t; decide)]
    decide +kernel
  obtain ⟨log, hSecond⟩ := process_after hFactor hWord'
    ['<', '/', '*', '*', '/', '!', '-', '-', '-', '-', '>'] "js"
  rw [hFirst, hSecond, tokens_standard hWord', hTokens'] at hAgain
  have hDrops : keepsToken standard.engine ⟨.comment, ['<', '!', '-', '-', '-', '-', '>'], 0⟩ =
      false := keepsToken_standard fun _ => by decide
  simp [reassemble, hDrops] at hAgain

end Remover

end CommentSieve
