import CommentSieve.Proofs.Extents
import CommentSieve.Proofs.LineLookup
import CommentSieve.Proofs.Prefixes

/-!
# A slash after a comment

Whether a slash divides or opens a regular expression is decided by the character before it,
whatever token that character belongs to. After a block comment it is the slash that ends the
comment, and a slash is among the operators. So a comment in front of a division makes the
rest of the line, up to the next slash, a regular expression.

The tokens before the slash do not matter for this: where a token starts with a slash, those
before it stay the same whatever text follows the slash.

Main results:

* `Scan.readToken_slash` — a token before a slash does not depend on what follows the slash.
* `Scan.exists_front_of_slash` — neither do all tokens before it.
* `Tokenizer.regex_after_comment` — after a comment every division is a regular expression.
-/

namespace CommentSieve

open Text

namespace Scan

/-! ## Tokens before a slash -/

/-- Whether a comment opens is seen from its first two characters, or from a slash after it. -/
theorem opensComment_before_slash (c : Char) (w v x : List Char) :
    opensComment (c :: (w ++ '/' :: v)) = opensComment (c :: (w ++ '/' :: x)) := by
  -- all is decided by the text up to the slash, which is common to both
  have hPieces : ∀ rest, c :: (w ++ '/' :: rest) = (c :: (w ++ ['/'])) ++ rest := by simp
  have hShort : ∀ start : List Char, start.length = 2 → ∀ rest,
      startsWith start (c :: (w ++ '/' :: rest)) = startsWith start (c :: (w ++ ['/'])) := by
    intro start hLength rest
    rw [hPieces, startsWith, startsWith,
      stripStart?_append_of_le (by simp [hLength]), Option.isSome_map]
  have hHtml : ∀ rest, startsWith Comment.Style.html.opening (c :: (w ++ '/' :: rest)) =
      startsWith Comment.Style.html.opening (c :: (w ++ ['/'])) := by
    intro rest
    rw [hPieces]
    exact startsWith_append_of_mem (show '/' ∉ Comment.Style.html.opening by decide) (by simp) rest
  simp only [opensComment, hHtml, hShort Comment.Style.block.opening rfl,
    hShort Comment.lineOpening rfl]

/-- A token that ends before a slash does not depend on what follows the slash. -/
theorem readToken_slash {o : Options} {before : List Char} {offset : Nat} {c : Char}
    {cs w v : List Char}
    (hRest : (readToken .extended o before offset c cs).rest = w ++ '/' :: v) (x : List Char)
    {cs' : List Char}
    (hCs : c :: cs' = (readToken .extended o before offset c cs).text ++ (w ++ '/' :: x)) :
    (readToken .extended o before offset c cs').context =
        (readToken .extended o before offset c cs).context ∧
      (readToken .extended o before offset c cs').text =
        (readToken .extended o before offset c cs).text ∧
      (readToken .extended o before offset c cs').rest = w ++ '/' :: x := by
  have hSplits := readToken_splits .extended o before offset c cs
  -- both texts go on with the same character, be it the slash
  obtain ⟨d, y, y', hGoesOn, hGoesOn'⟩ :
      ∃ d y y', w ++ '/' :: v = d :: y ∧ w ++ '/' :: x = d :: y' := by
    cases w with
    | nil => exact ⟨'/', v, x, rfl, rfl⟩
    | cons d w => exact ⟨d, _, _, rfl, rfl⟩
  have hAlike : EndsAlike (readToken .extended o before offset c cs).rest (w ++ '/' :: x) := by
    rw [hRest, hGoesOn, hGoesOn']
    exact ⟨fun hNil => absurd hNil (List.cons_ne_nil d y), id⟩
  by_cases hKind : (readToken .extended o before offset c cs).context.kind ∈
      [Token.Kind.string, .template, .comment]
  · obtain ⟨hText, hLeft, hContext⟩ := readToken_withRest hKind hAlike before offset hCs
    exact ⟨hContext, hText, hLeft⟩
  obtain ⟨more, hMore, hBefore⟩ := hSplits.exists_cons
  have hAfter : cs' = more ++ (w ++ '/' :: x) := by
    rw [hMore] at hCs
    exact (List.cons.inj hCs).2
  have hOpens : opensComment (c :: cs') = opensComment (c :: cs) := by
    rw [hAfter, hBefore, hRest, ← List.append_assoc, ← List.append_assoc]
    exact opensComment_before_slash c (more ++ w) x v
  have hBranch := readToken_branch .extended o before offset c cs
  generalize readToken .extended o before offset c cs = r at *
  cases hBranch with
  | string => simp [Context.kind] at hKind
  | template => simp at hKind
  | delimited => simp [Context.kind] at hKind
  | line => simp [Context.kind] at hKind
  | regex hSlash hPlain hLiteral =>
    subst hSlash
    -- the character after the literal was no flag, and still is not
    have hFlags := RegexLiteral.takeWhile_rest_read offset cs
    rw [hRest, hGoesOn] at hFlags
    have hFlag : ¬ RegexLiteral.isFlag d = true := by
      intro hFlag
      rw [List.takeWhile_cons_of_pos hFlag] at hFlags
      exact List.cons_ne_nil _ _ hFlags
    obtain ⟨hText, hLeft⟩ := RegexLiteral.read_withRest hAlike offset
    rw [← hCs, hGoesOn', List.takeWhile_cons_of_neg hFlag, List.append_nil] at hText
    rw [← hCs, hGoesOn', List.dropWhile_cons_of_neg hFlag] at hLeft
    rw [readToken_of_regex .extended offset (hOpens.trans hPlain) hLiteral, hText, hLeft, hGoesOn']
    exact ⟨by simp, rfl, rfl⟩
  | code hQuote hPlain hDivides =>
    -- a run of code goes no further than the slash
    have hRun : ∀ rest, readCode c (more ++ (w ++ '/' :: rest)) =
        { readCode c (more ++ w ++ ['/']) with
          rest := (readCode c (more ++ w ++ ['/'])).rest ++ rest } := by
      intro rest
      have hPieces : more ++ (w ++ '/' :: rest) = more ++ w ++ ['/'] ++ rest := by simp
      rw [hPieces]
      exact readCode_append (show endsCode '/' = true by decide) (.inr (by simp)) rest
    rw [hRest] at hBefore
    rw [readToken_of_code .extended offset hQuote (hOpens.trans hPlain) hDivides, hAfter, hRun]
    rw [hBefore, hRun] at hRest ⊢
    have hEnd : (readCode c (more ++ w ++ ['/'])).rest = w ++ ['/'] := by
      have hSame : (readCode c (more ++ w ++ ['/'])).rest ++ v = w ++ ['/'] ++ v := by
        simpa using hRest
      exact List.append_cancel_right hSame
    refine ⟨rfl, rfl, ?_⟩
    show (readCode c (more ++ w ++ ['/'])).rest ++ x = w ++ '/' :: x
    rw [hEnd, List.append_assoc, List.singleton_append]

/-- **Where a token starts with a slash**, the tokens before it are the same whatever follows
the slash, and it is read there after the text before it. -/
theorem exists_front_of_slash {o : Options} {before u v : List Char} {offset : Nat} {p : Piece}
    (hp : p ∈ pieces .extended o before offset (u ++ '/' :: v))
    (hStart : p.token.start = offset + byteLength u) :
    (p.token.context =
      (readToken .extended o (u.reverse ++ before) (offset + byteLength u) '/' v).context) ∧
    ∃ front, ∀ x, tokensOf (pieces .extended o before offset (u ++ '/' :: x)) =
      front ++ tokensOf (pieces .extended o (u.reverse ++ before) (offset + byteLength u)
        ('/' :: x)) := by
  -- the induction is on the text before the slash, which loses a token at each step
  induction hLength : u.length using Nat.strong_induction_on generalizing u before offset with
  | _ n ih =>
  cases u with
  | nil =>
    rw [List.nil_append, pieces_cons, List.mem_cons] at hp
    refine ⟨?_, [], fun x => by simp⟩
    rcases hp with rfl | hp
    · rfl
    · -- later tokens start later
      obtain ⟨z, _, _, _, -, -, hLater⟩ := exists_read_of_mem_pieces hp
      have hPos := byteLength_pos (readToken_splits .extended o before offset '/' v).ne_nil
      rw [hLater, byteLength_nil] at hStart
      dsimp only at hStart
      omega
  | cons d u =>
    have hSplits := readToken_splits .extended o before offset d (u ++ '/' :: v)
    have hPos : 0 < d.utf8Size := Char.utf8Size_pos d
    rw [List.cons_append, pieces_cons, List.mem_cons] at hp
    rcases hp with rfl | hp
    · simp only [byteLength_cons] at hStart
      omega
    -- the first token ends before the slash, or there would be no token that starts there
    obtain ⟨w, hw⟩ : (readToken .extended o before offset d (u ++ '/' :: v)).text <+: d :: u := by
      obtain ⟨z, _, _, _, -, -, hLater⟩ := exists_read_of_mem_pieces hp
      refine prefix_of_byteLength_le ⟨_, hSplits.append⟩ (List.prefix_append (d :: u) ('/' :: v)) ?_
      rw [hLater] at hStart
      dsimp only at hStart
      omega
    have hRest : (readToken .extended o before offset d (u ++ '/' :: v)).rest = w ++ '/' :: v := by
      have hAppend := hSplits.append
      rw [← List.cons_append, ← hw, List.append_assoc] at hAppend
      exact List.append_cancel_left hAppend
    generalize hRead : readToken .extended o before offset d (u ++ '/' :: v) = r at *
    have hReverse : (d :: u).reverse ++ before = w.reverse ++ (r.text.reverse ++ before) := by
      rw [← hw, List.reverse_append, List.append_assoc]
    have hBytes : offset + byteLength (d :: u) = offset + byteLength r.text + byteLength w := by
      rw [← hw, byteLength_append, Nat.add_assoc]
    rw [hRest] at hp
    rw [hBytes] at hStart
    have hShorter : w.length < n := by
      have hText : 0 < r.text.length := List.length_pos_iff.mpr hSplits.ne_nil
      have hTotal := congrArg List.length hw
      simp only [List.length_append] at hTotal
      omega
    obtain ⟨hContext, front, hFront⟩ := ih w.length hShorter hp hStart rfl
    refine ⟨by rw [hContext, hReverse, hBytes], ⟨r.context, r.text, offset⟩ :: front, fun x => ?_⟩
    have hCs' : d :: (u ++ '/' :: x) =
        (readToken .extended o before offset d (u ++ '/' :: v)).text ++ (w ++ '/' :: x) := by
      rw [hRead, ← List.append_assoc, hw, List.cons_append]
    obtain ⟨hContext', hText', hRest'⟩ := readToken_slash (hRead ▸ hRest) x hCs'
    rw [hRead] at hContext' hText'
    rw [List.cons_append, pieces_cons, tokensOf_cons, hContext', hText', hRest', hFront, hReverse,
      hBytes, List.cons_append]

end Scan

/-! ## A comment before the slash -/

/-- A block comment ends at its own terminator. -/
theorem splitAround?_block {inner : List Char} (h : ¬ Comment.Style.block.terminator <:+: inner)
    (rest : List Char) :
    splitAround? Comment.Style.block.terminator
      (inner ++ (Comment.Style.block.terminator ++ rest)) = some (inner, rest) := by
  induction inner with
  | nil => exact splitAround?_of_some (stripStart?_append ..)
  | cons c inner ih =>
    have hLater : ¬ Comment.Style.block.terminator <:+: inner := fun hInfix =>
      h (hInfix.trans (List.suffix_cons c inner).isInfix)
    -- a star here is followed by a character of the comment or by another star
    have hHere : stripStart? Comment.Style.block.terminator
        (c :: (inner ++ (Comment.Style.block.terminator ++ rest))) = none := by
      by_cases hStar : c = '*'
      · subst hStar
        cases inner with
        | nil => rfl
        | cons d inner =>
          have hSlash : '/' ≠ d := by
            rintro rfl
            exact h ⟨[], inner, rfl⟩
          simp [stripStart?, Comment.Style.terminator, hSlash]
      · simp [stripStart?, Comment.Style.terminator, Ne.symm hStar]
    rw [List.cons_append, splitAround?_cons_of_none hHere, ih hLater]
    rfl

theorem RegexLiteral.opensAfter_slash (limit : Nat) (before : List Char) :
    opensAfter limit ('/' :: before) = true := by
  cases limit <;> rfl

namespace Scan

/-- A slash that divides starts no comment. -/
theorem opensComment_of_code {o : Options} {before : List Char} {offset : Nat} {cs : List Char}
    (h : (readToken .extended o before offset '/' cs).context.kind = .code) :
    opensComment ('/' :: cs) = false := by
  have hBranch := readToken_branch .extended o before offset '/' cs
  generalize readToken .extended o before offset '/' cs = r at *
  cases hBranch with
  | string hQuote => simp at hQuote
  | template hTick => simp at hTick
  | delimited => simp [Context.kind] at h
  | line => simp [Context.kind] at h
  | regex => simp [Context.kind] at h
  | code _ hPlain _ => exact hPlain

/-- A block comment and a slash that starts no comment: the slash opens a regular expression. -/
theorem tokensOf_comment_slash (o : Options) (before : List Char) (offset : Nat)
    {inner v : List Char} (hInner : ¬ Comment.Style.block.terminator <:+: inner)
    (hPlain : opensComment ('/' :: v) = false) :
    ∃ literal rest,
      tokensOf (pieces .extended o before offset
          ('/' :: '*' :: (inner ++ '*' :: '/' :: '/' :: v))) =
        ⟨.comment, '/' :: '*' :: (inner ++ ['*', '/']), offset⟩ ::
          ⟨.regex, '/' :: literal, offset + (byteLength inner + 4)⟩ :: rest := by
  have hComment : readToken .extended o before offset '/'
      ('*' :: (inner ++ '*' :: '/' :: '/' :: v)) =
        { context := .comment, text := '/' :: '*' :: (inner ++ ['*', '/']), rest := '/' :: v } := by
    have hStarts : startsWith Comment.Style.block.opening
        ('/' :: '*' :: (inner ++ '*' :: '/' :: '/' :: v)) = true :=
      Comment.startsWith_append Comment.Style.block.opening _
    rw [readToken_of_delimited .extended o before offset hStarts]
    exact Comment.read_closed (splitAround?_block hInner ('/' :: v)) offset
  have hBytes : byteLength ('/' :: '*' :: (inner ++ ['*', '/'])) = byteLength inner + 4 := by
    have hSlash : '/'.utf8Size = 1 := by decide
    have hStar : '*'.utf8Size = 1 := by decide
    simp only [byteLength_cons, byteLength_append, byteLength_nil, hSlash, hStar]
    omega
  -- the character before the slash is the one that ends the comment
  have hOpens : RegexLiteral.opensAfter o.maxLookback
      (('/' :: '*' :: (inner ++ ['*', '/'])).reverse ++ before) = true := by
    simp [RegexLiteral.opensAfter_slash]
  have hSplits := RegexLiteral.read_splits (offset + (byteLength inner + 4)) v
  obtain ⟨literal, hLiteral, -⟩ := hSplits.exists_cons
  rw [pieces_cons, hComment, tokensOf_cons, hBytes, pieces_cons, tokensOf_cons,
    readToken_of_regex .extended _ hPlain hOpens, RegexLiteral.context_read, hLiteral]
  exact ⟨literal, _, rfl⟩

end Scan

namespace Tokenizer

/-- **After a comment every division is a regular expression.** If a slash divides, a block
comment put in front of it is a token of its own, and the slash after it starts a regular
expression. -/
theorem regex_after_comment {u inner v : List Char} {t : Token}
    (hInner : ¬ ['*', '/'] <:+: inner)
    (hWord : byteLength (u ++ '/' :: '*' :: (inner ++ '*' :: '/' :: '/' :: v)) ≤ maxWord)
    (hToken : t ∈ ((new {}).tokenize (u ++ '/' :: v)).1) (hCode : t.kind = .code)
    (hStart : t.start = byteLength u) :
    ∃ front literal rest,
      ((new {}).tokenize (u ++ '/' :: '*' :: (inner ++ '*' :: '/' :: '/' :: v))).1 =
        front ++ ⟨.comment, '/' :: '*' :: (inner ++ ['*', '/']), byteLength u⟩ ::
          ⟨.regex, '/' :: literal, byteLength u + (byteLength inner + 4)⟩ :: rest := by
  have hShort : byteLength (u ++ '/' :: v) ≤ maxWord := by
    simp only [byteLength_append, byteLength_cons] at hWord ⊢
    omega
  rw [tokens_new (by decide) hShort] at hToken
  rw [tokens_new (by decide) hWord]
  obtain ⟨p, hp, rfl⟩ := List.mem_map.mp hToken
  obtain ⟨hContext, front, hFront⟩ :=
    Scan.exists_front_of_slash hp (by rw [hStart, Nat.zero_add])
  -- A token of code that starts with the slash opens no comment there.
  have hPlain : Scan.opensComment ('/' :: v) = false := by
    rw [Token.kind, hContext] at hCode
    exact Scan.opensComment_of_code hCode
  obtain ⟨literal, rest, hTokens⟩ := Scan.tokensOf_comment_slash {} (u.reverse ++ [])
    (0 + byteLength u) hInner hPlain
  refine ⟨front, literal, rest, ?_⟩
  rw [hFront, hTokens, Nat.zero_add]

/-- The division `a/ b`, and the same with a comment before its slash. -/
theorem regex_after_comment_operand :
    ¬ ['*', '/'] <:+: ['*', 'c'] ∧
    byteLength (['a'] ++ '/' :: '*' :: (['*', 'c'] ++ '*' :: '/' :: '/' :: [' ', 'b'])) ≤ maxWord ∧
    ⟨.code, ['/', ' '], 1⟩ ∈ ((new {}).tokenize (['a'] ++ '/' :: [' ', 'b'])).1 ∧
    ∃ front literal rest,
      ((new {}).tokenize
          (['a'] ++ '/' :: '*' :: (['*', 'c'] ++ '*' :: '/' :: '/' :: [' ', 'b']))).1 =
        front ++ ⟨.comment, '/' :: '*' :: (['*', 'c'] ++ ['*', '/']), 1⟩ ::
          ⟨.regex, '/' :: literal, 7⟩ :: rest := by
  have hInner : ¬ ['*', '/'] <:+: ['*', 'c'] := by decide
  have hWord : byteLength
      (['a'] ++ '/' :: '*' :: (['*', 'c'] ++ '*' :: '/' :: '/' :: [' ', 'b'])) ≤ maxWord := by
    decide
  have hToken : ⟨.code, ['/', ' '], 1⟩ ∈ ((new {}).tokenize (['a'] ++ '/' :: [' ', 'b'])).1 := by
    decide +kernel
  exact ⟨hInner, hWord, hToken, regex_after_comment hInner hWord hToken rfl rfl⟩

/-- A division does not stay one when a comment is put before it. -/
theorem not_division_after_comment :
    ¬ ∀ u inner v : List Char, ¬ ['*', '/'] <:+: inner →
      (∃ t ∈ ((new {}).tokenize (u ++ '/' :: v)).1, t.kind = .code ∧ t.start = byteLength u) →
      ∃ front text rest,
        ((new {}).tokenize (u ++ '/' :: '*' :: (inner ++ '*' :: '/' :: '/' :: v))).1 =
          front ++ ⟨.comment, '/' :: '*' :: (inner ++ ['*', '/']), byteLength u⟩ ::
            ⟨.code, '/' :: text, byteLength u + (byteLength inner + 4)⟩ :: rest := by
  intro hClaim
  have hDivides : ∃ t ∈ ((new {}).tokenize ['a', '/', ' ', 'b']).1,
      t.kind = .code ∧ t.start = byteLength ['a'] :=
    ⟨⟨.code, ['/', ' '], 1⟩, by decide +kernel, rfl, rfl⟩
  obtain ⟨front, text, rest, hTokens⟩ := hClaim ['a'] [] [' ', 'b'] (by decide) hDivides
  have hAll : ((new {}).tokenize
      (['a'] ++ '/' :: '*' :: ([] ++ '*' :: '/' :: '/' :: [' ', 'b']))).1 =
      [⟨.code, ['a'], 0⟩, ⟨.comment, ['/', '*', '*', '/'], 1⟩, ⟨.regex, ['/', ' ', 'b'], 5⟩] := by
    decide +kernel
  have hMem : (⟨.code, '/' :: text, byteLength ['a'] + (byteLength [] + 4)⟩ : Token) ∈
      [⟨.code, ['a'], 0⟩, ⟨.comment, ['/', '*', '*', '/'], 1⟩, ⟨.regex, ['/', ' ', 'b'], 5⟩] := by
    rw [← hAll, hTokens]
    simp
  simp at hMem

end Tokenizer

end CommentSieve
