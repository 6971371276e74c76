import CommentSieve.Proofs.Locality
import CommentSieve.Proofs.Partition

/-!
# Earlier lines do not depend on later ones

If the tokens of a text end in code with a line end, then they are the first tokens of every
longer text. Each way to read a token looks ahead of it in its own manner; but none looks
past a line end unless the token itself goes on there, and then the text was not yet at its
end or the last token would be another one.

Main results:

* `Scan.readToken_append` — a token is read in the same way with more text after the line.
* `Scan.tokensOf_pieces_append` — so the tokens of a longer text are those of its front, and
  those of the rest.
* `Tokenizer.tokens_of_prefix` — the tokens of the front come first.
-/

namespace CommentSieve

open Text

/-- Where a run of characters starts is seen from a text with a character that does not belong
to the run. -/
theorem Text.stripStart?_append_of_mem {d : Char} {start text : List Char} (hStart : d ∉ start)
    (hText : d ∈ text) (rest : List Char) :
    stripStart? start (text ++ rest) = (stripStart? start text).map (· ++ rest) := by
  induction start generalizing text with
  | nil => rfl
  | cons s start ih =>
    cases text with
    | nil => simp at hText
    | cons c text =>
      rw [List.mem_cons, not_or] at hStart
      rw [List.cons_append, stripStart?, stripStart?]
      split
      · rename_i hSame
        have hMore : d ∈ text := (List.mem_cons.mp hText).resolve_left (hSame ▸ hStart.1)
        exact ih hStart.2 hMore
      · rfl

theorem Text.startsWith_append_of_mem {d : Char} {start text : List Char} (hStart : d ∉ start)
    (hText : d ∈ text) (rest : List Char) :
    startsWith start (text ++ rest) = startsWith start text := by
  rw [startsWith, startsWith, stripStart?_append_of_mem hStart hText, Option.isSome_map]

namespace Scan

/-! ## Code -/

/-- Characters behind which no run of code goes on that has started before them. -/
def endsCode (d : Char) : Bool := isBlank d || d == '/'

/-- No such sign is part of the opening of a comment between tags. -/
theorem not_mem_of_endsCode {d : Char} (h : endsCode d = true) :
    d ∉ Comment.Style.html.opening := by
  intro hMem
  simp only [Comment.Style.opening, List.mem_cons, List.not_mem_nil, or_false] at hMem
  rcases hMem with rfl | rfl | rfl | rfl <;> exact absurd h (by decide)

/-- Whether a comment opens is settled before the line ends. -/
theorem opensComment_append {c : Char} {cs : List Char} (hLine : '\n' ∈ c :: cs)
    (rest : List Char) : opensComment (c :: (cs ++ rest)) = opensComment (c :: cs) := by
  have hSame : ∀ start, '\n' ∉ start →
      startsWith start (c :: (cs ++ rest)) = startsWith start (c :: cs) := fun start hStart =>
    startsWith_append_of_mem hStart hLine rest
  simp only [opensComment, hSame _ (show '\n' ∉ Comment.Style.block.opening by decide),
    hSame _ (show '\n' ∉ Comment.lineOpening by decide),
    hSame _ (show '\n' ∉ Comment.Style.html.opening by decide)]

/-- Whether code ends at a place is settled before the sign. -/
theorem startsConstruct_append {d c : Char} {cs : List Char} (hEnds : endsCode d = true)
    (hMem : d ∈ c :: cs) (rest : List Char) :
    startsConstruct (c :: (cs ++ rest)) = startsConstruct (c :: cs) := by
  have hHtml : startsWith Comment.Style.html.opening (c :: (cs ++ rest)) =
      startsWith Comment.Style.html.opening (c :: cs) :=
    startsWith_append_of_mem (not_mem_of_endsCode hEnds) hMem rest
  rw [startsConstruct, startsConstruct, hHtml]

/-- What is code up to a sign does not depend on what comes after it. -/
theorem splitCode_append_of_mem {d : Char} {cs : List Char} (hEnds : endsCode d = true)
    (hMem : d ∈ cs) (passed rest : List Char) :
    splitCode passed (cs ++ rest) =
      ((splitCode passed cs).1, (splitCode passed cs).2 ++ rest) := by
  induction cs generalizing passed with
  | nil => simp at hMem
  | cons c cs ih =>
    rw [List.cons_append, splitCode, splitCode, startsConstruct_append hEnds hMem]
    split
    · rfl
    · rename_i hPlain
      split
      · rfl
      · rename_i hBlank
        -- the character that ends the run comes later
        have hLater : d ∈ cs := by
          refine (List.mem_cons.mp hMem).resolve_left ?_
          rintro rfl
          have hSlash : d = '/' := by simpa [endsCode, hBlank] using hEnds
          exact hPlain (by simp [startsConstruct, hSlash])
        exact ih hLater (c :: passed)

/-- A run of code that ends at a sign or a blank is read in any text alike. -/
theorem readCode_append {d c : Char} {cs : List Char} (hEnds : endsCode d = true)
    (hMem : isBlank c = true ∨ d ∈ cs) (rest : List Char) :
    readCode c (cs ++ rest) = { readCode c cs with rest := (readCode c cs).rest ++ rest } := by
  unfold readCode
  split
  · rfl
  · rename_i hBlank
    rw [splitCode_append_of_mem hEnds (hMem.resolve_left hBlank)]

end Scan

/-! ## Every token -/

/-- A literal has taken all the flags that follow it. -/
theorem RegexLiteral.takeWhile_rest_read (offset : Nat) (inner : List Char) :
    (read offset ('/' :: inner)).rest.takeWhile isFlag = [] := by
  have hAppend := (read_splits offset inner).append
  have hSame : EndsAlike (read offset ('/' :: inner)).rest (read offset ('/' :: inner)).rest :=
    ⟨id, id⟩
  obtain ⟨hText, -⟩ := read_withRest hSame offset
  rw [hAppend] at hText
  simpa using hText

namespace Scan

/-- A token is read in the same way with more text after the line, if it does not take the
whole text, or is code. -/
theorem readToken_append {o : Options} {before : List Char} {offset : Nat} {c : Char}
    {cs : List Char} (hLine : '\n' ∈ c :: cs)
    (hRest : (readToken .extended o before offset c cs).context.kind ≠ .code →
      (readToken .extended o before offset c cs).rest ≠ []) (rest : List Char) :
    (readToken .extended o before offset c (cs ++ rest)).context =
        (readToken .extended o before offset c cs).context ∧
      (readToken .extended o before offset c (cs ++ rest)).text =
        (readToken .extended o before offset c cs).text ∧
      (readToken .extended o before offset c (cs ++ rest)).rest =
        (readToken .extended o before offset c cs).rest ++ rest := by
  have hAppend := (readToken_splits .extended o before offset c cs).append
  -- text that is left stays in front of what comes to follow
  have hAlike : (readToken .extended o before offset c cs).context.kind ≠ .code →
      EndsAlike (readToken .extended o before offset c cs).rest
        ((readToken .extended o before offset c cs).rest ++ rest) := by
    intro hKind
    refine ⟨fun hNil => absurd hNil (hRest hKind), fun hHead => ?_⟩
    rw [List.head?_append, hHead]
    rfl
  by_cases hKind : (readToken .extended o before offset c cs).context.kind ∈
      [Token.Kind.string, .template, .comment]
  · -- these end at a place that does not depend on the text after them
    have hOther : (readToken .extended o before offset c cs).context.kind ≠ .code := by
      intro hCode
      simp [hCode] at hKind
    have hCs : c :: (cs ++ rest) = (readToken .extended o before offset c cs).text ++
        ((readToken .extended o before offset c cs).rest ++ rest) := by
      rw [← List.append_assoc, hAppend, List.cons_append]
    obtain ⟨hText, hLeft, hContext⟩ :=
      readToken_withRest hKind (hAlike hOther) before offset hCs
    exact ⟨hContext, hText, hLeft⟩
  have hBranch := readToken_branch .extended o before offset c cs
  generalize readToken .extended o before offset c cs = r at *
  cases hBranch with
  | string => simp [Context.kind] at hKind
  | template => simp at hKind
  | delimited => simp [Context.kind] at hKind
  | line => simp [Context.kind] at hKind
  | regex hSlash hPlain hOpens =>
    subst hSlash
    have hPlain' : opensComment ('/' :: (cs ++ rest)) = false := by
      rw [opensComment_append hLine, hPlain]
    obtain ⟨hText, hLeft⟩ := RegexLiteral.read_withRest
      (hAlike (by simp [Context.kind])) offset
    -- the literal takes no more flags than before
    have hFlags := RegexLiteral.takeWhile_rest_read offset cs
    have hNe := hRest (by simp [Context.kind])
    obtain ⟨d, x, hx⟩ := List.exists_cons_of_ne_nil hNe
    have hFirst : RegexLiteral.isFlag d = false := by
      by_contra hFlag
      rw [hx, List.takeWhile_cons_of_pos (by simpa using hFlag)] at hFlags
      simp at hFlags
    rw [← List.append_assoc, hAppend, List.cons_append, hx, List.cons_append] at hText hLeft
    rw [List.takeWhile_cons_of_neg (by simp [hFirst]), List.append_nil] at hText
    rw [List.dropWhile_cons_of_neg (by simp [hFirst])] at hLeft
    rw [readToken_of_regex .extended offset hPlain' hOpens, hText, hLeft, hx]
    exact ⟨by simp, rfl, rfl⟩
  | code hQuote hPlain hDivides =>
    -- a run of code goes no further than the blank at the line end
    have hPlain' : opensComment (c :: (cs ++ rest)) = false := by
      rw [opensComment_append hLine, hPlain]
    have hBlank : isBlank c = true ∨ '\n' ∈ cs := by
      refine (List.mem_cons.mp hLine).imp_left ?_
      rintro rfl
      rfl
    rw [readToken_of_code .extended offset hQuote hPlain' hDivides,
      readCode_append (show endsCode '\n' = true by decide) hBlank]
    exact ⟨rfl, rfl, rfl⟩

/-! ## All tokens -/

/-- Tokens that end in code with a line end. -/
def EndsInLine (tokens : List Token) : Prop :=
  ∃ t, tokens.getLast? = some t ∧ t.kind = .code ∧ t.text.getLast? = some '\n'

/-- A last token that ends in a line has the line end before it. -/
theorem mem_of_endsInLine {form : Escape.Form} {o : Options} {before : List Char} {offset : Nat}
    {a : List Char} (h : EndsInLine (tokensOf (pieces form o before offset a))) : '\n' ∈ a := by
  obtain ⟨t, hLast, -, hEnd⟩ := h
  obtain ⟨p, hp, rfl⟩ := List.mem_map.mp (List.mem_of_getLast? hLast)
  have hText := textOf_pieces form o before offset a
  rw [← hText]
  exact List.mem_flatMap.mpr ⟨p, hp, List.mem_of_getLast? hEnd⟩

/-- The first of several tokens has nothing to do with how they end. -/
theorem endsInLine_cons {t : Token} {tokens : List Token} (h : EndsInLine (t :: tokens)) :
    (tokens = [] ∧ t.kind = .code) ∨ EndsInLine tokens := by
  cases tokens with
  | nil =>
    obtain ⟨u, hLast, hCode, -⟩ := h
    obtain rfl : t = u := by simpa using hLast
    exact .inl ⟨rfl, hCode⟩
  | cons u tokens =>
    right
    rwa [EndsInLine, List.getLast?_cons_cons] at h

/-- **More text after a line of code changes no token before it**, and is read for itself. -/
theorem tokensOf_pieces_append {o : Options} {before : List Char} {offset : Nat} {a : List Char}
    (h : a = [] ∨ EndsInLine (tokensOf (pieces .extended o before offset a))) (b : List Char) :
    tokensOf (pieces .extended o before offset (a ++ b)) =
      tokensOf (pieces .extended o before offset a) ++
        tokensOf (pieces .extended o (a.reverse ++ before) (offset + byteLength a) b) := by
  induction before, offset, a using pieces_induction .extended o with
  | nil before offset => simp
  | cons before offset c cs ih =>
    have hEnds := h.resolve_left (List.cons_ne_nil c cs)
    have hLine := mem_of_endsInLine hEnds
    rw [pieces_cons, tokensOf_cons] at hEnds
    have hAppend := (readToken_splits .extended o before offset c cs).append
    -- what is left ends as the whole text does, or there is nothing left after code
    have hLeft : (readToken .extended o before offset c cs).rest = [] ∧
          (readToken .extended o before offset c cs).context.kind = .code ∨
        (readToken .extended o before offset c cs).rest ≠ [] ∧
          EndsInLine (tokensOf (pieces .extended o
            ((readToken .extended o before offset c cs).text.reverse ++ before)
            (offset + byteLength (readToken .extended o before offset c cs).text)
            (readToken .extended o before offset c cs).rest)) := by
      rcases endsInLine_cons hEnds with ⟨hNone, hCode⟩ | hMore
      · -- without further tokens there is no text for them
        refine .inl ⟨?_, hCode⟩
        have hText := textOf_pieces .extended o
          ((readToken .extended o before offset c cs).text.reverse ++ before)
          (offset + byteLength (readToken .extended o before offset c cs).text)
          (readToken .extended o before offset c cs).rest
        rw [List.map_eq_nil_iff.mp hNone] at hText
        exact hText.symm
      · exact .inr ⟨List.ne_nil_of_mem (mem_of_endsInLine hMore), hMore⟩
    obtain ⟨hContext, hText, hRest⟩ := readToken_append hLine
      (fun hOther => (hLeft.resolve_left fun hLast => hOther hLast.2).1) b
    have hTokens := ih (hLeft.imp And.left And.right)
    have hReverse : (c :: cs).reverse = (readToken .extended o before offset c cs).rest.reverse ++
        (readToken .extended o before offset c cs).text.reverse := by
      rw [← hAppend, List.reverse_append]
    have hLength : byteLength (c :: cs) =
        byteLength (readToken .extended o before offset c cs).text +
          byteLength (readToken .extended o before offset c cs).rest := by
      rw [← byteLength_append, hAppend]
    rw [List.cons_append, pieces_cons, pieces_cons, tokensOf_cons, tokensOf_cons, hContext, hText,
      hRest, hTokens, hReverse, hLength, List.append_assoc, Nat.add_assoc, List.cons_append]

end Scan

namespace Tokenizer

/-- **Earlier lines do not depend on later ones.** Where the tokens of a text end in code
with a line end, they are the first tokens of every longer text. -/
theorem tokens_of_prefix (o : Options) (a b : List Char) (hFactor : 1 ≤ o.iterationFactor)
    (hWord : byteLength (a ++ b) ≤ maxWord)
    (hEnds : a = [] ∨ ∃ t, ((new o).tokenize a).1.getLast? = some t ∧ t.kind = .code ∧
      t.text.getLast? = some '\n') :
    ((new o).tokenize a).1 <+: ((new o).tokenize (a ++ b)).1 := by
  have hFront : byteLength a ≤ maxWord := by
    rw [byteLength_append] at hWord
    omega
  have hAll : ∀ content, byteLength content ≤ maxWord → ((new o).tokenize content).1 =
      Scan.tokensOf (Scan.pieces .extended o [] 0 content) := by
    intro content hContent
    rw [tokens_tokenize, options_new,
      List.take_of_length_le (Scan.length_pieces_le_ceiling .extended hFactor hContent)]
  rw [hAll a hFront] at hEnds ⊢
  rw [hAll (a ++ b) hWord, Scan.tokensOf_pieces_append hEnds]
  exact List.prefix_append _ _

/-- A division on the first line, and on the next ones the end of a comment that never
opened. -/
theorem tokens_of_prefix_division :
    let a := ['x', '/', 'y', '\n']
    let b := ['/', 'z', '*', '/', '"']
    1 ≤ ({} : Options).iterationFactor ∧ byteLength (a ++ b) ≤ maxWord ∧
    (∃ t, ((new {}).tokenize a).1.getLast? = some t ∧ t.kind = .code ∧
      t.text.getLast? = some '\n') ∧
    ((new {}).tokenize a).1 <+: ((new {}).tokenize (a ++ b)).1 := by
  intro a b
  have hWord : byteLength (a ++ b) ≤ maxWord := by decide
  have hEnds : ∃ t, ((new {}).tokenize a).1.getLast? = some t ∧ t.kind = .code ∧
      t.text.getLast? = some '\n' :=
    ⟨⟨.code, ['/', 'y', '\n'], 1⟩, by decide +kernel, rfl, rfl⟩
  exact ⟨by decide, hWord, hEnds, tokens_of_prefix {} a b (by decide) hWord (.inr hEnds)⟩

end Tokenizer

end CommentSieve
