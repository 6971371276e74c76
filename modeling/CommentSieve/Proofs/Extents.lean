import CommentSieve.Proofs.Locality
import CommentSieve.Proofs.Partition

/-!
# How far code and comments reach

Two tests decide where code ends. One is made before every character of a run and looks
only for a construct; the other is made where a token starts and decides which one it is.
They agree: inside a run of code there is no quote, no slash after its first character, no
blank before its last one, and no place where a comment would open, even if its opening
reached over the end of the run. A comment in turn reaches exactly as far as its style
says: a line comment to the line end, the others through the first terminator after their
opening, or to the end of the text if there is none.

Main results:

* `Text.exists_splitAround?`, `Text.splitAround?_eq_some_iff` — where a run of characters occurs,
  the first one is found.
* `Scan.isPlain_readCode` — a run of code is plain.
* `Scan.pieces_code` — code can be read one character at a time.
* `Comment.extent_read`, `Comment.extent_readLine` — a comment reaches as far as it should.
* `Tokenizer.tokenize_extents` — this holds for every token of code and every comment, and
  the comments are the tokens at which one opens.
-/

namespace CommentSieve

open Text

/-- If a run of characters occurs in a text, the text is split around the first one. -/
theorem Text.exists_splitAround? (run u v : List Char) :
    ∃ inner rest, splitAround? run (u ++ (run ++ v)) = some (inner, rest) ∧
      inner.length ≤ u.length := by
  induction u with
  | nil => exact ⟨[], v, splitAround?_of_some (stripStart?_append run v), Nat.le_refl _⟩
  | cons c u ih =>
    rw [List.cons_append]
    cases hHere : stripStart? run (c :: (u ++ (run ++ v))) with
    | some rest => exact ⟨[], rest, splitAround?_of_some hHere, Nat.zero_le _⟩
    | none =>
      obtain ⟨inner, rest, hLater, hLength⟩ := ih
      refine ⟨c :: inner, rest, ?_, Nat.succ_le_succ hLength⟩
      rw [splitAround?_cons_of_none hHere, hLater]
      rfl

/-- A text is split around a run just if the run occurs first there. -/
theorem Text.splitAround?_eq_some_iff {run cs inner after : List Char} :
    splitAround? run cs = some (inner, after) ↔
      cs = inner ++ (run ++ after) ∧
        ∀ u v, inner ++ (run ++ after) = u ++ (run ++ v) → inner.length ≤ u.length := by
  constructor
  · intro h
    have hCs : cs = inner ++ (run ++ after) := by
      rw [eq_append_of_splitAround? h, List.append_assoc]
    refine ⟨hCs, fun u v hOther => ?_⟩
    obtain ⟨inner', after', hFound, hLength⟩ := exists_splitAround? run u v
    rw [← hOther, ← hCs, h] at hFound
    obtain ⟨rfl, -⟩ := Prod.mk.inj (Option.some.inj hFound)
    exact hLength
  · rintro ⟨rfl, hFirst⟩
    obtain ⟨inner', after', hFound, hLe⟩ := exists_splitAround? run inner after
    have hSplit : inner ++ (run ++ after) = inner' ++ (run ++ after') := by
      rw [eq_append_of_splitAround? hFound, List.append_assoc]
    -- Neither of the two runs starts before the other one.
    have hLength : inner.length = inner'.length := Nat.le_antisymm (hFirst _ _ hSplit) hLe
    obtain ⟨rfl, hRest⟩ := List.append_inj hSplit hLength
    rw [hFound, List.append_cancel_left hRest]

/-- A text starts with its fronts. -/
theorem Text.startsWith_iff_prefix {start cs : List Char} :
    startsWith start cs = true ↔ start <+: cs := by
  rw [startsWith, Option.isSome_iff_exists]
  constructor
  · rintro ⟨rest, hRest⟩
    exact ⟨rest, (eq_append_of_stripStart? hRest).symm⟩
  · rintro ⟨rest, rfl⟩
    exact ⟨rest, stripStart?_append start rest⟩

/-- Where a text cannot be split around a run, the run is not in it. -/
theorem Text.not_infix_of_splitAround? {run text : List Char}
    (h : splitAround? run text = none) : ¬ run <:+: text := by
  rintro ⟨u, v, rfl⟩
  obtain ⟨inner, rest, hFound, -⟩ := exists_splitAround? run u v
  rw [List.append_assoc, hFound] at h
  exact absurd h (Option.some_ne_none _)

/-! ## Comments -/

namespace Comment

/-- A comment that reaches exactly as far as it should, given the text after it. -/
inductive Extent : (text after : List Char) → Prop
  /-- To the end of the line, which does not belong to it. -/
  | line {body after : List Char} (hBody : '\n' ∉ body)
      (hEnd : after = [] ∨ after.head? = some '\n') : Extent (lineOpening ++ body) after
  /-- Through the first terminator after the opening. -/
  | closed (style : Style) {inner after : List Char}
      (hFirst : ∀ u v, inner ++ (style.terminator ++ after) = u ++ (style.terminator ++ v) →
        inner.length ≤ u.length) :
      Extent (style.opening ++ (inner ++ style.terminator)) after
  /-- To the end of the text, in which there is no terminator. -/
  | unclosed (style : Style) {body : List Char} (hNone : ¬ style.terminator <:+: body) :
      Extent (style.opening ++ body) []

/-- A line comment has its extent. -/
theorem extent_readLine {cs : List Char} (h : startsWith lineOpening cs = true) :
    Extent (readLine cs).text (readLine cs).rest := by
  obtain ⟨body, -, hRead⟩ := readLine_eq h
  rw [hRead]
  refine .line ?_ (line_cases body)
  intro hMem
  simpa using List.mem_takeWhile_imp (p := (· != '\n')) hMem

/-- A comment of either other style has its extent, terminated or not. -/
theorem extent_read {style : Style} {cs : List Char} (offset : Nat)
    (h : startsWith style.opening cs = true) :
    Extent (read style offset cs).text (read style offset cs).rest := by
  obtain ⟨body, hCs, ⟨hNone, hRead⟩ | ⟨inner, rest, hSplit, -, hRead⟩⟩ := read_cases offset h
  · rw [hRead, hCs]
    exact .unclosed style (not_infix_of_splitAround? hNone)
  · rw [hRead]
    exact .closed style (splitAround?_eq_some_iff.mp hSplit).2

/-- A comment with its terminator is read through the terminator. -/
theorem read_closed {style : Style} {inner rest : List Char}
    (hSplit : splitAround? style.terminator (inner ++ (style.terminator ++ rest)) =
      some (inner, rest)) (offset : Nat) :
    read style offset (style.opening ++ (inner ++ (style.terminator ++ rest))) =
      { context := .comment, text := style.opening ++ (inner ++ style.terminator), rest } := by
  have hRecognised : recognise style (style.opening ++ (inner ++ (style.terminator ++ rest))) =
      .ok (style.opening ++ (inner ++ style.terminator), rest) := by
    simp only [recognise, stripStart?_append, hSplit, List.append_assoc]
  rw [read, hRecognised]

end Comment

/-! ## Code -/

namespace Scan

/-- A run of plain code, given the text after it. -/
structure IsPlain (text after : List Char) : Prop where
  unquoted : ∀ c ∈ text, isQuote c = false
  slash_first : '/' ∉ text.tail
  blank_last : ∀ c ∈ text.dropLast, isBlank c = false
  opens_nowhere : ∀ u v, text = u ++ v → v ≠ [] → opensComment (v ++ after) = false

/-- The empty text is plain. -/
theorem IsPlain.nil (after : List Char) : IsPlain [] after where
  unquoted := by simp
  slash_first := by simp
  blank_last := by simp
  opens_nowhere := by
    intro u v hText hNe
    simp_all

/-- A character of code in front of a plain text makes a plain text. -/
theorem IsPlain.cons {c : Char} {text after : List Char} (h : IsPlain text after)
    (hQuote : isQuote c = false) (hSlash : '/' ∉ text) (hBlank : text ≠ [] → isBlank c = false)
    (hPlain : opensComment (c :: (text ++ after)) = false) : IsPlain (c :: text) after where
  unquoted := by
    intro d hd
    rcases List.mem_cons.mp hd with rfl | hd
    · exact hQuote
    · exact h.unquoted d hd
  slash_first := hSlash
  blank_last := by
    cases text with
    | nil => simp
    | cons e text =>
      intro d hd
      rw [List.dropLast_cons_cons] at hd
      rcases List.mem_cons.mp hd with rfl | hd
      · exact hBlank (List.cons_ne_nil _ _)
      · exact h.blank_last d hd
  opens_nowhere := by
    intro u v hText hNe
    -- A comment opens at the new character or further on.
    cases u with
    | nil =>
      obtain rfl : c :: text = v := hText
      exact hPlain
    | cons d u => exact h.opens_nowhere u v (List.cons.inj hText).2 hNe

/-- What a run of code takes after its first character. -/
theorem isPlain_splitCode (passed cs : List Char) :
    ∃ more : List Char, (splitCode passed cs).1 = more.reverse ++ passed ∧
      cs = more ++ (splitCode passed cs).2 ∧ '/' ∉ more ∧
      IsPlain more (splitCode passed cs).2 := by
  fun_induction splitCode passed cs with
  | case1 => exact ⟨[], rfl, rfl, by simp, .nil _⟩
  | case2 => exact ⟨[], rfl, rfl, by simp, .nil _⟩
  | case3 passed c cs hConstruct hBlank =>
    -- the blank is the last character of the run
    obtain ⟨hQuote, hSlash, hPlain⟩ := code_of_startsConstruct (by simpa using hConstruct)
    exact ⟨[c], rfl, rfl, by simpa using Ne.symm hSlash,
      (IsPlain.nil cs).cons hQuote (by simp) (by simp) hPlain⟩
  | case4 passed c cs hConstruct hBlank ih =>
    obtain ⟨hQuote, hSlash, hPlain⟩ := code_of_startsConstruct (by simpa using hConstruct)
    obtain ⟨more, hPassed, hRest, hSlashes, hMore⟩ := ih
    refine ⟨c :: more, by simp [hPassed], by rw [List.cons_append, ← hRest], ?_, ?_⟩
    · simpa using ⟨Ne.symm hSlash, hSlashes⟩
    · rw [hRest] at hPlain
      exact hMore.cons hQuote hSlashes (fun _ => by simpa using hBlank) hPlain

/-- A run of code is plain, whatever its first character. -/
theorem isPlain_readCode {c : Char} {cs : List Char} (hQuote : isQuote c = false)
    (hPlain : opensComment (c :: cs) = false) :
    IsPlain (readCode c cs).text (readCode c cs).rest := by
  unfold readCode
  split
  · exact (IsPlain.nil cs).cons hQuote (by simp) (by simp) hPlain
  · rename_i hBlank
    obtain ⟨more, hPassed, hRest, hSlashes, hMore⟩ := isPlain_splitCode [c] cs
    have hText : (splitCode [c] cs).1.reverse = c :: more := by simp [hPassed]
    rw [hRest] at hPlain
    dsimp only
    rw [hText]
    exact hMore.cons hQuote hSlashes (fun _ => by simpa using hBlank) hPlain

/-! ## Code, character by character -/

/-- What was passed before stays in front. -/
theorem splitCode_passed (passed more cs : List Char) :
    splitCode (passed ++ more) cs = ((splitCode passed cs).1 ++ more, (splitCode passed cs).2) := by
  fun_induction splitCode passed cs with
  | case1 => rfl
  | case2 passed c cs hConstruct => rw [splitCode, if_pos hConstruct]
  | case3 passed c cs hConstruct hBlank =>
    rw [splitCode, if_neg hConstruct, if_pos hBlank]
    rfl
  | case4 passed c cs hConstruct hBlank ih =>
    rw [splitCode, if_neg hConstruct, if_neg hBlank, ← List.cons_append, ih]

theorem code_of_isFlag {c : Char} (h : RegexLiteral.isFlag c = true) :
    isQuote c = false ∧ c ≠ '/' ∧ c ≠ '<' := by
  simp only [RegexLiteral.isFlag, Bool.or_eq_true, beq_iff_eq] at h
  rcases h with ((((((rfl | rfl) | rfl) | rfl) | rfl) | rfl) | rfl) | rfl <;> decide

/-- After a character of code, the pieces are those of the rest: it is a piece of its own, or
belongs to the run of code that comes first there. -/
theorem pieces_code {form : Escape.Form} {o : Options} {before : List Char} (offset : Nat)
    {c : Char} {cs : List Char} (hQuote : isQuote c = false)
    (hPlain : opensComment (c :: cs) = false)
    (hDivides : c = '/' → RegexLiteral.opensAfter o.maxLookback before = false) :
    ∃ more ps, pieces form o before offset (c :: cs) = ⟨⟨.code, c :: more, offset⟩, []⟩ :: ps ∧
      (more = [] ∧ pieces form o (c :: before) (offset + c.utf8Size) cs = ps ∨
        pieces form o (c :: before) (offset + c.utf8Size) cs =
          ⟨⟨.code, more, offset + c.utf8Size⟩, []⟩ :: ps) := by
  rw [pieces_cons, readToken_of_code form offset hQuote hPlain hDivides, readCode]
  by_cases hBlank : isBlank c = true
  · rw [if_pos hBlank]
    exact ⟨[], _, rfl, .inl ⟨rfl, rfl⟩⟩
  rw [if_neg hBlank]
  cases cs with
  | nil => exact ⟨[], _, rfl, .inl ⟨rfl, rfl⟩⟩
  | cons d ds =>
    rw [splitCode]
    by_cases hConstruct : startsConstruct (d :: ds) = true
    · rw [if_pos hConstruct]
      exact ⟨[], _, rfl, .inl ⟨rfl, rfl⟩⟩
    -- the next character is read as code too, and the run goes on as it would from there
    obtain ⟨hQuote', hSlash', hPlain'⟩ := code_of_startsConstruct (by simpa using hConstruct)
    have hNext : readToken form o (c :: before) (offset + c.utf8Size) d ds = readCode d ds :=
      readToken_of_code form _ hQuote' hPlain' fun h => absurd h hSlash'
    rw [if_neg hConstruct, pieces_cons form o (c :: before), hNext, readCode]
    by_cases hBlank' : isBlank d = true
    · rw [if_pos hBlank', if_pos hBlank']
      refine ⟨[d], _, rfl, .inr ?_⟩
      simp [Nat.add_assoc]
    · rw [if_neg hBlank', if_neg hBlank']
      have hRun := splitCode_passed [d] [c] ds
      rw [List.singleton_append] at hRun
      rw [hRun]
      refine ⟨(splitCode [d] ds).1.reverse,
        pieces form o ((splitCode [d] ds).1 ++ c :: before)
          (offset + (c.utf8Size + byteLength (splitCode [d] ds).1)) (splitCode [d] ds).2,
        ?_, .inr ?_⟩
      · simp
      · simp [Nat.add_assoc]

/-! ## Every token -/

/-- A token of code is plain, a comment reaches as far as it should, and a token is a
comment if one opens there. -/
structure IsExact (kind : Token.Kind) (text after : List Char) : Prop where
  plain : kind = .code → IsPlain text after
  extent : kind = .comment → Comment.Extent text after
  comment_iff : kind = .comment ↔ opensComment (text ++ after) = true

/-- Every way to read a token gives it its extent. -/
theorem Branch.isExact {form : Escape.Form} {o : Options} {before : List Char} {offset : Nat}
    {c : Char} {cs : List Char} {r : Reading} (h : Branch form o before offset c cs r) :
    IsExact r.context.kind r.text r.rest := by
  have hAppend := h.splits.append
  -- a quote opens a literal, never a comment
  have hQuoted : isQuote c = true → opensComment (r.text ++ r.rest) = false := by
    intro hQuote
    rw [hAppend, ← Bool.not_eq_true]
    intro hOpens
    exact absurd hQuote (by simp [isQuote_of_opensComment hOpens])
  cases h with
  | string hQuote =>
    have hNone := hQuoted (by rcases hQuote with rfl | rfl <;> rfl)
    exact ⟨by simp [Context.kind], by simp [Context.kind], by simp [Context.kind, hNone]⟩
  | template hTick =>
    have hNone := hQuoted (by rw [hTick]; rfl)
    exact ⟨by simp, by simp, by simp [hNone]⟩
  | delimited style hOpening =>
    have hOpens : opensComment (c :: cs) = true := by
      cases style <;> simp [opensComment, hOpening]
    exact ⟨by simp [Context.kind], fun _ => Comment.extent_read offset hOpening,
      by simp [Context.kind, hAppend, hOpens]⟩
  | line hOpening =>
    have hOpens : opensComment (c :: cs) = true := by simp [opensComment, hOpening]
    exact ⟨by simp [Context.kind], fun _ => Comment.extent_readLine hOpening,
      by simp [Context.kind, hAppend, hOpens]⟩
  | regex hSlash hPlain =>
    exact ⟨by simp [Context.kind], by simp [Context.kind], by simp [Context.kind, hAppend, hPlain]⟩
  | code hQuote hPlain =>
    exact ⟨fun _ => isPlain_readCode hQuote hPlain, by simp [Context.kind],
      by simp [Context.kind, hAppend, hPlain]⟩

end Scan

namespace Tokenizer

/-- **No comment is missed in code, and none reaches too far.** Every token of a text stands
at its place between the text before it and the text after it. A token of code holds no
quote and no back-tick, a slash only as its first character and a blank only as its last,
and no comment opens at any of its characters. A comment reaches to the line end, through
its first terminator, or to the end of the text if it has none. A token is a comment
exactly if one opens where it starts. -/
theorem tokenize_extents (t : Tokenizer) (content : List Char) :
    ∀ token ∈ (t.tokenize content).1, ∃ before after,
      content = before ++ (token.text ++ after) ∧ byteLength before = token.start ∧
      Scan.IsExact token.kind token.text after := by
  intro token hToken
  rw [tokens_tokenize] at hToken
  obtain ⟨p, hp, rfl⟩ := List.mem_map.mp hToken
  obtain ⟨v, c, cs, r, hContent, hRead, rfl⟩ :=
    Scan.exists_read_of_mem_pieces (List.mem_of_mem_take hp)
  have hBranch := Scan.readToken_branch .extended t.options (v.reverse ++ [])
    (0 + byteLength v) c cs
  rw [← hRead] at hBranch
  refine ⟨v, r.rest, ?_, (Nat.zero_add _).symm, hBranch.isExact⟩
  rw [hContent, hBranch.splits.append]

/-- A comment right after a run of code that ends in the character with which it opens. -/
theorem tokenize_extents_adjacent :
    (⟨.comment, ['<', '!', '-', '-', 'é', '-', '>'], 1⟩ : Token) ∈
      ((new {}).tokenize ['<', '<', '!', '-', '-', 'é', '-', '>']).1 ∧
    ∃ before after,
      ['<', '<', '!', '-', '-', 'é', '-', '>'] =
        before ++ (['<', '!', '-', '-', 'é', '-', '>'] ++ after) ∧
      byteLength before = 1 ∧
      Scan.IsExact .comment ['<', '!', '-', '-', 'é', '-', '>'] after := by
  have hToken : (⟨.comment, ['<', '!', '-', '-', 'é', '-', '>'], 1⟩ : Token) ∈
      ((new {}).tokenize ['<', '<', '!', '-', '-', 'é', '-', '>']).1 := by
    decide +kernel
  exact ⟨hToken, tokenize_extents (new {}) _ _ hToken⟩

end Tokenizer

end CommentSieve
