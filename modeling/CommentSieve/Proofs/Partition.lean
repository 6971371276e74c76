import CommentSieve.Proofs.Pieces
import CommentSieve.Token.Tokenizer
import Mathlib.Data.List.Chain

/-!
# The tokens of a text are a partition of it

Whatever the text, the tokens are not empty, follow each other without gap or overlap
from its beginning to its end, and each holds exactly the characters between its two
offsets, which are boundaries. The tokenizer checks itself while it works: it counts
tokens, steps in where nothing was read or a token ends inside a character, and looks for
gaps at the end. None of these checks ever fails, so that none of what it records is about
the splitting itself or worse than of medium severity.

Main results:

* `partition_of_covers` — tokens that follow each other and put together are a text are a
  partition of it.
* `violations_eq_nil` — the check for gaps finds nothing in a partition.
* `errors_note` — what is recorded about a malformed construct is of medium severity.
* `tokenize_partition` — the tokens of a text are a partition of it; with a factor of zero
  they are the first sixteen of that partition.
-/

namespace CommentSieve

open Text

/-- Tokens that cut a text into pieces. -/
structure Partition (content : List Char) (tokens : List Token) : Prop where
  nonempty : ∀ t ∈ tokens, t.start < t.stop
  starts : ∀ t ∈ tokens.head?, t.start = 0
  follows : tokens.IsChain fun s t => s.stop = t.start
  stops : (tokens.getLast?.map (·.stop)).getD 0 = byteLength content
  boundaries : ∀ t ∈ tokens, IsBoundary content t.start ∧ IsBoundary content t.stop
  slices : ∀ t ∈ tokens, t.text = slice content t.start t.stop
  joins : tokens.flatMap (·.text) = content

/-! ## Tokens that follow each other -/

namespace Coverage

theorem covers_cons {start stop : Nat} {t : Token} {tokens : List Token} :
    covers start stop (t :: tokens) = true ↔
      t.start = start ∧ covers t.stop stop tokens = true := by
  simp [covers]

/-- Each token then starts where the one before it stops. -/
theorem isChain_of_covers {start stop : Nat} {tokens : List Token}
    (h : covers start stop tokens = true) : tokens.IsChain fun s t => s.stop = t.start := by
  induction tokens generalizing start with
  | nil => exact .nil
  | cons t tokens ih =>
    obtain ⟨-, hRest⟩ := covers_cons.mp h
    cases tokens with
    | nil => exact .singleton t
    | cons u tokens => exact .cons_cons (covers_cons.mp hRest).1.symm (ih hRest)

/-- The last one stops at the end. -/
theorem stop_of_covers {start stop : Nat} {tokens : List Token}
    (h : covers start stop tokens = true) :
    (tokens.getLast?.map (·.stop)).getD start = stop := by
  induction tokens generalizing start with
  | nil => simpa [covers] using h
  | cons t tokens ih =>
    have hRest := ih (covers_cons.mp h).2
    cases tokens with
    | nil => exact hRest
    | cons u tokens =>
      rw [List.getLast?_cons_cons]
      have hLast : (u :: tokens).getLast? = some ((u :: tokens).getLast (by simp)) :=
        List.getLast?_eq_some_getLast _
      rw [hLast] at hRest ⊢
      exact hRest

/-- A token starts after the bytes of the tokens before it. -/
theorem start_of_covers {start stop : Nat} {pre post : List Token} {t : Token}
    (h : covers start stop (pre ++ t :: post) = true) :
    t.start = start + byteLength (pre.flatMap (·.text)) := by
  induction pre generalizing start with
  | nil => simpa using (covers_cons.mp h).1
  | cons s pre ih =>
    obtain ⟨hStart, hRest⟩ := covers_cons.mp h
    rw [ih hRest, Token.stop, Token.length, hStart, List.flatMap_cons, byteLength_append,
      Nat.add_assoc]

/-- Tokens that follow each other hold the bytes between their ends. -/
theorem byteLength_of_covers {start stop : Nat} {tokens : List Token}
    (h : covers start stop tokens = true) :
    start + byteLength (tokens.flatMap (·.text)) = stop := by
  induction tokens generalizing start with
  | nil => simpa [covers] using h
  | cons t tokens ih =>
    obtain ⟨rfl, hRest⟩ := covers_cons.mp h
    rw [← ih hRest, List.flatMap_cons, byteLength_append, ← Nat.add_assoc]
    rfl

/-- The check for gaps finds nothing between tokens that follow each other. -/
theorem betweenTokens_eq_nil {tokens : List Token}
    (h : tokens.IsChain fun s t => s.stop = t.start) : betweenTokens tokens = [] := by
  induction h with
  | nil => rfl
  | singleton t => rfl
  | cons_cons hStop _ ih => simp [betweenTokens, hStop, ih]

/-- The check for gaps finds nothing in tokens that cover a text. -/
theorem violations_eq_nil {length : Nat} {tokens : List Token}
    (h : covers 0 length tokens = true) : violations tokens length = [] := by
  have hBetween := betweenTokens_eq_nil (isChain_of_covers h)
  have hStop := stop_of_covers h
  have hStart : atStart tokens length = [] := by
    cases tokens with
    | nil =>
      have hZero : 0 = length := by simpa [covers] using h
      exact if_pos hZero.symm
    | cons t tokens => simp [atStart, (covers_cons.mp h).1]
  have hEnd : atEnd tokens length = [] := by
    unfold atEnd
    split
    · rename_i t hLast
      rw [hLast] at hStop
      exact if_pos hStop
    · rfl
  rw [violations, hStart, hBetween, hEnd]
  rfl

end Coverage

/-- Tokens that follow each other, are not empty and put together are a text are a
partition of it. -/
theorem partition_of_covers {content : List Char} {tokens : List Token}
    (hNe : ∀ t ∈ tokens, t.text ≠ []) (hJoins : tokens.flatMap (·.text) = content)
    (hCovers : Coverage.covers 0 (byteLength content) tokens = true) :
    Partition content tokens := by
  -- Around a token the text splits into what the tokens before it, it and the tokens after
  -- it hold.
  have hAround : ∀ t ∈ tokens, ∃ before after,
      content = before ++ (t.text ++ after) ∧ byteLength before = t.start := by
    intro t ht
    obtain ⟨pre, post, rfl⟩ := List.append_of_mem ht
    refine ⟨pre.flatMap (·.text), post.flatMap (·.text), ?_, ?_⟩
    · rw [← hJoins, List.flatMap_append, List.flatMap_cons]
    · rw [Coverage.start_of_covers hCovers, Nat.zero_add]
  refine ⟨?_, ?_, Coverage.isChain_of_covers hCovers, Coverage.stop_of_covers hCovers,
    ?_, ?_, hJoins⟩
  · intro t ht
    have hPos := byteLength_pos (hNe t ht)
    unfold Token.stop Token.length
    omega
  · intro t ht
    cases tokens with
    | nil => simp at ht
    | cons u tokens =>
      obtain rfl : u = t := by simpa using ht
      exact (Coverage.covers_cons.mp hCovers).1
  · intro t ht
    obtain ⟨before, after, hContent, hStart⟩ := hAround t ht
    refine ⟨⟨before, _, hContent, hStart⟩, before ++ t.text, after, ?_, ?_⟩
    · rw [hContent, List.append_assoc]
    · rw [byteLength_append, hStart]
      rfl
  · intro t ht
    obtain ⟨before, after, hContent, hStart⟩ := hAround t ht
    rw [hContent, ← hStart, Token.stop, Token.length, ← hStart]
    exact (slice_append ..).symm

/-- All pieces of a text together partition it. -/
theorem partition_pieces (form : Escape.Form) (o : Options) (content : List Char) :
    Partition content (Scan.tokensOf (Scan.pieces form o [] 0 content)) := by
  apply partition_of_covers
  · intro t ht
    obtain ⟨p, hp, rfl⟩ := List.mem_map.mp ht
    exact Scan.text_ne_nil_of_mem_pieces hp
  · have hText := Scan.textOf_pieces form o [] 0 content
    rwa [Scan.textOf, ← List.flatMap_map] at hText
  · simpa using Scan.covers_pieces form o [] 0 content

/-! ## What is found while a token is read -/

/-- Findings about a construct of the text. All others are about the splitting itself. -/
def Finding.isOrdinary : Finding → Bool
  | depthExceeded .. | brokenNested _ | unwound _ | malformed .. => true
  | ceilingReached .. | stalled _ | offBoundary .. => false

namespace Literal

/-- Nothing but ordinary findings so far. -/
def State.Ordinary (s : State) : Prop := ∀ f ∈ s.findings, f.isOrdinary = true

/-- Noting an ordinary finding leaves only ordinary ones. -/
theorem State.Ordinary.note {s : State} {f : Finding} (h : s.Ordinary)
    (hf : f.isOrdinary = true) : (s.note f).Ordinary := by
  intro g hg
  rcases List.mem_cons.mp hg with rfl | hg
  · exact hf
  · exact h g hg

/-- Taking a character finds nothing. -/
theorem State.Ordinary.advance {s : State} (h : s.Ordinary) : s.advance.Ordinary := by
  unfold State.advance
  split
  · exact h
  · exact h

/-- Taking an escape finds nothing. -/
theorem State.Ordinary.skipEscape {s : State} (h : s.Ordinary) (form : Escape.Form) :
    (s.skipEscape form).Ordinary := by
  unfold State.skipEscape
  split
  · exact h
  · exact h

/-- Opening a literal finds nothing but that there is no room for it. -/
theorem State.Ordinary.openLiteral {s : State} (h : s.Ordinary) (start : Nat)
    (context : Context) : (s.openLiteral start context).Ordinary := by
  unfold State.openLiteral
  split
  · exact h
  · exact h.note rfl

/-- No step finds anything but ordinary things. -/
theorem ordinary_step {form : Escape.Form} {start : Nat} {s t : State}
    (h : step form start s = some t) (hs : s.Ordinary) : t.Ordinary := by
  -- Closing a literal and counting braces leave the findings alone.
  have hClose : s.close.Ordinary := hs
  have hEnter : s.enterInterpolation.Ordinary := hs
  have hBraces : ∀ braces, (s.setBraces braces).Ordinary := fun _ => hs
  unfold step at h
  split at h
  · simp at h
  · simp at h
  · rw [← Option.some.inj h]
    unfold stepString
    repeat' split
    · exact hs.skipEscape form
    · exact hClose.note rfl
    · exact hClose.note rfl
    · exact hClose.advance
    · exact hs.advance
  · rw [← Option.some.inj h]
    unfold stepTemplate
    repeat' split
    · exact hs.skipEscape form
    · exact hClose.advance
    · exact hEnter.advance.advance
    · exact hs.advance
  · rw [← Option.some.inj h]
    unfold stepInterpolation
    repeat' split
    · exact (hBraces _).advance
    · exact (hBraces _).advance
    · exact (hs.openLiteral start _).advance
    · exact (hs.openLiteral start _).advance
    · exact hs.advance
  all_goals
    rw [← Option.some.inj h]
    exact hClose

theorem ordinary_run {form : Escape.Form} {start : Nat} {s : State} (hs : s.Ordinary) :
    (run form start s).Ordinary := by
  fun_induction run form start s with
  | case1 s hStep => exact hs
  | case2 s t hStep ih => exact ih (ordinary_step hStep hs)

/-- What is found where reading ends is ordinary. -/
theorem ordinary_allFindings {s : State} (hs : s.Ordinary) (start : Nat) :
    ∀ f ∈ s.allFindings start, f.isOrdinary = true := by
  intro f hf
  rcases List.mem_append.mp hf with hf | hf
  · exact hs f (List.mem_reverse.mp hf)
  · unfold findingsAtEnd at hf
    split at hf
    · simp at hf
    · rcases List.mem_append.mp hf with hf | hf
      · split at hf
        · obtain rfl := List.mem_singleton.mp hf
          rfl
        · simp at hf
      · obtain rfl := List.mem_singleton.mp hf
        rfl

/-- What is found about a string is ordinary. -/
theorem ordinary_readString (form : Escape.Form) (limit start : Nat) (quote : Char)
    (cs : List Char) :
    ∀ f ∈ (readString form limit start quote cs).findings, f.isOrdinary = true := by
  unfold readString
  split
  · exact ordinary_allFindings (ordinary_run (by simp [State.Ordinary])) start
  · intro f hf
    rcases List.mem_cons.mp hf with rfl | hf
    · rfl
    · split at hf
      · simp at hf
      · obtain rfl := List.mem_singleton.mp hf
        rfl

/-- What is found about a template is ordinary. -/
theorem ordinary_readTemplate (form : Escape.Form) (limit start : Nat) (cs : List Char) :
    ∀ f ∈ (readTemplate form limit start cs).findings, f.isOrdinary = true := by
  unfold readTemplate
  split
  · exact ordinary_allFindings (ordinary_run (by simp [State.Ordinary])) start
  · intro f hf
    obtain rfl := List.mem_singleton.mp hf
    rfl

end Literal

namespace Scan

/-- What is found about any token is ordinary. -/
theorem Branch.ordinary {form : Escape.Form} {o : Options} {before : List Char} {offset : Nat}
    {c : Char} {cs : List Char} {r : Reading} (h : Branch form o before offset c cs r) :
    ∀ f ∈ r.findings, f.isOrdinary = true := by
  cases h with
  | string => exact Literal.ordinary_readString form o.maxDepth offset c cs
  | template => exact Literal.ordinary_readTemplate form o.maxDepth offset cs
  | delimited style =>
    -- Other tokens find at most that they are unfinished.
    unfold Comment.read
    split
    · simp
    · simp [Finding.isOrdinary]
  | line =>
    unfold Comment.readLine
    split <;> simp
  | regex =>
    unfold RegexLiteral.read
    split
    · simp
    · simp [Finding.isOrdinary]
  | code =>
    unfold readCode
    split <;> simp

/-- What is found about the pieces of a text is ordinary. -/
theorem ordinary_of_mem_pieces {form : Escape.Form} {o : Options} {before : List Char}
    {offset : Nat} {cs : List Char} {p : Piece} (h : p ∈ pieces form o before offset cs) :
    ∀ f ∈ p.findings, f.isOrdinary = true := by
  induction before, offset, cs using pieces_induction form o with
  | nil before offset => simp at h
  | cons before offset c cs ih =>
    rw [pieces_cons, List.mem_cons] at h
    rcases h with rfl | h
    · exact (readToken_branch ..).ordinary
    · exact ih h

end Scan

/-! ## What is recorded about it -/

/-- About a construct of the text and of medium severity. -/
def Diagnostic.IsOrdinary (d : Diagnostic) : Prop :=
  d.severity = .medium ∧ d.category ≠ .tokenization

namespace Tokenizer

/-- Warnings are no errors. -/
theorem errors_foldl_warn (t : Tokenizer) (messages : List String) :
    (messages.foldl warn t).log.errors = t.log.errors := by
  induction messages generalizing t with
  | nil => rfl
  | cons message messages ih => rw [List.foldl_cons, ih]; rfl

/-- Warnings ask for no place. -/
theorem lines_foldl_warn (t : Tokenizer) (messages : List String) :
    (messages.foldl warn t).lines = t.lines := by
  induction messages generalizing t with
  | nil => rfl
  | cons message messages ih =>
    rw [List.foldl_cons, ih]
    rfl

/-- An unfinished construct adds one error of medium severity. -/
theorem errors_reportMalformed (t : Tokenizer) (content : List Char) (what : Malformed)
    (position : Nat) :
    ∃ d : Diagnostic, (d.severity = .medium ∧ d.category = what.category) ∧
      (t.reportMalformed content what position).log.errors = t.log.errors ++ [d] :=
  ⟨_, ⟨rfl, rfl⟩, congrArg (· ++ _) (errors_foldl_warn ..)⟩

/-- Ordinary findings add to the errors at most one entry each, an ordinary one. -/
theorem errors_note (t : Tokenizer) (content : List Char) {f : Finding}
    (hf : f.isOrdinary = true) :
    ∃ new : List Diagnostic, (∀ d ∈ new, d.IsOrdinary) ∧
      (t.note content f).log.errors = t.log.errors ++ new := by
  cases f with
  | depthExceeded limit offset =>
    refine ⟨[_], ?_, rfl⟩
    intro d hd
    obtain rfl := List.mem_singleton.mp hd
    exact ⟨rfl, by simp⟩
  | brokenNested offset => exact ⟨[], by simp, by simp [note, warn, Log.warn]⟩
  | unwound count => exact ⟨[], by simp, by simp [note, warn, Log.warn]⟩
  | malformed what offset =>
    obtain ⟨d, ⟨hSeverity, hCategory⟩, hErrors⟩ := t.errors_reportMalformed content what offset
    have hOrdinary : d.IsOrdinary := ⟨hSeverity, by rw [hCategory]; cases what <;> decide⟩
    exact ⟨[d], by simpa using hOrdinary, hErrors⟩
  | ceilingReached limit offset => simp [Finding.isOrdinary] at hf
  | stalled offset => simp [Finding.isOrdinary] at hf
  | offBoundary start stop => simp [Finding.isOrdinary] at hf

/-- Ordinary findings leave only ordinary errors. -/
theorem errors_foldl_note {t : Tokenizer} {content : List Char} {fs : List Finding}
    (hfs : ∀ f ∈ fs, f.isOrdinary = true) (ht : ∀ d ∈ t.log.errors, d.IsOrdinary) :
    ∀ d ∈ (fs.foldl (note · content) t).log.errors, d.IsOrdinary := by
  induction fs generalizing t with
  | nil => exact ht
  | cons f fs ih =>
    rw [List.foldl_cons]
    apply ih fun g hg => hfs g (List.mem_cons_of_mem _ hg)
    obtain ⟨new, hNew, hErrors⟩ := t.errors_note content (hfs f (List.mem_cons_self ..))
    intro d hd
    rw [hErrors] at hd
    rcases List.mem_append.mp hd with hd | hd
    · exact ht d hd
    · exact hNew d hd

/-! ## The partition -/

@[simp] theorem options_new (o : Options) : (new o).options = o := rfl

/-- A tokenizer that reads a text to its end notes what is found on the way, and no more. -/
theorem tokenize_of_le {t : Tokenizer} {content : List Char}
    (hLe : (Scan.pieces .extended t.options [] 0 content).length ≤
      t.options.ceiling (byteLength content)) :
    (t.tokenize content).2 =
      (Scan.findingsOf (Scan.pieces .extended t.options [] 0 content)).foldl (note · content)
        { t with lines := {} } := by
  have hScan := Scan.scanWith_of_le .extended hLe
  have hCovers := Scan.covers_pieces .extended t.options [] 0 content
  rw [Nat.zero_add] at hCovers
  have hViolations := Coverage.violations_eq_nil hCovers
  rw [tokenize, tokenizeWith]
  simp only [hScan, hViolations, List.foldl_nil]

/-- What a tokenizer records about a text it reads to the end. -/
theorem errors_tokenize_of_le {t : Tokenizer} {content : List Char}
    (ht : ∀ d ∈ t.log.errors, d.IsOrdinary)
    (hLe : (Scan.pieces .extended t.options [] 0 content).length ≤
      t.options.ceiling (byteLength content)) :
    ∀ d ∈ (t.tokenize content).2.log.errors, d.IsOrdinary := by
  rw [tokenize_of_le hLe]
  apply errors_foldl_note
  · intro f hf
    obtain ⟨p, hp, hf⟩ := List.mem_flatMap.mp hf
    exact Scan.ordinary_of_mem_pieces hp f hf
  · exact ht

/-- Reading a text within the usual bounds records ordinary errors only. -/
theorem errors_tokenize {t : Tokenizer} {content : List Char}
    (ht : ∀ d ∈ t.log.errors, d.IsOrdinary) (hFactor : 1 ≤ t.options.iterationFactor)
    (hWord : byteLength content ≤ maxWord) :
    ∀ d ∈ (t.tokenize content).2.log.errors, d.IsOrdinary :=
  errors_tokenize_of_le ht (Scan.length_pieces_le_ceiling .extended hFactor hWord)

/-- The tokens are the first pieces of the text, as many as the ceiling admits. -/
theorem tokens_tokenize (t : Tokenizer) (content : List Char) :
    (t.tokenize content).1 =
      Scan.tokensOf ((Scan.pieces .extended t.options [] 0 content).take
        (t.options.ceiling (byteLength content))) := by
  rw [← Scan.scanWith_tokens]
  rfl

/-- With a factor of at least one, a new tokenizer returns all tokens of a text. -/
theorem tokens_new {o : Options} {content : List Char} (hFactor : 1 ≤ o.iterationFactor)
    (hWord : byteLength content ≤ maxWord) :
    ((new o).tokenize content).1 = Scan.tokensOf (Scan.pieces .extended o [] 0 content) := by
  rw [tokens_tokenize, options_new,
    List.take_of_length_le (Scan.length_pieces_le_ceiling .extended hFactor hWord)]

/-- **The tokens of a text are a partition of it.** With a factor of at least one, the
tokens of a fresh tokenizer cut the text into pieces, and nothing that it records is about
the splitting itself, of high severity or critical. With a factor of zero it returns the
first sixteen of those tokens, or all if there are no more.

The length of a text is a machine word, as the ceiling is. -/
theorem tokenize_partition (o : Options) (content : List Char)
    (hWord : byteLength content ≤ maxWord) :
    (1 ≤ o.iterationFactor →
      Partition content ((new o).tokenize content).1 ∧
      ∀ d ∈ ((new o).tokenize content).2.log.errors,
        d.severity ≠ .high ∧ d.severity ≠ .critical ∧ d.category ≠ .tokenization) ∧
    (o.iterationFactor = 0 → ∀ factor, 1 ≤ factor →
      ((new o).tokenize content).1 =
        ((new { o with iterationFactor := factor }).tokenize content).1.take 16) := by
  refine ⟨fun hFactor => ⟨?_, ?_⟩, fun hZero factor hFactor => ?_⟩
  · rw [tokens_tokenize, options_new,
      List.take_of_length_le (Scan.length_pieces_le_ceiling _ hFactor hWord)]
    exact partition_pieces ..
  · intro d hd
    have hFresh : ∀ d ∈ (new o).log.errors, d.IsOrdinary := by
      intro d hd
      exact absurd hd List.not_mem_nil
    obtain ⟨hSeverity, hCategory⟩ := errors_tokenize hFresh hFactor hWord d hd
    rw [hSeverity]
    exact ⟨by decide, by decide, hCategory⟩
  · -- Without a token for each byte, the sixteen that are always allowed are left.
    have hCeiling : o.ceiling (byteLength content) = 16 := by
      simp [Options.ceiling, hZero, maxWord]
    have hAll := Scan.length_pieces_le_ceiling .extended
      (o := { o with iterationFactor := factor }) hFactor hWord
    rw [tokens_tokenize, tokens_tokenize, options_new, options_new, hCeiling,
      List.take_of_length_le hAll, Scan.pieces_iterationFactor _ _ factor, Scan.tokensOf,
      List.map_take]
    rfl

/-- A broken string of characters of several bytes, and a comment without its end: with
the usual options the tokens are a partition, with a factor of zero the first of one. -/
theorem tokenize_partition_malformed :
    byteLength ['\'', 'é', '\n', '/', '*', '€'] ≤ maxWord ∧
    Partition ['\'', 'é', '\n', '/', '*', '€']
      ((new {}).tokenize ['\'', 'é', '\n', '/', '*', '€']).1 ∧
    ((new { iterationFactor := 0 }).tokenize ['\'', 'é', '\n', '/', '*', '€']).1 =
      ((new { iterationFactor := 1 }).tokenize ['\'', 'é', '\n', '/', '*', '€']).1.take 16 := by
  have hWord : byteLength ['\'', 'é', '\n', '/', '*', '€'] ≤ maxWord := by decide
  exact ⟨hWord, ((tokenize_partition {} _ hWord).1 (by decide)).1,
    (tokenize_partition { iterationFactor := 0 } _ hWord).2 rfl 1 (by decide)⟩

end Tokenizer

end CommentSieve
