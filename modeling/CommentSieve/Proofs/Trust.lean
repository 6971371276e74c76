import CommentSieve.Proofs.Partition
import CommentSieve.Remover

/-!
# When the tokens are trusted

A remover puts the tokens of a text together again only if they cover it, account for its
length, and nothing critical was recorded. With a factor of at least one this is always so;
the result is then the same whatever the extension. A remover also stays what it is: the
next text meets the same options, the same engine and an empty log.

Main results:

* `Remover.process_of_le` — tokens that reach to the end of the text are put together.
* `Remover.process_eq_reassemble` — with a factor of at least one they always do.
* `Remover.process_reused` — after any other text, a text is processed as if it were the
  first.
-/

namespace CommentSieve

open Text

/-! ## Tokens account for their text -/

/-- The total length of tokens is the byte length of their texts. -/
theorem Token.totalLength_eq (tokens : List Token) :
    Token.totalLength tokens = byteLength (tokens.flatMap (·.text)) := by
  induction tokens with
  | nil => rfl
  | cons t tokens ih =>
    rw [List.flatMap_cons, byteLength_append, ← ih]
    rfl

/-- A run that accounts for every byte is complete. -/
theorem Log.validate_of_covers {tokens : List Token} {length : Nat}
    (h : Coverage.covers 0 length tokens = true) (log : Log) :
    log.validate length (Token.totalLength tokens) tokens.length = (true, log) := by
  have hTotal : Token.totalLength tokens = length := by
    rw [Token.totalLength_eq, ← Coverage.byteLength_of_covers h, Nat.zero_add]
  have hSome : ¬ (length > 0 ∧ tokens.length = 0) := by
    rintro ⟨hPos, hNone⟩
    rw [List.length_eq_zero_iff.mp hNone] at hTotal
    have hZero : Token.totalLength [] = 0 := rfl
    omega
  have hDrift : ¬ 2 * Double.round ((length - length) + (length - length)) >
      Double.round length := by
    rw [Nat.sub_self]
    simp [Double.round]
  rw [validate, incompleteness?, if_neg hSome, hTotal, if_neg hDrift]

/-! ## A tokenizer keeps its settings -/

namespace Tokenizer

/-- What a tokenizer was built with: its options, and whether recoveries are described. -/
def settings (t : Tokenizer) : Options × Bool := (t.options, t.log.recover)

/-- Warnings leave the settings. -/
theorem settings_foldl_warn (t : Tokenizer) (messages : List String) :
    (messages.foldl warn t).settings = t.settings := by
  induction messages generalizing t with
  | nil => rfl
  | cons message messages ih =>
    rw [List.foldl_cons, ih]
    rfl

/-- A finding noted leaves the settings. -/
theorem settings_note (t : Tokenizer) (content : List Char) (f : Finding) :
    (t.note content f).settings = t.settings := by
  cases f with
  | malformed what offset => exact settings_foldl_warn ..
  | depthExceeded | brokenNested | unwound | ceilingReached | stalled | offBoundary => rfl

/-- A tokenization leaves the settings. -/
theorem settings_tokenize (t : Tokenizer) (content : List Char) :
    (t.tokenize content).2.settings = t.settings := by
  -- Neither findings nor violations touch the settings.
  have hNotes : ∀ (fs : List Finding) (t : Tokenizer),
      (fs.foldl (note · content) t).settings = t.settings := by
    intro fs
    induction fs with
    | nil => exact fun _ => rfl
    | cons f fs ih =>
      intro t
      rw [List.foldl_cons, ih, settings_note]
  have hViolations : ∀ (vs : List Coverage.Violation) (t : Tokenizer),
      (vs.foldl noteViolation t).settings = t.settings := by
    intro vs
    induction vs with
    | nil => exact fun _ => rfl
    | cons v vs ih =>
      intro t
      rw [List.foldl_cons, ih]
      rfl
  rw [tokenize, tokenizeWith]
  dsimp only
  rw [hViolations, hNotes]
  rfl

end Tokenizer

/-! ## Processing a text -/

namespace Remover

/-- All tokens of a text, as the options of a remover ask for. -/
def allTokens (r : Remover) (content : List Char) : List Token :=
  Scan.tokensOf (Scan.pieces .extended r.tokenizer.options [] 0 content)

theorem partition_allTokens (r : Remover) (content : List Char) :
    Partition content (r.allTokens content) := partition_pieces ..

/-- Below the ceiling, the tokens of a tokenization are all tokens. -/
theorem tokens_of_le {r : Remover} {content : List Char}
    (hLe : (r.allTokens content).length ≤ r.tokenizer.options.ceiling (byteLength content)) :
    (r.tokenizer.clear.tokenize content).1 = r.allTokens content := by
  rw [Tokenizer.tokens_tokenize]
  refine congrArg Scan.tokensOf (List.take_of_length_le ?_)
  rwa [allTokens, Scan.tokensOf, List.length_map] at hLe

/-- A factor of at least one keeps all tokens below the ceiling, since none is empty. -/
theorem length_allTokens_le {r : Remover} {content : List Char}
    (hFactor : 1 ≤ r.tokenizer.options.iterationFactor) (hWord : byteLength content ≤ maxWord) :
    (r.allTokens content).length ≤ r.tokenizer.options.ceiling (byteLength content) := by
  rw [allTokens, Scan.tokensOf, List.length_map]
  exact Scan.length_pieces_le_ceiling .extended hFactor hWord

theorem tokens_eq_allTokens {r : Remover} {content : List Char}
    (hFactor : 1 ≤ r.tokenizer.options.iterationFactor) (hWord : byteLength content ≤ maxWord) :
    (r.tokenizer.clear.tokenize content).1 = r.allTokens content :=
  tokens_of_le (length_allTokens_le hFactor hWord)

/-- What is recorded about a text that is read to its end is never critical. -/
theorem errors_of_le {r : Remover} {content : List Char}
    (hLe : (r.allTokens content).length ≤ r.tokenizer.options.ceiling (byteLength content)) :
    ∀ d ∈ (r.tokenizer.clear.tokenize content).2.log.errors, d.IsOrdinary := by
  have hClear : ∀ d ∈ r.tokenizer.clear.log.errors, d.IsOrdinary := by
    intro d hd
    exact absurd hd List.not_mem_nil
  refine Tokenizer.errors_tokenize_of_le hClear ?_
  rwa [allTokens, Scan.tokensOf, List.length_map] at hLe

/-- Tokens that reach to the end of the text are put together. -/
theorem process_of_le {r : Remover} {content : List Char}
    (hLe : (r.allTokens content).length ≤ r.tokenizer.options.ceiling (byteLength content))
    (extension : String) :
    (r.process content extension).1 =
      reassemble r.engine content (r.allTokens content)
        (r.tokenizer.clear.tokenize content).2.log := by
  have hCovers := Scan.covers_pieces .extended r.tokenizer.options [] 0 content
  rw [Nat.zero_add] at hCovers
  have hValid := Log.validate_of_covers hCovers (r.tokenizer.clear.tokenize content).2.log
  have hCritical : (r.tokenizer.clear.tokenize content).2.log.hasCritical = false := by
    rw [Log.hasCritical, List.any_eq_false]
    intro d hd
    simp [Diagnostic.isCritical, (errors_of_le hLe d hd).1]
  have hTokens := tokens_of_le hLe
  rw [allTokens] at hTokens ⊢
  simp only [process, hTokens, hValid, hCritical, hCovers, Bool.not_false, Bool.and_self, if_true]

/-- With a factor of at least one the tokens are put together. -/
theorem process_eq_reassemble {r : Remover} {content : List Char}
    (hFactor : 1 ≤ r.tokenizer.options.iterationFactor) (hWord : byteLength content ≤ maxWord)
    (extension : String) :
    (r.process content extension).1 =
      reassemble r.engine content (r.allTokens content)
        (r.tokenizer.clear.tokenize content).2.log :=
  process_of_le (length_allTokens_le hFactor hWord) extension

/-- A remover stays what it is: only the lines of the last text are left in it. -/
theorem process_snd (r : Remover) (content : List Char) (extension : String) :
    ∃ lines, (r.process content extension).2 =
      { r with tokenizer := { r.tokenizer.clear with lines } } := by
  have hSettings := Tokenizer.settings_tokenize r.tokenizer.clear content
  obtain ⟨hOptions, hRecover⟩ := Prod.mk.inj hSettings
  -- The final check adds at most an entry, and all entries are taken out.
  have hCleared : ∀ length processed count,
      (((r.tokenizer.clear.tokenize content).2.log.validate length processed count).2).clear =
        r.tokenizer.clear.log := by
    intro length processed count
    unfold Log.validate
    split
    · exact congrArg (fun recover => (⟨recover, [], []⟩ : Log)) hRecover
    · exact congrArg (fun recover => (⟨recover, [], []⟩ : Log)) hRecover
  refine ⟨(r.tokenizer.clear.tokenize content).2.lines, ?_⟩
  unfold process
  dsimp only
  split
  · rw [hCleared, hOptions]
  · rw [hCleared, hOptions]

/-- After any other text, a text is processed as if it were the first. -/
theorem process_reused (r : Remover) (content text : List Char) (extension extension' : String) :
    ((r.process content extension).2.process text extension').1 =
      (r.process text extension').1 := by
  obtain ⟨lines, hNext⟩ := r.process_snd content extension
  rw [hNext]
  -- Processing starts with an empty log and no lines, whatever is left from before.
  rfl

/-- What a used remover answers on a trusted tokenization is the reassembly of all tokens of the
text. -/
theorem process_after {r : Remover} {text : List Char}
    (hFactor : 1 ≤ r.tokenizer.options.iterationFactor) (hWord : byteLength text ≤ maxWord)
    (content : List Char) (extension : String) :
    ∃ log, ((r.process content extension).2.process text extension).1 =
      reassemble r.engine text (r.allTokens text) log :=
  ⟨_, (r.process_reused ..).trans (process_eq_reassemble hFactor hWord extension)⟩

end Remover

end CommentSieve
