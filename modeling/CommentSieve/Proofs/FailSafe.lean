import CommentSieve.Proofs.Deletion
import CommentSieve.Proofs.Trust

/-!
# Which way a text is processed

A remover trusts the tokens of a text after three checks: they cover the text, their length
is not far from its length, and nothing critical was recorded. The checks look at different
things, but reading can fail in one way only, by stopping at the ceiling, and then already the
first of them fails: however long the tokens are that were read, something is missing. So a
text is either put together from all its tokens, or it is left to the pattern of its dialect,
and if there is none it comes back as it was.

Main results:

* `Partition.covers_take` — some of the tokens never cover the text.
* `Remover.process_of_lt` — a text that was not read to its end is not put together.
* `Remover.process_selects` — which way is taken, and what the result says about it.
-/

namespace CommentSieve

open Text

/-! ## Tokens that stop early -/

/-- Some of the tokens of a text do not cover it. -/
theorem Partition.covers_take {content : List Char} {tokens : List Token}
    (h : Partition content tokens) {count : Nat} (hCount : count < tokens.length) :
    Coverage.covers 0 (byteLength content) (tokens.take count) = false := by
  rw [← Bool.not_eq_true]
  intro hCovers
  have hFirst := Coverage.byteLength_of_covers hCovers
  -- The token after them is missing, and no token is empty.
  have hMissing : 0 < byteLength ((tokens.drop count).flatMap (·.text)) := by
    rw [List.drop_eq_getElem_cons hCount, List.flatMap_cons, byteLength_append]
    have hSome := h.nonempty _ (List.getElem_mem hCount)
    unfold Token.stop Token.length at hSome
    omega
  have hAll : byteLength content = byteLength ((tokens.take count).flatMap (·.text)) +
      byteLength ((tokens.drop count).flatMap (·.text)) := by
    rw [← byteLength_append, ← List.flatMap_append, List.take_append_drop, h.joins]
  omega

theorem Options.ceiling_of_zero {o : Options} (hZero : o.iterationFactor = 0) (length : Nat) :
    o.ceiling length = 16 := by
  simp [ceiling, hZero, maxWord]

theorem Options.sixteen_le_ceiling (o : Options) (length : Nat) : 16 ≤ o.ceiling length := by
  unfold ceiling maxWord
  omega

namespace Remover

/-! ## The two ways -/

/-- A text that was not read to its end is not put together from its tokens. -/
theorem process_of_lt {r : Remover} {content : List Char}
    (hLt : r.tokenizer.options.ceiling (byteLength content) < (r.allTokens content).length)
    (extension : String) :
    ∃ log, (r.process content extension).1 = r.fallBack content extension log := by
  have hTokens : (r.tokenizer.clear.tokenize content).1 =
      (r.allTokens content).take (r.tokenizer.options.ceiling (byteLength content)) := by
    rw [Tokenizer.tokens_tokenize]
    exact List.map_take
  have hCovers := (r.partition_allTokens content).covers_take hLt
  rw [← hTokens] at hCovers
  unfold process
  dsimp only
  rw [hCovers, Bool.false_and, Bool.false_and, if_neg Bool.false_ne_true]
  exact ⟨_, rfl⟩

/-- What the result for a text says that was read to its end. -/
theorem flags_of_le {r : Remover} {content : List Char}
    (hLe : (r.allTokens content).length ≤ r.tokenizer.options.ceiling (byteLength content))
    (extension : String) :
    let result := (r.process content extension).1
    result.usedFallback = false ∧ result.failed = false ∧ result.degraded = false ∧
      ∀ d ∈ result.errors, d.severity = .medium := by
  have hOrdinary := errors_of_le hLe
  rw [process_of_le hLe extension]
  refine ⟨rfl, rfl, ?_, fun d hd => (hOrdinary d hd).1⟩
  show List.any _ Diagnostic.isDegrading = false
  rw [List.any_eq_false]
  intro d hd
  rw [Diagnostic.isDegrading, (hOrdinary d hd).1]
  decide

/-- What the result for a text says that was not. -/
theorem flags_of_lt {r : Remover} {content : List Char}
    (hLt : r.tokenizer.options.ceiling (byteLength content) < (r.allTokens content).length)
    (extension : String) :
    let result := (r.process content extension).1
    result.degraded = true ∧
    (result.failed = true ↔
      r.config.fallback = false ∨ ∃ why, Dialect.ofExtension extension = .error why) ∧
    (result.failed = true → result.content = content ∧ result.modified = false ∧
      result.removed = 0 ∧ result.preserved = 0) ∧
    (result.failed = false → result.usedFallback = true) := by
  obtain ⟨log, hResult⟩ := process_of_lt hLt extension
  rw [hResult]
  rcases r.fallBack_cases content extension log with
    ⟨hNoWay, errors, warnings, hOut⟩ | ⟨hOn, d, errors, warnings, hDialect, hOut⟩
  · rw [hOut]
    exact ⟨rfl, iff_of_true rfl hNoWay, fun _ => ⟨rfl, rfl, rfl, rfl⟩, fun h => (nomatch h)⟩
  · rw [hOut]
    have hWay : ¬ (r.config.fallback = false ∨
        ∃ why, Dialect.ofExtension extension = .error why) := by
      simp [hOn, hDialect]
    exact ⟨rfl, iff_of_false Bool.false_ne_true hWay, fun h => (nomatch h), fun _ => rfl⟩

/-! ## Removers that were built -/

/-- What a remover is built from. -/
theorem make_eq_ok_iff {config : Config} {r : Remover} :
    make config = .ok r ↔
      engineFor config = .ok r.engine ∧ r.config = config ∧
        r.tokenizer = .new config.options := by
  unfold make
  cases engineFor config with
  | error why => exact ⟨fun h => (nomatch h), fun h => nomatch h.1⟩
  | ok e =>
    constructor
    · intro h
      cases h
      exact ⟨rfl, rfl, rfl⟩
    · rintro ⟨hEngine, rfl, hTokenizer⟩
      cases hEngine
      rw [← hTokenizer]
      rfl

/-- With a factor of one all pieces of a text are tokens. -/
theorem allTokens_of_make {config : Config} {r : Remover} (hMake : make config = .ok r)
    {content : List Char} (hWord : byteLength content ≤ maxWord) :
    ((Tokenizer.new { config.options with iterationFactor := 1 }).tokenize content).1 =
      r.allTokens content := by
  obtain ⟨-, -, hTokenizer⟩ := make_eq_ok_iff.mp hMake
  have hAll := Scan.length_pieces_le_ceiling .extended
    (o := { config.options with iterationFactor := 1 }) (Nat.le_refl 1) hWord
  rw [Tokenizer.tokens_tokenize, Tokenizer.options_new, List.take_of_length_le hAll,
    Scan.pieces_iterationFactor, allTokens, hTokenizer, Tokenizer.options_new]

/-- **Which way is taken, and what the result says about it.** Let there be the tokens of a
complete reading of a text. If there may be one for each byte, or if there are no more than
sixteen, the text is put together from them: nothing has failed, every entry is of medium
severity, and neither the extension nor the switch for the fallback matters. Otherwise the
result is marked as degraded. It has failed exactly if the fallback is off or has no dialect
for the extension, and the text is then left as it was; else it comes from the fallback. -/
theorem process_selects {config : Config} {r : Remover} (hMake : make config = .ok r)
    {content : List Char} (hWord : byteLength content ≤ maxWord) (extension : String) :
    let tokens := ((Tokenizer.new { config.options with iterationFactor := 1 }).tokenize content).1
    let result := (r.process content extension).1
    Partition content tokens ∧
    (1 ≤ config.limits.iterationFactor ∨ tokens.length ≤ 16 →
      (∃ log, result = reassemble r.engine content tokens log) ∧
      (result.usedFallback = false ∧ result.failed = false ∧ result.degraded = false ∧
        ∀ d ∈ result.errors, d.severity = .medium) ∧
      ∀ extension' fallback, ∃ r', make { config with fallback } = .ok r' ∧
        (r'.process content extension').1 = result) ∧
    (config.limits.iterationFactor = 0 ∧ 16 < tokens.length →
      result.degraded = true ∧
      (result.failed = true ↔
        config.fallback = false ∨ ∃ why, Dialect.ofExtension extension = .error why) ∧
      (result.failed = true → result.content = content ∧ result.modified = false ∧
        result.removed = 0 ∧ result.preserved = 0) ∧
      (result.failed = false → result.usedFallback = true)) := by
  have hTokens := allTokens_of_make hMake hWord
  obtain ⟨hEngine, rfl, hTokenizer⟩ := make_eq_ok_iff.mp hMake
  have hOptions : r.tokenizer.options = r.config.options := by
    rw [hTokenizer, Tokenizer.options_new]
  dsimp only
  rw [hTokens]
  refine ⟨r.partition_allTokens content, fun hAll => ?_, fun hMany => ?_⟩
  · have hLe : (r.allTokens content).length ≤
        r.tokenizer.options.ceiling (byteLength content) := by
      rcases hAll with hFactor | hFew
      · exact length_allTokens_le (hOptions ▸ hFactor) hWord
      · exact hFew.trans (Options.sixteen_le_ceiling ..)
    refine ⟨⟨_, process_of_le hLe extension⟩, flags_of_le hLe extension, ?_⟩
    intro extension' fallback
    let r' : Remover := { r with config := { r.config with fallback } }
    have hSame : (r'.process content extension').1 = (r.process content extension).1 := by
      have hLe' : (r'.allTokens content).length ≤
          r'.tokenizer.options.ceiling (byteLength content) := hLe
      rw [process_of_le hLe extension, process_of_le hLe' extension']
      -- Nothing that is put together depends on the configuration itself.
      rfl
    exact ⟨r', make_eq_ok_iff.mpr ⟨hEngine, rfl, hTokenizer⟩, hSame⟩
  · have hLt : r.tokenizer.options.ceiling (byteLength content) <
        (r.allTokens content).length := by
      rw [hOptions, Options.ceiling_of_zero hMany.1]
      exact hMany.2
    exact flags_of_lt hLt extension

/-- Seventeen blanks are seventeen tokens. With a factor of zero that is one too many: with an
extension that is not known they are left as they are, and as a script they go through the
fallback. With the usual factor they are put together. -/
theorem process_selects_blanks :
    let content := List.replicate 17 ' '
    (∃ r, make { limits := { iterationFactor := 0 } } = .ok r ∧
      ((r.process content "doc").1.failed = true ∧ (r.process content "doc").1.content = content) ∧
      (r.process content "js").1.failed = false ∧ (r.process content "js").1.usedFallback = true) ∧
    ∃ r, make {} = .ok r ∧ (r.process content "doc").1.failed = false := by
  intro content
  have hWord : byteLength content ≤ maxWord := by decide
  -- Every blank is a token, and sixteen are allowed under a factor of zero.
  have hMany : 16 < ((Tokenizer.new { iterationFactor := 1 }).tokenize content).1.length := by
    decide +kernel
  have hMade : ∀ limits, ∃ r, make { limits } = .ok r := fun _ => ⟨_, rfl⟩
  constructor
  · obtain ⟨r, hMake⟩ := hMade { iterationFactor := 0 }
    obtain ⟨-, hUnknown, hSame, -⟩ := (process_selects hMake hWord "doc").2.2 ⟨rfl, hMany⟩
    obtain ⟨-, hScript, -, hUsed⟩ := (process_selects hMake hWord "js").2.2 ⟨rfl, hMany⟩
    have hFailed := hUnknown.mpr (.inr ⟨⟨"doc"⟩, by decide⟩)
    have hDone : (r.process content "js").1.failed = false := by
      have hDialect : Dialect.ofExtension "js" = .ok .cStyle := by decide
      rw [← Bool.not_eq_true, hScript, hDialect]
      simp
    exact ⟨r, hMake, ⟨hFailed, (hSame hFailed).1⟩, hDone, hUsed hDone⟩
  · obtain ⟨r, hMake⟩ := hMade {}
    exact ⟨r, hMake, ((process_selects hMake hWord "doc").2.1 (.inl (by decide))).2.1.2.1⟩

end Remover

end CommentSieve
