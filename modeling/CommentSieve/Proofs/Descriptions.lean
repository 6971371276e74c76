import CommentSieve.Proofs.FailSafe
import Mathlib.Data.List.Forall2

/-!
# How problems are described

Two settings say how much is told about a problem: whether the recovery from it is named, and
how much of the text around it is shown. Nothing else depends on them. Splitting a text makes
findings without them; when the findings are recorded, two logs under different settings go
in step, with the same problem at the same place in each entry; and a remover looks at nothing
in its log but severities.

Main results:

* `Scan.scanWith_congr` — a text is split without a look at these settings.
* `Tokenizer.alike_note`, `Tokenizer.alike_tokenize` — two logs stay in step.
* `Remover.alike_process` — the result is the same but for the descriptions.
-/

namespace CommentSieve

open Text

/-! ## Splitting -/

/-- Splitting a text depends on three of the options. -/
theorem Scan.scanWith_congr (form : Escape.Form) {o o' : Options}
    (hFactor : o.iterationFactor = o'.iterationFactor) (hDepth : o.maxDepth = o'.maxDepth)
    (hLookback : o.maxLookback = o'.maxLookback) (content : List Char) :
    scanWith form o content = scanWith form o' content := by
  have hCeiling : o.ceiling (byteLength content) = o'.ceiling (byteLength content) := by
    rw [Options.ceiling, Options.ceiling, hFactor]
  rw [scanWith, scanWith, loop_eq, loop_eq, hCeiling, pieces_congr form hDepth hLookback]

/-! ## Logs in step -/

namespace Diagnostic

/-- Two entries about the same problem at the same place. The text shown around it and the
recovery from it may differ. -/
structure Alike (a b : Diagnostic) : Prop where
  category : a.category = b.category
  severity : a.severity = b.severity
  message : a.message = b.message
  position : a.position = b.position
  location : a.location = b.location

/-- What holds of some entry by its severity holds in a log in step as well. -/
theorem Alike.any_eq {as bs : List Diagnostic} (h : List.Forall₂ Alike as bs)
    {p : Diagnostic → Bool} (hp : ∀ a b : Diagnostic, a.severity = b.severity → p a = p b) :
    as.any p = bs.any p := by
  induction h with
  | nil => rfl
  | cons hFirst _ ih => rw [List.any_cons, List.any_cons, hp _ _ hFirst.severity, ih]

end Diagnostic

namespace Tokenizer

/-- Two tokenizers that are at the same place of a text and have recorded the same problems. -/
structure Alike (t u : Tokenizer) : Prop where
  errors : List.Forall₂ Diagnostic.Alike t.log.errors u.log.errors
  lines : t.lines = u.lines

variable {t u : Tokenizer}

theorem Alike.record (h : Alike t u) {d e : Diagnostic} (hSame : d.Alike e) :
    Alike (t.record d) (u.record e) :=
  ⟨List.rel_append h.errors (.cons hSame .nil), h.lines⟩

theorem Alike.warn (h : Alike t u) (message message' : String) :
    Alike (t.warn message) (u.warn message') :=
  ⟨h.errors, h.lines⟩

/-- Warnings are of no account: there may be more of them on one side. -/
theorem Alike.foldl_warn (h : Alike t u) (messages messages' : List String) :
    Alike (messages.foldl Tokenizer.warn t) (messages'.foldl Tokenizer.warn u) := by
  refine ⟨?_, ?_⟩
  · rw [errors_foldl_warn, errors_foldl_warn]
    exact h.errors
  · rw [lines_foldl_warn, lines_foldl_warn, h.lines]

/-- A problem is found at the same place by both. -/
theorem Alike.located (h : Alike t u) (content : List Char) (category : Diagnostic.Category)
    (severity : Diagnostic.Severity) (message : String) (position : Nat) :
    let a := t.located content category severity message position
    let b := u.located content category severity message position
    a.1.Alike b.1 ∧ Alike a.2 b.2 := by
  have hPlace : t.lines.locate content position = u.lines.locate content position := by
    rw [h.lines]
  refine ⟨⟨rfl, rfl, rfl, rfl, ?_⟩, h.errors, ?_⟩
  · exact congrArg (fun place => some place.1) hPlace
  · exact congrArg Prod.snd hPlace

/-- What is recorded about an unfinished construct is alike, whether anything is recovered or
not. -/
theorem alike_reportMalformed (h : Alike t u) (content : List Char) (what : Malformed)
    (position : Nat) :
    Alike (t.reportMalformed content what position) (u.reportMalformed content what position) := by
  obtain ⟨hSame, hNext⟩ := h.located content what.category .medium what.message position
  -- only what is said about the recovery depends on whether it is tried
  have hDescribed : ∀ {d e : Diagnostic} (a b : Option String), d.Alike e →
      { d with recovery := a }.Alike { e with recovery := b } :=
    fun _ _ hSame => ⟨hSame.category, hSame.severity, hSame.message, hSame.position, hSame.location⟩
  exact (hNext.foldl_warn _ _).record (hDescribed _ _ hSame)

/-- Both record a finding in the same way. -/
theorem alike_note (h : Alike t u) (content : List Char) (f : Finding) :
    Alike (t.note content f) (u.note content f) := by
  cases f with
  | malformed what offset => exact alike_reportMalformed h content what offset
  | brokenNested offset => exact h.warn _ _
  | unwound count => exact h.warn _ _
  | offBoundary start stop => exact h.record ⟨rfl, rfl, rfl, rfl, rfl⟩
  | depthExceeded limit offset | ceilingReached limit offset =>
    obtain ⟨hSame, hNext⟩ := h.located content _ _ _ offset
    exact hNext.record hSame
  | stalled offset =>
    obtain ⟨hSame, hNext⟩ := h.located content _ _ _ offset
    exact hNext.record
      ⟨hSame.category, hSame.severity, hSame.message, hSame.position, hSame.location⟩

/-- Noting findings one after the other keeps logs alike. -/
theorem alike_foldl_note (h : Alike t u) (content : List Char) (fs : List Finding) :
    Alike (fs.foldl (note · content) t) (fs.foldl (note · content) u) := by
  induction fs generalizing t u with
  | nil => exact h
  | cons f fs ih => exact ih (alike_note h content f)

/-- Noting violations one after the other keeps logs alike. -/
theorem alike_foldl_noteViolation (h : Alike t u) (vs : List Coverage.Violation) :
    Alike (vs.foldl noteViolation t) (vs.foldl noteViolation u) := by
  induction vs generalizing t u with
  | nil => exact h
  | cons v vs ih => exact ih (h.record ⟨rfl, rfl, rfl, rfl, rfl⟩)

/-- **Two tokenizers that describe problems differently** split a text into the same tokens,
and their logs stay in step. -/
theorem alike_tokenize (hErrors : List.Forall₂ Diagnostic.Alike t.log.errors u.log.errors)
    (hFactor : t.options.iterationFactor = u.options.iterationFactor)
    (hDepth : t.options.maxDepth = u.options.maxDepth)
    (hLookback : t.options.maxLookback = u.options.maxLookback) (content : List Char) :
    (t.tokenize content).1 = (u.tokenize content).1 ∧
      Alike (t.tokenize content).2 (u.tokenize content).2 := by
  have hScan := Scan.scanWith_congr .extended hFactor hDepth hLookback content
  -- the lines of the last text are dropped before anything is recorded
  have hStart : Alike { t with lines := {} } { u with lines := {} } := ⟨hErrors, rfl⟩
  refine ⟨congrArg Scan.Result.tokens hScan, ?_⟩
  rw [tokenize, tokenize, tokenizeWith, tokenizeWith, hScan]
  exact alike_foldl_noteViolation (alike_foldl_note hStart content _) _

end Tokenizer

/-! ## Results -/

/-- Two results that differ at most in what is said about problems. -/
structure Removal.Alike (a b : Removal) : Prop where
  content : a.content = b.content
  modified : a.modified = b.modified
  removed : a.removed = b.removed
  preserved : a.preserved = b.preserved
  failed : a.failed = b.failed
  degraded : a.degraded = b.degraded
  usedFallback : a.usedFallback = b.usedFallback

/-- Whether an error is critical is no matter of recovery. -/
theorem Log.hasCritical_alike {log log' : Log}
    (h : List.Forall₂ Diagnostic.Alike log.errors log'.errors) :
    log.hasCritical = log'.hasCritical :=
  Diagnostic.Alike.any_eq h fun a b hSeverity => by
    rw [Diagnostic.isCritical, Diagnostic.isCritical, hSeverity]

/-- The final check of a run looks at lengths only. -/
theorem Log.validate_alike {log log' : Log}
    (h : List.Forall₂ Diagnostic.Alike log.errors log'.errors) (length processed tokens : Nat) :
    (log.validate length processed tokens).1 = (log'.validate length processed tokens).1 ∧
      List.Forall₂ Diagnostic.Alike (log.validate length processed tokens).2.errors
        (log'.validate length processed tokens).2.errors := by
  unfold validate
  split
  · exact ⟨rfl, List.rel_append h (.cons ⟨rfl, rfl, rfl, rfl, rfl⟩ .nil)⟩
  · exact ⟨rfl, h⟩

namespace Remover

/-- What is put together depends on the log only in how severe its entries are. -/
theorem alike_reassemble (e : Engine) (content : List Char) (tokens : List Token) {log log' : Log}
    (h : List.Forall₂ Diagnostic.Alike log.errors log'.errors) :
    (reassemble e content tokens log).Alike (reassemble e content tokens log') where
  content := rfl
  modified := rfl
  removed := rfl
  preserved := rfl
  failed := rfl
  degraded := Diagnostic.Alike.any_eq h fun a b hSeverity => by
    rw [Diagnostic.isDegrading, Diagnostic.isDegrading, hSeverity]
  usedFallback := rfl

/-- The fallback does not look at the log at all. -/
theorem alike_fallBack {r r' : Remover} (hFallback : r.config.fallback = r'.config.fallback)
    (hEngine : r.engine = r'.engine) (content : List Char) (extension : String) (log log' : Log) :
    (r.fallBack content extension log).Alike (r'.fallBack content extension log') := by
  unfold fallBack
  rw [hFallback, hEngine]
  split
  · exact ⟨rfl, rfl, rfl, rfl, rfl, rfl, rfl⟩
  · split <;> exact ⟨rfl, rfl, rfl, rfl, rfl, rfl, rfl⟩

/-- Removers that describe problems differently give the same result but for that. -/
theorem alike_process {r r' : Remover} (hFallback : r.config.fallback = r'.config.fallback)
    (hEngine : r.engine = r'.engine)
    (hFactor : r.tokenizer.options.iterationFactor = r'.tokenizer.options.iterationFactor)
    (hDepth : r.tokenizer.options.maxDepth = r'.tokenizer.options.maxDepth)
    (hLookback : r.tokenizer.options.maxLookback = r'.tokenizer.options.maxLookback)
    (content : List Char) (extension : String) :
    (r.process content extension).1.Alike (r'.process content extension).1 := by
  obtain ⟨hTokens, hLogs⟩ := Tokenizer.alike_tokenize (t := r.tokenizer.clear)
    (u := r'.tokenizer.clear) .nil hFactor hDepth hLookback content
  obtain ⟨hComplete, hErrors⟩ := Log.validate_alike hLogs.errors (byteLength content)
    (Token.totalLength (r'.tokenizer.clear.tokenize content).1)
    (r'.tokenizer.clear.tokenize content).1.length
  have hCritical := Log.hasCritical_alike hErrors
  simp only [process, hTokens, hComplete, hCritical]
  -- both trust their tokens, or neither does
  split
  · rw [hEngine]
    exact alike_reassemble _ _ _ hErrors
  · exact alike_fallBack hFallback hEngine ..

end Remover

/-- **How problems are described has no influence on anything else.** Tokenizers that differ
in whether they name recoveries and in how much text they show return the same tokens, and
logs with the same problems at the same places. So do removers: with another choice of these
settings the rules are accepted as before, and every result is the same but for the words. -/
theorem results_independent_of_descriptions :
    (∀ (o : Options) (recover : Bool) (radius : Nat) (content : List Char),
      let told := (Tokenizer.new o).tokenize content
      let retold := (Tokenizer.new { o with recover, snippetRadius := radius }).tokenize content
      retold.1 = told.1 ∧ List.Forall₂ Diagnostic.Alike retold.2.log.errors told.2.log.errors) ∧
    ∀ (config : Config) (r : Remover), Remover.make config = .ok r →
      ∀ (recover : Bool) (radius : Nat), ∃ r',
        Remover.make { config with
          recover, limits := { config.limits with snippetRadius := radius } } = .ok r' ∧
        ∀ (content : List Char) (extension : String),
          (r'.process content extension).1.Alike (r.process content extension).1 := by
  constructor
  · intro o recover radius content told retold
    obtain ⟨hTokens, hLogs⟩ := Tokenizer.alike_tokenize
      (t := .new { o with recover, snippetRadius := radius }) (u := .new o) .nil rfl rfl rfl content
    exact ⟨hTokens, hLogs.errors⟩
  · intro config r hMake recover radius
    obtain ⟨hEngine, rfl, hTokenizer⟩ := Remover.make_eq_ok_iff.mp hMake
    -- The engine is made from what the two configs share.
    let config' : Config :=
      { r.config with recover, limits := { r.config.limits with snippetRadius := radius } }
    let r' : Remover := ⟨config', .new config'.options, r.engine⟩
    have hMake' : Remover.make config' = .ok r' :=
      Remover.make_eq_ok_iff.mpr ⟨hEngine, rfl, rfl⟩
    have hOptions : r.tokenizer.options = r.config.options := by
      rw [hTokenizer, Tokenizer.options_new]
    refine ⟨r', hMake', Remover.alike_process rfl rfl ?_ ?_ ?_⟩ <;> rw [hOptions] <;> rfl

/-- A string that the line end breaks, described with its recovery and without: the settings
are accepted in both ways, and the results agree. -/
theorem results_independent_of_descriptions_broken :
    ∃ r r', Remover.make {} = .ok r ∧
      Remover.make { recover := false, limits := { snippetRadius := 0 } } = .ok r' ∧
      (r'.process ['"', 'a', '\n', '/', '/'] "js").1.Alike
        (r.process ['"', 'a', '\n', '/', '/'] "js").1 := by
  have hMake : ∃ r, Remover.make {} = .ok r := ⟨_, rfl⟩
  obtain ⟨r, hMake⟩ := hMake
  obtain ⟨r', hMake', hAlike⟩ := results_independent_of_descriptions.2 {} r hMake false 0
  exact ⟨r, r', hMake, hMake', hAlike _ _⟩

end CommentSieve
