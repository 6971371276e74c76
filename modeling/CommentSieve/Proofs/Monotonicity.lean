import CommentSieve.Proofs.Acceptance

/-!
# Asking for more

A configuration decides in one place which comments stay: by the rules of its engine. Which
comments there are, and on which way they are found, is decided without the engine. So the
comments of a text are the same for two configurations that read it alike, each comment stays
or goes for its own text (`Remover.spares`), and whether it stays depends on what is asked for
as a whole (`Config.Wants`), not on the order in which rules are tried, on their names or on
which of them matches first.

Hence asking for more can only add to the output. What is added stands between what was
there, so that the smaller output is left when the larger one is read with gaps.

Main results:

* `eraseFrom_sublist` — erasing fewer spans leaves more of a text.
* `Remover.process_sifts` — what comes of a text, by the comments found and those that stay.
* `Remover.keeps_iff_wants` — an engine keeps what its configuration asks for.
* `Remover.process_monotone` — asking for more keeps more; priorities do not matter.
-/

namespace CommentSieve

open Text

/-! ## Fewer spans -/

/-- Erasing fewer spans leaves more of a text. -/
theorem eraseFrom_sublist {spans fewer : List Span} (h : fewer ⊆ spans) (offset : Nat)
    (cs : List Char) : (eraseFrom spans offset cs).Sublist (eraseFrom fewer offset cs) := by
  induction cs generalizing offset with
  | nil => exact .slnil
  | cons c cs ih =>
    have hRest := ih (offset + c.utf8Size)
    rw [eraseFrom, eraseFrom]
    -- A character that fewer spans hold is held by all of them.
    by_cases hFewer : fewer.any (·.holds offset) = true
    · obtain ⟨s, hs, hHolds⟩ := List.any_eq_true.mp hFewer
      have hAll : spans.any (·.holds offset) = true := List.any_eq_true.mpr ⟨s, h hs, hHolds⟩
      rw [if_pos hFewer, if_pos hAll]
      exact hRest
    · rw [if_neg hFewer]
      split
      · exact hRest.cons c
      · exact hRest.cons_cons c

/-! ## Which comments stay -/

/-- What comes of a text whose comments stay or go one by one. -/
structure Removal.Sifts (out : Removal) (content : List Char) (found : List Span)
    (stays : Span → Bool) : Prop where
  content : out.content = erase (found.filter (!stays ·)) content
  removed : out.removed = found.countP (!stays ·)
  preserved : out.preserved = found.countP stays

/-- Every comment that was found is removed or preserved. -/
theorem Removal.Sifts.total {out : Removal} {content : List Char} {found : List Span}
    {stays : Span → Bool} (h : out.Sifts content found stays) :
    out.removed + out.preserved = found.length := by
  rw [h.removed, h.preserved, Nat.add_comm, List.length_eq_countP_add_countP stays]
  simp

/-- More comments stay: fewer are removed, and the output has gaps where it had none. -/
theorem Removal.Sifts.monotone {out out' : Removal} {content : List Char} {found : List Span}
    {stays stays' : Span → Bool} (h : out.Sifts content found stays)
    (h' : out'.Sifts content found stays') (hMore : ∀ s, stays s = true → stays' s = true) :
    out'.removed ≤ out.removed ∧ out.preserved ≤ out'.preserved ∧
      out.content.Sublist out'.content := by
  have hFewer : ∀ s, (!stays' s) = true → (!stays s) = true := by
    intro s hs
    by_contra hNot
    rw [hMore s (by simpa using hNot)] at hs
    cases hs
  refine ⟨?_, ?_, ?_⟩
  · rw [h'.removed, h.removed]
    exact List.countP_mono_left fun s _ => hFewer s
  · rw [h'.preserved, h.preserved]
    exact List.countP_mono_left fun s _ => hMore s
  · rw [h'.content, h.content]
    exact eraseFrom_sublist (List.monotone_filter_right _ hFewer).subset 0 content

namespace Layout

variable {content : List Char} {ps : List Part}

/-- If spans tell which comments stay, the others are dropped. -/
theorem dropped_eq_filter (h : Layout content ps) {stays : Span → Bool}
    (hStays : ∀ p ∈ ps, p.isComment = true → p.kept = stays p.span) :
    dropped ps = (found ps).filter (!stays ·) := by
  rw [dropped, found, List.filter_map, List.filter_filter]
  congr 1
  refine List.filter_congr fun p hp => ?_
  cases hComment : p.isComment with
  | true => simp [hStays p hp hComment]
  | false =>
    -- What is no comment is not dropped.
    cases hKept : p.kept with
    | true => simp
    | false => rw [h.onlyComments p hp hKept] at hComment; cases hComment

/-- Parts that are put together, by the comments among them. -/
theorem sifts (h : Layout content ps) {stays : Span → Bool}
    (hStays : ∀ p ∈ ps, p.isComment = true → p.kept = stays p.span) {out : Removal}
    (hContent : out.content = Part.textOf (ps.filter (·.kept)))
    (hRemoved : out.removed = ps.countP (!·.kept))
    (hPreserved : out.preserved = ps.countP fun p => p.isComment && p.kept) :
    out.Sifts content (found ps) stays where
  content := by rw [hContent, ← h.erase_eq, h.dropped_eq_filter hStays]
  removed := by
    rw [hRemoved, List.countP_eq_length_filter, List.countP_eq_length_filter,
      ← h.dropped_eq_filter hStays, dropped, List.length_map]
  preserved := by
    rw [hPreserved, found, List.countP_map, List.countP_filter]
    refine List.countP_congr fun p hp => ?_
    cases hComment : p.isComment with
    | true => simp [hStays p hp hComment]
    | false => simp

end Layout

namespace Fallback

/-- A comment that the fallback found stays if it is an interpreter line or the engine keeps
it. -/
theorem kept_of_mem_partsFrom {d : Dialect} {e : Engine} {fs : List Pattern.Found}
    (before text : List Char)
    (h : Pattern.Ascending before.length (before.length + text.length) fs) {p : Part}
    (hp : p ∈ partsFrom d e (byteLength before) (Pattern.segmentsFrom before.length text fs))
    (hComment : p.isComment = true) :
    p.kept = (isInterpreterLine d p.start p.text || e.keeps p.text) := by
  induction fs generalizing before text with
  | nil =>
    obtain rfl : p = ⟨byteLength before, text, false, true⟩ := by
      simpa [Pattern.segmentsFrom, partsFrom, part] using hp
    cases hComment
  | cons f fs ih =>
    obtain ⟨gap, body, rest, rfl, hGap, hBody, hNe, hSegments, hMore⟩ := Pattern.segmentsFrom_cons h
    rw [hSegments, partsFrom, partsFrom, List.mem_cons, List.mem_cons] at hp
    rcases hp with rfl | rfl | hp
    · cases hComment
    · have hRun : f.isComment = true := hComment
      -- At the first character and at the first byte is the same place.
      have hFirst : (f.start == 0) = (byteLength before + byteLength gap == 0) := by
        have hChars := length_le_byteLength (before ++ gap)
        have hEmpty : (before ++ gap).length = 0 → byteLength (before ++ gap) = 0 := by
          intro hZero
          rw [List.length_eq_zero_iff.mp hZero]
          rfl
        rw [byteLength_append, List.length_append] at hChars hEmpty
        rw [Bool.eq_iff_iff, beq_iff_eq, beq_iff_eq]
        omega
      show (!f.isComment || (isInterpreterLine d f.start body || e.keeps body)) =
        (isInterpreterLine d (byteLength before + byteLength gap) body || e.keeps body)
      rw [hRun, Bool.not_true, Bool.false_or, isInterpreterLine, isInterpreterLine, hFirst]
    · have hLength : f.stop = (before ++ gap ++ body).length := by
        simp only [List.length_append]
        omega
      rw [hLength] at hMore hp
      refine ih (before ++ gap ++ body) rest hMore ?_
      rw [byteLength_append, byteLength_append]
      exact hp

end Fallback

namespace Remover

/-- Tokens that are put together lose the comments that the engine does not keep. -/
theorem reassemble_sifts (t : Tokenizer) (e : Engine) {content : List Char} (log : Log)
    (hCovers : Coverage.covers 0 (byteLength content) (t.tokenize content).1 = true) :
    (reassemble e content (t.tokenize content).1 log).Sifts content
      (((t.tokenize content).1.filter (·.isComment)).map Token.span)
      fun s => e.keeps (s.text content) := by
  have hLayout := layout_tokens t e hCovers
  rw [← found_tokens e]
  generalize (t.tokenize content).1 = tokens at hLayout ⊢
  refine hLayout.sifts ?_ ?_ ?_ ?_
  · intro p hp hComment
    rw [hLayout.text_span hp]
    obtain ⟨u, -, rfl⟩ := List.mem_map.mp hp
    have hToken : u.isComment = true := hComment
    show keepsToken e u = e.keeps u.text
    rw [keepsToken, hToken, Bool.not_true, Bool.false_or, Engine.keep_classify]
  · simp only [reassemble, Part.textOf, List.filter_map, List.flatMap_map]
    rfl
  · simp only [reassemble, List.countP_map]
    rfl
  · simp only [reassemble, List.countP_map]
    rfl

/-- A text that is stripped also keeps an interpreter line. -/
theorem stripped_sifts (d : Dialect) (e : Engine) (content : List Char)
    (errors : List Diagnostic) (warnings : List String) :
    (stripped d e content errors warnings).Sifts content (d.comments content) fun s =>
      Fallback.isInterpreterLine d s.start (s.text content) || e.keeps (s.text content) := by
  have hStrip := Fallback.foldl_step d e 0 {} (d.pattern.segments content)
  have hLayout := layout_segments d e content
  rw [← found_segments d e]
  refine hLayout.sifts ?_ ?_ ?_ ?_
  · intro p hp hComment
    rw [hLayout.text_span hp]
    exact Fallback.kept_of_mem_partsFrom [] content (d.ascending_findAll content) hp hComment
  · rw [stripped, Fallback.strip, hStrip]
    simp
  · rw [stripped, Fallback.strip, hStrip]
    exact Nat.zero_add _
  · rw [stripped, Fallback.strip, hStrip]
    exact Nat.zero_add _

/-- Whether a comment that was found stays: the engine keeps it, or it is an interpreter line
that the fallback found. -/
def spares (r : Remover) (content : List Char) (extension : String) (s : Span) : Bool :=
  (if (r.process content extension).1.usedFallback then
    match Dialect.ofExtension extension with
    | .ok d => Fallback.isInterpreterLine d s.start (s.text content)
    | .error _ => false
  else false) || r.engine.keeps (s.text content)

/-- **What comes of a text**: it loses those of the comments found that do not stay. -/
theorem process_sifts (r : Remover) (content : List Char) (extension : String) :
    (r.process content extension).1.Sifts content (r.commentsFound content extension)
      (r.spares content extension) := by
  unfold commentsFound spares
  -- By its tokens, not at all, or by the pattern of its dialect.
  rcases r.process_cases content extension with
    ⟨log, hCovers, hOut⟩ | ⟨errors, warnings, hOut⟩ | ⟨d, errors, warnings, hDialect, hOut⟩
  · rw [hOut]
    exact reassemble_sifts _ _ log hCovers
  · rw [hOut]
    exact ⟨(eraseFrom_eq_self fun s hs => absurd hs List.not_mem_nil).symm, rfl, rfl⟩
  · rw [hOut, hDialect]
    exact stripped_sifts ..

/-! ## The same comments -/

/-- Where the tokens are not trusted, only the settings decide what is done. -/
theorem fallBack_alike {r r' : Remover} (hFallback : r'.config.fallback = r.config.fallback)
    (content : List Char) (extension : String) (log : Log) :
    (r'.fallBack content extension log).failed = (r.fallBack content extension log).failed ∧
    (r'.fallBack content extension log).usedFallback =
      (r.fallBack content extension log).usedFallback := by
  unfold fallBack
  rw [hFallback]
  split
  · exact ⟨rfl, rfl⟩
  · cases Dialect.ofExtension extension with
    | error why => exact ⟨rfl, rfl⟩
    | ok d => exact ⟨rfl, rfl⟩

/-- Texts that are read alike are processed the same way, whatever the engine. -/
theorem process_alike {r r' : Remover} (hTokenizer : r'.tokenizer = r.tokenizer)
    (hFallback : r'.config.fallback = r.config.fallback) (content : List Char)
    (extension : String) :
    (r'.process content extension).1.failed = (r.process content extension).1.failed ∧
    (r'.process content extension).1.usedFallback =
      (r.process content extension).1.usedFallback := by
  unfold process
  rw [hTokenizer]
  dsimp only
  split
  · exact ⟨rfl, rfl⟩
  · exact fallBack_alike hFallback ..

/-- Which comments are found does not depend on the rules. -/
theorem commentsFound_alike {r r' : Remover} (hTokenizer : r'.tokenizer = r.tokenizer)
    (hFallback : r'.config.fallback = r.config.fallback) (content : List Char)
    (extension : String) :
    r'.commentsFound content extension = r.commentsFound content extension := by
  obtain ⟨hFailed, hUsed⟩ := process_alike hTokenizer hFallback content extension
  unfold commentsFound
  dsimp only
  rw [hFailed, hUsed, hTokenizer]

end Remover

/-! ## What a configuration asks for -/

namespace Config

open Rule

/-- Whether a configuration asks to keep a comment: for a built-in rule that it uses, for a
text to keep that occurs in it, or for a pattern of the user. -/
def Wants (c : Config) (comment : List Char) : Prop :=
  (∃ rule ∈ Builtin.all, c.categories.allows rule.category = true ∧
    rule.applies comment = true) ∨
  (∃ text ∈ c.keepPatterns, (Pattern.upToCase text.toList).occursIn comment = true) ∨
  ∃ source ∈ c.customRules.map (·.pattern), ∃ pattern,
    Pattern.read true source.toList = .ok pattern ∧ pattern.occursIn comment = true

/-- Another configuration asks for all that this one asks for, and reads texts like it. -/
structure Within (c d : Config) : Prop where
  recover : d.recover = c.recover
  fallback : d.fallback = c.fallback
  limits : d.limits = c.limits
  texts : c.keepPatterns ⊆ d.keepPatterns
  patterns : c.customRules.map (·.pattern) ⊆ d.customRules.map (·.pattern)
  categories : ∀ category, c.categories.allows category = true →
    d.categories.allows category = true

/-- Two configurations that differ in priorities only. -/
structure SameButPriorities (c d : Config) : Prop where
  recover : d.recover = c.recover
  fallback : d.fallback = c.fallback
  limits : d.limits = c.limits
  texts : d.keepPatterns = c.keepPatterns
  rules : d.customRules.map (fun rule => (rule.name, rule.pattern)) =
    c.customRules.map fun rule => (rule.name, rule.pattern)
  categories : d.categories = c.categories

variable {c d : Config}

/-- What one config wants to keep the wider one wants, too. -/
theorem Within.wants (h : c.Within d) {comment : List Char} (hWants : c.Wants comment) :
    d.Wants comment := by
  rcases hWants with ⟨rule, hRule, hAllows, hApplies⟩ | ⟨text, hText, hOccurs⟩ |
    ⟨source, hSource, pattern, hRead, hOccurs⟩
  · exact .inl ⟨rule, hRule, h.categories _ hAllows, hApplies⟩
  · exact .inr (.inl ⟨text, h.texts hText, hOccurs⟩)
  · exact .inr (.inr ⟨source, h.patterns hSource, pattern, hRead, hOccurs⟩)

namespace SameButPriorities

theorem symm (h : c.SameButPriorities d) : d.SameButPriorities c :=
  ⟨h.recover.symm, h.fallback.symm, h.limits.symm, h.texts.symm, h.rules.symm, h.categories.symm⟩

/-- Each of two such configs is within the other. -/
theorem within (h : c.SameButPriorities d) : c.Within d where
  recover := h.recover
  fallback := h.fallback
  limits := h.limits
  texts := h.texts ▸ List.Subset.refl _
  patterns := by
    have hPatterns : d.customRules.map (·.pattern) = c.customRules.map (·.pattern) := by
      have hBoth := congrArg (List.map Prod.snd) h.rules
      rw [List.map_map, List.map_map] at hBoth
      exact hBoth
    rw [hPatterns]
    exact List.Subset.refl _
  categories category hAllows := h.categories ▸ hAllows

/-- A rule of the one is a rule of the other, up to its priority. -/
theorem rule_at (h : c.SameButPriorities d) {i : Nat} {rule : CustomRule}
    (hRule : c.customRules[i]? = some rule) :
    ∃ rule', d.customRules[i]? = some rule' ∧ rule'.name = rule.name ∧
      rule'.pattern = rule.pattern := by
  have hAt := congrArg (·[i]?) h.rules
  simp only [List.getElem?_map, hRule, Option.map_some] at hAt
  obtain ⟨rule', hRule', hSame⟩ := Option.map_eq_some_iff.mp hAt
  obtain ⟨hName, hPattern⟩ := Prod.ext_iff.mp hSame
  exact ⟨rule', hRule', hName, hPattern⟩

/-- Rules that agree in all but priorities take the same names. -/
theorem taken (h : c.SameButPriorities d) {i : Nat} {name : String} (hTaken : c.Taken i name) :
    d.Taken i name := by
  rcases hTaken with hBuiltin | ⟨k, hPos, hLe, rfl⟩ | ⟨j, hj, earlier, hEarlier, rfl⟩
  · exact .inl hBuiltin
  · exact .inr (.inl ⟨k, hPos, h.texts ▸ hLe, rfl⟩)
  · obtain ⟨earlier', hEarlier', hName, -⟩ := h.rule_at hEarlier
    exact .inr (.inr ⟨j, hj, earlier', hEarlier', hName⟩)

/-- Nothing is wrong with the one that is not wrong with the other. -/
theorem fault (h : c.SameButPriorities d) {n : Nat} {why : Refusal} (hFault : c.Fault n why) :
    d.Fault n why := by
  cases hFault with
  | tooLarge hText hHeavy => exact .tooLarge (h.texts ▸ hText) hHeavy
  | rule hRule =>
    rw [← h.texts]
    refine .rule ?_
    cases hRule with
    | unreadable hRule hRead =>
      obtain ⟨rule', hRule', hName, hPattern⟩ := h.rule_at hRule
      rw [← hName]
      exact .unreadable hRule' (hPattern ▸ hRead)
    | taken hRule hRead hTaken =>
      obtain ⟨rule', hRule', hName, hPattern⟩ := h.rule_at hRule
      rw [← hName]
      exact .taken hRule' (hPattern ▸ hRead) (hName ▸ h.taken hTaken)

end SameButPriorities

end Config

/-! ## Asking for more -/

namespace Remover

open Rule

/-- A custom rule has the pattern that its text is read as. -/
theorem pattern_of_custom {name source : String} {priority : Int} {r : Rule}
    (h : Rule.custom name source priority = .ok r) :
    Pattern.read true source.toList = .ok r.pattern ∧ r.category = .custom := by
  unfold Rule.custom Rule.make at h
  split at h
  · rename_i pattern hRead
    cases h
    exact ⟨hRead, rfl⟩
  · cases h

/-- **An engine keeps what its configuration asks for.** -/
theorem keeps_iff_wants {c : Config} {r : Remover} (hMake : make c = .ok r)
    (comment : List Char) : r.engine.keeps comment = true ↔ c.Wants comment := by
  obtain ⟨-, customs, hCustoms, hFollows⟩ := follows_of_make hMake
  have hSelects : ∀ rule, r.engine.selects comment rule = true ↔
      c.categories.allows rule.category = true ∧ rule.applies comment = true := by
    intro rule
    rw [Engine.selects, hFollows.enabled, Bool.and_eq_true]
  have hRules : ∀ rule, rule ∈ r.engine.rules ↔
      rule ∈ Builtin.all ∨ rule ∈ c.keptRules ∨ rule ∈ customs := by
    intro rule
    rw [hFollows.ranked.perm.mem_iff, List.mem_append, List.mem_append]
  rw [Engine.keeps, List.any_eq_true]
  constructor
  · -- A rule that keeps the comment was asked for.
    rintro ⟨rule, hRule, hSelected⟩
    obtain ⟨hAllows, hApplies⟩ := (hSelects rule).mp hSelected
    rcases (hRules rule).mp hRule with hBuiltin | hKept | hCustom
    · exact .inl ⟨rule, hBuiltin, hAllows, hApplies⟩
    · obtain ⟨k, hk, rfl⟩ := List.mem_mapIdx.mp hKept
      exact .inr (.inl ⟨_, List.getElem_mem hk, hApplies⟩)
    · have hMem : .ok rule ∈ c.customRules.map c.ruleFor := hCustoms ▸ List.mem_map_of_mem hCustom
      obtain ⟨asked, hAsked, hMade⟩ := List.mem_map.mp hMem
      have hRead := (pattern_of_custom hMade).1
      exact .inr (.inr ⟨asked.pattern, List.mem_map_of_mem hAsked, _, hRead, hApplies⟩)
  · -- What was asked for has a rule in the engine.
    rintro (⟨rule, hRule, hAllows, hApplies⟩ | ⟨text, hText, hOccurs⟩ |
      ⟨source, hSource, pattern, hRead, hOccurs⟩)
    · exact ⟨rule, (hRules rule).mpr (.inl hRule), (hSelects rule).mpr ⟨hAllows, hApplies⟩⟩
    · obtain ⟨k, hk, rfl⟩ := List.getElem_of_mem hText
      have hKept : Rule.plain (Config.keptName (k + 1)) c.keepPatterns[k] c.customPriority ∈
          c.keptRules := List.mem_mapIdx.mpr ⟨k, hk, rfl⟩
      exact ⟨_, (hRules _).mpr (.inr (.inl hKept)), (hSelects _).mpr ⟨rfl, hOccurs⟩⟩
    · obtain ⟨asked, hAsked, rfl⟩ := List.mem_map.mp hSource
      have hMem : c.ruleFor asked ∈ customs.map .ok := hCustoms ▸ List.mem_map_of_mem hAsked
      obtain ⟨rule, hRule, hMade⟩ := List.mem_map.mp hMem
      obtain ⟨hOwn, hCategory⟩ := pattern_of_custom hMade.symm
      obtain rfl : rule.pattern = pattern := Except.ok.inj (hOwn.symm.trans hRead)
      refine ⟨rule, (hRules rule).mpr (.inr (.inr hRule)), (hSelects rule).mpr ⟨?_, hOccurs⟩⟩
      rw [hCategory]
      rfl

/-- If another configuration asks for more, the comments of a text are the same and all that
stay still stay. -/
theorem spares_of_within {c d : Config} {r r' : Remover} (hMake : make c = .ok r)
    (hMake' : make d = .ok r') (h : c.Within d) (content : List Char) (extension : String) :
    r'.commentsFound content extension = r.commentsFound content extension ∧
    ∀ s, r.spares content extension s = true → r'.spares content extension s = true := by
  obtain ⟨-, hConfig, hTokenizer⟩ := make_eq_ok_iff.mp hMake
  obtain ⟨-, hConfig', hTokenizer'⟩ := make_eq_ok_iff.mp hMake'
  have hReads : r'.tokenizer = r.tokenizer := by
    have hOptions : d.options = c.options := by
      rw [Config.options, Config.options, h.recover, h.limits]
    rw [hTokenizer, hTokenizer', hOptions]
  have hFallback : r'.config.fallback = r.config.fallback := by rw [hConfig, hConfig', h.fallback]
  refine ⟨commentsFound_alike hReads hFallback .., fun s hs => ?_⟩
  rw [spares, Bool.or_eq_true, (process_alike hReads hFallback content extension).2]
  rw [spares, Bool.or_eq_true] at hs
  -- An interpreter line stays for its place, which is the same.
  refine hs.imp_right fun hKeeps => ?_
  exact (keeps_iff_wants hMake' _).mpr (h.wants ((keeps_iff_wants hMake _).mp hKeeps))

/-- **Asking for more keeps more.** If a second configuration that is accepted too asks for all
that a first one asks for, and reads texts like it, then on every text the same comments are
found, each goes or stays, and those that stay under the first stay under the second. So no
more of them are removed and no fewer preserved, together they are as many, and the first
output is a subsequence of the second. If only priorities are changed, the configuration is
still accepted, and contents and counts are the same. -/
theorem process_monotone {c : Config} {r : Remover} (hMake : make c = .ok r) :
    (∀ d r', make d = .ok r' → c.Within d → ∀ content extension,
      let out := (r.process content extension).1
      let out' := (r'.process content extension).1
      let found := r.commentsFound content extension
      out.Sifts content found (r.spares content extension) ∧
      out'.Sifts content found (r'.spares content extension) ∧
      (∀ s ∈ found, r.spares content extension s = true → r'.spares content extension s = true) ∧
      out'.removed ≤ out.removed ∧ out.preserved ≤ out'.preserved ∧
      out'.removed + out'.preserved = out.removed + out.preserved ∧
      out.content.Sublist out'.content) ∧
    ∀ d, c.SameButPriorities d → ∃ r', make d = .ok r' ∧ ∀ content extension,
      let out := (r.process content extension).1
      let out' := (r'.process content extension).1
      out'.content = out.content ∧ out'.removed = out.removed ∧
        out'.preserved = out.preserved := by
  constructor
  · intro d r' hMake' hWithin content extension out out' found
    obtain ⟨hFound, hStays⟩ := spares_of_within hMake hMake' hWithin content extension
    have hOut := r.process_sifts content extension
    have hOut' := hFound ▸ r'.process_sifts content extension
    obtain ⟨hRemoved, hPreserved, hContent⟩ := hOut.monotone hOut' hStays
    exact ⟨hOut, hOut', fun s _ => hStays s, hRemoved, hPreserved,
      hOut'.total.trans hOut.total.symm, hContent⟩
  · intro d hSame
    -- A fault would be one of the first configuration too.
    have hAccepted : ∃ r', make d = .ok r' := by
      cases hMake' : make d with
      | ok r' => exact ⟨r', rfl⟩
      | error why =>
        obtain ⟨n, hFault, -⟩ := make_eq_error_iff_first.mp hMake'
        exact absurd (hSame.symm.fault hFault) ((follows_of_make hMake).1 n why)
    obtain ⟨r', hMake'⟩ := hAccepted
    refine ⟨r', hMake', fun content extension => ?_⟩
    -- Each of the two asks for all that the other one asks for.
    obtain ⟨hFound, hStays⟩ := spares_of_within hMake hMake' hSame.within content extension
    have hBack := (spares_of_within hMake' hMake hSame.symm.within content extension).2
    have hOut := r.process_sifts content extension
    have hOut' := hFound ▸ r'.process_sifts content extension
    obtain ⟨hRemoved, hPreserved, hContent⟩ := hOut.monotone hOut' hStays
    obtain ⟨hRemoved', hPreserved', hContent'⟩ := hOut'.monotone hOut hBack
    exact ⟨hContent'.antisymm hContent, Nat.le_antisymm hRemoved hRemoved',
      Nat.le_antisymm hPreserved' hPreserved⟩

/-- One text to keep, then a second one and a rule for digits. With the priority of texts to keep
below that of every rule nothing changes. -/
theorem process_monotone_digits :
    let c : Config := { keepPatterns := ["keep"], categories := ⟨false, false, false, false⟩ }
    let d : Config := { c with
      keepPatterns := ["note", "keep"], customRules := [⟨"digits", "[0-9]", some 1000⟩] }
    let content := "/*keep*/a/*note*/b/*1*/c/*d*/".toList
    ∃ r r' r'', make c = .ok r ∧ make d = .ok r' ∧ make { c with customPriority := -1 } = .ok r'' ∧
      (r.process content "js").1.content = "/*keep*/abc".toList ∧
      (r'.process content "js").1.content = "/*keep*/a/*note*/b/*1*/c".toList ∧
      (r.process content "js").1.content.Sublist (r'.process content "js").1.content ∧
      (r''.process content "js").1.content = (r.process content "js").1.content := by
  intro c d content
  -- The two runs are evaluated; that one result is part of the other comes from the theorem.
  have hLess : (make c).toOption.map (fun r => (r.process content "js").1.content) =
      some "/*keep*/abc".toList := by decide +kernel
  have hMore : (make d).toOption.map (fun r => (r.process content "js").1.content) =
      some "/*keep*/a/*note*/b/*1*/c".toList := by decide +kernel
  have hWithin : c.Within d := by
    refine ⟨rfl, rfl, rfl, ?_, List.nil_subset _, fun _ h => h⟩
    exact List.subset_cons_self "note" ["keep"]
  cases hMake : make c with
  | error why => rw [hMake] at hLess; cases hLess
  | ok r =>
    cases hMake' : make d with
    | error why => rw [hMake'] at hMore; cases hMore
    | ok r' =>
      rw [hMake] at hLess
      rw [hMake'] at hMore
      obtain ⟨hMonotone, hPriorities⟩ := process_monotone hMake
      obtain ⟨r'', hMake'', hSame⟩ :=
        hPriorities { c with customPriority := -1 } ⟨rfl, rfl, rfl, rfl, rfl, rfl⟩
      obtain ⟨-, -, -, -, -, -, hContent⟩ := hMonotone d r' hMake' hWithin content "js"
      exact ⟨r, r', r'', rfl, rfl, hMake'', Option.some.inj hLess, Option.some.inj hMore, hContent,
        (hSame content "js").1⟩

end Remover

end CommentSieve
