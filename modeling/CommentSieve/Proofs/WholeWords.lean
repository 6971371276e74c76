import CommentSieve.Proofs.PlainText
import CommentSieve.Rule.Builtin

/-!
# Whole words

A pattern for words with a word boundary on each side finds whole words only: runs of word
characters that no word character precedes or follows and that spell one of the words. It does
not matter which of the words is tried first, since the run at a place is the same for all of
them; a word that another one starts with is no exception.

Main results:

* `takes_wholeWords` — what is found at a place is the word there, in full.
* `find?_wholeWords` — the first such word of a text is found.
* `Rule.Builtin.development_finds_first_keyword` — notes to developers are found by the first
  whole word that is a keyword.
-/

namespace CommentSieve

open Text

/-! ## Words in a text -/

/-- A run of word characters between two places at which words end. -/
structure WordRun (before run after : List Char) : Prop where
  nonempty : run ≠ []
  isWord : ∀ c ∈ run, isWord c = true
  left : before.getLast?.any Text.isWord = false
  right : after.head?.any Text.isWord = false

/-- A run that is one of some words, up to case. -/
def Spells (words : List String) (run : List Char) : Prop := ∃ w ∈ words, Alike w.toList run

/-- Whether a run spells one of the words is decided word by word. -/
instance (words : List String) (run : List Char) : Decidable (Spells words run) :=
  inferInstanceAs (Decidable (∃ w ∈ words, Alike w.toList run))

/-- Words of word characters. -/
def AreWords (words : List String) : Prop :=
  ∀ w ∈ words, w.toList ≠ [] ∧ w.toList.all isWord = true

/-- Whether words consist of word characters is decided character by character. -/
instance (words : List String) : Decidable (AreWords words) :=
  inferInstanceAs (Decidable (∀ w ∈ words, w.toList ≠ [] ∧ w.toList.all isWord = true))

/-- Being made of word characters does not depend on the spelling. -/
theorem Text.Alike.isWord {a b : List Char} (h : Alike a b) (ha : ∀ c ∈ a, isWord c = true) :
    ∀ d ∈ b, isWord d = true := by
  induction a generalizing b with
  | nil => simp [alike_nil.mp h]
  | cons c cs ih =>
    obtain ⟨d, ds, rfl, hSame, hAlike⟩ := alike_cons.mp h
    refine List.forall_mem_cons.mpr ⟨?_, ih hAlike fun e he => ha e (List.mem_cons_of_mem _ he)⟩
    rw [← isWord_eq_of_sameFold hSame]
    exact ha c (List.mem_cons_self ..)

theorem Spells.mono {words more : List String} {run : List Char} (h : Spells words run)
    (hMore : words ⊆ more) : Spells more run := by
  obtain ⟨w, hw, hAlike⟩ := h
  exact ⟨w, hMore hw, hAlike⟩

/-- Spellings of words one after the other are a spelling of the words put together. -/
theorem Spells.append {words more : List String} {a b : List Char} (ha : Spells words a)
    (hb : Spells more b) : Spells (words.flatMap fun w => more.map (w ++ ·)) (a ++ b) := by
  obtain ⟨w, hw, hAlike⟩ := ha
  obtain ⟨v, hv, hAlike'⟩ := hb
  refine ⟨w ++ v, List.mem_flatMap.mpr ⟨w, hw, List.mem_map_of_mem hv⟩, ?_⟩
  rw [String.toList_append]
  exact hAlike.append hAlike'

/-- A spelling of a word is a word. -/
theorem Spells.isWord {words : List String} (hWords : AreWords words) {run : List Char}
    (h : Spells words run) : run ≠ [] ∧ ∀ c ∈ run, Text.isWord c = true := by
  obtain ⟨w, hw, hAlike⟩ := h
  obtain ⟨hNonempty, hWord⟩ := hWords w hw
  refine ⟨?_, hAlike.isWord (List.all_eq_true.mp hWord)⟩
  rw [← List.length_pos_iff] at hNonempty ⊢
  rwa [← hAlike.length_eq]

/-- A run of word characters starts with one. -/
theorem head?_isWord {run : List Char} (hRun : run ≠ []) (hWord : ∀ c ∈ run, isWord c = true)
    (after : List Char) : (run ++ after).head?.any isWord = true := by
  cases run with
  | nil => exact absurd rfl hRun
  | cons c cs => exact hWord c (List.mem_cons_self ..)

theorem getLast?_isWord {run : List Char} (hRun : run ≠ []) (hWord : ∀ c ∈ run, isWord c = true)
    (before : List Char) : (before ++ run).getLast?.any isWord = true := by
  rw [List.getLast?_append, List.getLast?_eq_some_getLast hRun]
  exact hWord _ (List.getLast_mem hRun)

/-- A word is all the word characters from where it starts. -/
theorem takeWhile_isWord {run after : List Char} (hRun : ∀ c ∈ run, isWord c = true)
    (hAfter : after.head?.any isWord = false) : (run ++ after).takeWhile isWord = run := by
  rw [List.takeWhile_append_of_pos hRun]
  cases after with
  | nil => simp
  | cons c cs => simp [show isWord c = false from hAfter]

/-- Where a word ends does not depend on how the text is divided. -/
theorem eq_of_isWord_append {run after run' after' : List Char} (hRun : ∀ c ∈ run, isWord c = true)
    (hAfter : after.head?.any isWord = false) (hRun' : ∀ c ∈ run', isWord c = true)
    (hAfter' : after'.head?.any isWord = false) (h : run ++ after = run' ++ after') :
    run = run' ∧ after = after' := by
  have hSame : run = run' := by
    rw [← takeWhile_isWord hRun hAfter, h, takeWhile_isWord hRun' hAfter']
  subst hSame
  exact ⟨rfl, List.append_cancel_left h⟩

/-- There is one word at a place. -/
theorem WordRun.unique {before run after run' after' : List Char} (h : WordRun before run after)
    (h' : WordRun before run' after') (hSame : run ++ after = run' ++ after') :
    run = run' ∧ after = after' :=
  eq_of_isWord_append h.isWord h.right h'.isWord h'.right hSame

/-- The first whole word of a text that is one of some words, with what is around it. -/
structure FirstWord (words : List String) (text before run after : List Char) : Prop where
  text_eq : text = before ++ run ++ after
  whole : WordRun before run after
  spells : Spells words run
  first : ∀ before' run' after', text = before' ++ run' ++ after' →
    WordRun before' run' after' → Spells words run' → before.length ≤ before'.length

/-- The span of the first word cuts out its run. -/
theorem FirstWord.found_text {words : List String} {text before run after : List Char}
    (h : FirstWord words text before run after) :
    Pattern.Found.text ⟨before.length, before.length + run.length, []⟩ text = run := by
  rw [h.text_eq]
  simp [Pattern.Found.text, Pattern.Found.between]

namespace Pattern

/-! ## Patterns for words -/

/-- One of some words, up to case. -/
def anyOf (words : List String) : Pattern := alts (words.map fun w => upToCase w.toList)

/-- A place at which a word starts or ends. -/
def edge : Pattern := look (.word .boundary false)

/-- One of some words, with nothing more of a word around it. -/
def wholeWords (words : List String) : Pattern := seqs [edge, anyOf words, edge]

variable {words : List String}

/-- One of the words takes a run exactly where the run spells a word. -/
theorem takes_anyOf (hNonempty : words ≠ []) {passed text : List Char} {u : Trail} :
    (anyOf words).Takes (place passed text) u ↔
      ∃ run rest, text = run ++ rest ∧ Spells words run ∧ u = place (passed ++ run) rest := by
  rw [anyOf, takes_alts (by simpa using hNonempty)]
  simp only [List.mem_map, Spells]
  constructor
  · rintro ⟨_, ⟨w, hw, rfl⟩, hTakes⟩
    obtain ⟨run, rest, hText, hAlike, hPlace⟩ := takes_upToCase_place.mp hTakes
    exact ⟨run, rest, hText, ⟨w, hw, hAlike⟩, hPlace⟩
  · rintro ⟨run, rest, hText, ⟨w, hw, hAlike⟩, hPlace⟩
    exact ⟨_, ⟨w, hw, rfl⟩, takes_upToCase_place.mpr ⟨run, rest, hText, hAlike, hPlace⟩⟩

theorem takes_edge {t u : Trail} :
    edge.Takes t u ↔ (t.before.any isWord != t.rest.head?.any isWord) = true ∧ u = t := Iff.rfl

/-- What is found at a place is the word there, in full. -/
theorem takes_wholeWords (hWords : AreWords words) (hNonempty : words ≠ [])
    {passed text : List Char} {u : Trail} :
    (wholeWords words).Takes (place passed text) u ↔
      ∃ run rest, text = run ++ rest ∧ WordRun passed run rest ∧ Spells words run ∧
        u = place (passed ++ run) rest := by
  -- An edge takes nothing, so the word starts where the match does.
  have hParts : (wholeWords words).Takes (place passed text) u ↔
      (passed.getLast?.any isWord != text.head?.any isWord) = true ∧ ∃ v,
        (anyOf words).Takes (place passed text) v ∧ edge.Takes v u := by
    simp only [wholeWords, seqs, Takes, takes_edge]
    constructor
    · rintro ⟨_, ⟨hStart, rfl⟩, hRest⟩
      exact ⟨hStart, hRest⟩
    · rintro ⟨hStart, hRest⟩
      exact ⟨_, ⟨hStart, rfl⟩, hRest⟩
  rw [hParts]
  simp only [takes_anyOf hNonempty, takes_edge]
  constructor
  · rintro ⟨hStart, _, ⟨run, rest, rfl, hSpells, rfl⟩, hStop, rfl⟩
    obtain ⟨hRun, hWord⟩ := hSpells.isWord hWords
    rw [head?_isWord hRun hWord] at hStart
    have hStop : ((passed ++ run).getLast?.any isWord != rest.head?.any isWord) = true := hStop
    rw [getLast?_isWord hRun hWord] at hStop
    exact ⟨run, rest, rfl, ⟨hRun, hWord, by simpa using hStart, by simpa using hStop⟩, hSpells, rfl⟩
  · rintro ⟨run, rest, rfl, hRun, hSpells, rfl⟩
    refine ⟨?_, _, ⟨run, rest, rfl, hSpells, rfl⟩, ?_, rfl⟩
    · rw [head?_isWord hRun.nonempty hRun.isWord, hRun.left]
      rfl
    · change ((passed ++ run).getLast?.any isWord != rest.head?.any isWord) = true
      rw [getLast?_isWord hRun.nonempty hRun.isWord, hRun.right]
      rfl

/-! ## The first word -/

/-- Alternatives without loops make a pattern without loops. -/
theorem loopFree_alts {ps : List Pattern} (h : ∀ p ∈ ps, p.loopFree = true) :
    (alts ps).loopFree = true := by
  fun_induction alts ps with
  | case1 => rfl
  | case2 p => exact h p (List.mem_singleton_self _)
  | case3 p more _ ih =>
    rw [loopFree, h p (List.mem_cons_self ..), ih fun q hq => h q (List.mem_cons_of_mem _ hq)]
    rfl

theorem loopFree_anyOf (words : List String) : (anyOf words).loopFree = true := by
  refine loopFree_alts fun p hp => ?_
  obtain ⟨w, -, rfl⟩ := List.mem_map.mp hp
  exact loopFree_upToCase _

theorem loopFree_wholeWords (words : List String) : (wholeWords words).loopFree = true := by
  simp [wholeWords, seqs, edge, loopFree, loopFree_anyOf]

/-- Where one of the words stands, it is found. -/
theorem at?_wholeWords (hWords : AreWords words) (hNonempty : words ≠ [])
    {passed text : List Char} {f : Found} :
    (wholeWords words).at? (place passed text) = some f ↔
      ∃ run rest, text = run ++ rest ∧ WordRun passed run rest ∧ Spells words run ∧
        f = ⟨passed.length, passed.length + run.length, []⟩ := by
  constructor
  · intro hAt
    obtain ⟨u, hTakes, rfl⟩ := takes_of_at? hAt
    obtain ⟨run, rest, hText, hRun, hSpells, rfl⟩ := (takes_wholeWords hWords hNonempty).mp hTakes
    exact ⟨run, rest, hText, hRun, hSpells, by simp [place]⟩
  · rintro ⟨run, rest, rfl, hRun, hSpells, rfl⟩
    have hTakes := (takes_wholeWords hWords hNonempty).mpr ⟨run, rest, rfl, hRun, hSpells, rfl⟩
    rw [at?_eq_some (loopFree_wholeWords words) hTakes fun v hv => ?_]
    · simp [place]
    · -- Another word that the pattern can take one over is the same run of word characters.
      obtain ⟨run', rest', hText, hRun', -, rfl⟩ := (takes_wholeWords hWords hNonempty).mp hv
      obtain ⟨rfl, rfl⟩ := hRun.unique hRun' hText
      rfl

/-- The first such word of a text is found. -/
theorem find?_wholeWords (hWords : AreWords words) (hNonempty : words ≠ [])
    {text : List Char} {f : Found} :
    (wholeWords words).find? text = some f ↔
      ∃ before run after, FirstWord words text before run after ∧
        f = ⟨before.length, before.length + run.length, []⟩ := by
  rw [find?_eq_some_iff (searcher_of_loopFree (loopFree_wholeWords words))]
  constructor
  · rintro ⟨before, rest, rfl, hAt, hFirst⟩
    obtain ⟨run, after, rfl, hRun, hSpells, rfl⟩ := (at?_wholeWords hWords hNonempty).mp hAt
    refine ⟨before, run, after, ⟨by simp, hRun, hSpells, ?_⟩, rfl⟩
    -- An earlier word would have matched at its own place.
    intro before' run' after' hText' hRun' hSpells'
    refine Nat.le_of_not_lt fun hLt => ?_
    have hNone := hFirst before' (run' ++ after') (by rw [hText', List.append_assoc]) hLt
    rw [(at?_wholeWords hWords hNonempty).mpr ⟨run', after', rfl, hRun', hSpells', rfl⟩] at hNone
    cases hNone
  · rintro ⟨before, run, after, ⟨rfl, hRun, hSpells, hFirst⟩, rfl⟩
    refine ⟨before, run ++ after, List.append_assoc .., ?_, fun before' rest' hText' hLt => ?_⟩
    · exact (at?_wholeWords hWords hNonempty).mpr ⟨run, after, rfl, hRun, hSpells, rfl⟩
    · rw [Option.eq_none_iff_forall_ne_some]
      intro f hAt
      obtain ⟨run', after', rfl, hRun', hSpells', -⟩ := (at?_wholeWords hWords hNonempty).mp hAt
      have hLe := hFirst before' run' after' (by rw [hText', List.append_assoc]) hRun' hSpells'
      exact absurd hLt (Nat.not_lt.mpr hLe)

end Pattern

namespace Rule.Builtin

/-- The pattern of a rule is what its source is read as. -/
theorem pattern_rule {name source : String} {priority : Int} {category : Category}
    {extractor : Extractor} {p : Pattern} (h : Pattern.read true source.toList = .ok p) :
    (rule name source priority category extractor).pattern = p := by
  rw [rule, patternOf, h]

/-! ## Notes to developers -/

/-- The keywords of notes to developers. -/
def keywords : List String := ["TODO", "FIXME", "HACK", "NOTE", "XXX", "BUG", "WARN", "WARNING"]

theorem development_pattern : development.pattern = Pattern.wholeWords keywords := by
  rw [development]
  apply pattern_rule
  decide +kernel

theorem areWords_keywords : AreWords keywords := by decide +kernel

/-- A search for a development note finds the first keyword of the text. -/
theorem find?_development {text : List Char} {found : Pattern.Found} :
    (Pattern.wholeWords keywords).find? text = some found ↔
      ∃ before run after, FirstWord keywords text before run after ∧
        found = ⟨before.length, before.length + run.length, []⟩ :=
  Pattern.find?_wholeWords areWords_keywords (List.cons_ne_nil _ _)

/-- What is noted of a text with a note to developers is what is found, in upper case. -/
theorem extract_development (p : Pattern) (text : List Char) :
    Extractor.development.extract p text =
      (p.find? text).elim .nothing fun f => .keyword (String.ofList (upper (f.text text))) := by
  rw [Extractor.extract]
  cases p.find? text <;> rfl

/-- What is noted is the first keyword in upper case. -/
theorem metadata_development (text : List Char) {word : String} :
    development.metadata text = .keyword word ↔
      ∃ before run after, FirstWord keywords text before run after ∧
        word = String.ofList (upper run) := by
  -- The pattern is read once, as the choice of whole words.
  have hMetadata : development.metadata text = Extractor.development.extract
      (Pattern.wholeWords keywords) text := by
    rw [← development_pattern]
    rfl
  rw [hMetadata, extract_development]
  constructor
  · intro hWord
    cases hFind : (Pattern.wholeWords keywords).find? text with
    | none =>
      rw [hFind] at hWord
      cases hWord
    | some found =>
      rw [hFind] at hWord
      obtain ⟨before, run, after, hFirst, rfl⟩ := find?_development.mp hFind
      refine ⟨before, run, after, hFirst, ?_⟩
      rw [← hFirst.found_text]
      exact (Metadata.keyword.inj hWord).symm
  · rintro ⟨before, run, after, hFirst, rfl⟩
    rw [find?_development.mpr ⟨before, run, after, hFirst, rfl⟩, Option.elim_some,
      hFirst.found_text]

/-- Notes to developers are the texts with a whole word that is a keyword, up to case. The run
that is found is the first such word in full, and what is noted is that word in upper case. -/
theorem development_finds_first_keyword (text : List Char) :
    (development.applies text = true ↔
      ∃ before run after, text = before ++ run ++ after ∧ WordRun before run after ∧
        Spells keywords run) ∧
    (∀ found, development.pattern.find? text = some found ↔
      ∃ before run after, FirstWord keywords text before run after ∧
        found = ⟨before.length, before.length + run.length, []⟩) ∧
    ∀ word, development.metadata text = .keyword word ↔
      ∃ before run after, FirstWord keywords text before run after ∧
        word = String.ofList (upper run) := by
  have hWords := areWords_keywords
  have hNonempty : keywords ≠ [] := List.cons_ne_nil _ _
  refine ⟨?_, ?_, ?_⟩
  · rw [Rule.applies, development_pattern, Pattern.occursIn_iff (Pattern.loopFree_wholeWords _)]
    simp only [Pattern.takes_wholeWords hWords hNonempty]
    constructor
    · rintro ⟨before, _, rfl, _, run, after, rfl, hRun, hSpells, -⟩
      exact ⟨before, run, after, (List.append_assoc ..).symm, hRun, hSpells⟩
    · rintro ⟨before, run, after, rfl, hRun, hSpells⟩
      exact ⟨before, run ++ after, List.append_assoc .., _, run, after, rfl, hRun, hSpells, rfl⟩
  · intro found
    rw [development_pattern]
    exact find?_development
  · exact fun word => metadata_development text

end Rule.Builtin

end CommentSieve
