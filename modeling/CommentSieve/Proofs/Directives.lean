import CommentSieve.Proofs.Preferences
import CommentSieve.Proofs.WholeWords

/-!
# Directives

The patterns for tools and for frameworks are alternatives, and each alternative describes the
directives of one tool or framework: fixed words up to case, with blanks and names in between.
What is found in a text is such a directive. The name in a directive for Svelte is found in
full, since a greedy loop goes as far as it can.

Main results:

* `Pattern.Describes.andThen` — a sequence reads what its parts read, one after the other.
* `Pattern.head?_reach_someOf` — a greedy loop stops where there is nothing more to read.
* `Rule.Builtin.directive_of_tooling` — what is found for tools is a directive of a tool.
* `Rule.Builtin.directive_of_framework` — what is found for frameworks is a directive of one.
-/

namespace CommentSieve

open Text

namespace Pattern

/-! ## What a pattern reads -/

/-- A pattern that reads the runs of a language and remembers nothing. -/
def Describes (p : Pattern) (language : List Char → Prop) : Prop :=
  ∀ passed text u, p.Takes (place passed text) u ↔
    ∃ run rest, text = run ++ rest ∧ language run ∧ u = place (passed ++ run) rest

/-- The runs of one language after those of another. -/
def Joined (K L : List Char → Prop) (run : List Char) : Prop :=
  ∃ front back, run = front ++ back ∧ K front ∧ L back

/-- One pattern after another, without nesting. -/
def andThen (p q : Pattern) : Pattern := seqs (p.elements ++ q.elements)

theorem takes_andThen {p q : Pattern} {t u : Trail} :
    (andThen p q).Takes t u ↔ ∃ v, p.Takes t v ∧ q.Takes v u := by
  simp only [andThen, takes_seqs, takesAll_append, takesAll_elements]

theorem describes_upToCase (w : String) : (upToCase w.toList).Describes (Spells [w]) := by
  intro passed text u
  rw [takes_upToCase_place]
  simp [Spells]

theorem describes_anyOf {words : List String} (h : words ≠ []) :
    (anyOf words).Describes (Spells words) :=
  fun _ _ _ => takes_anyOf h

/-- Fixed characters describe one run. -/
theorem describes_chars (cs : List Char) : (chars cs).Describes (· = cs) := by
  intro passed text u
  rw [takes_chars_place]
  constructor
  · rintro ⟨rest, rfl, rfl⟩
    exact ⟨cs, rest, rfl, rfl, rfl⟩
  · rintro ⟨_, rest, rfl, rfl, rfl⟩
    exact ⟨rest, rfl, rfl⟩

variable {p q : Pattern} {K L : List Char → Prop}

/-- A sequence reads what its parts read, one after the other. -/
theorem Describes.andThen (hp : p.Describes K) (hq : q.Describes L) :
    (p.andThen q).Describes (Joined K L) := by
  intro passed text u
  rw [takes_andThen]
  constructor
  · rintro ⟨v, hFront, hBack⟩
    obtain ⟨front, _, rfl, hK, rfl⟩ := (hp _ _ _).mp hFront
    obtain ⟨back, rest, rfl, hL, rfl⟩ := (hq _ _ _).mp hBack
    exact ⟨front ++ back, rest, (List.append_assoc ..).symm, ⟨front, back, rfl, hK, hL⟩,
      by rw [List.append_assoc]⟩
  · rintro ⟨_, rest, rfl, ⟨front, back, rfl, hK, hL⟩, rfl⟩
    refine ⟨_, (hp _ _ _).mpr ⟨front, back ++ rest, List.append_assoc .., hK, rfl⟩, ?_⟩
    exact (hq _ _ _).mpr ⟨back, rest, rfl, hL, by rw [List.append_assoc]⟩

/-- Alternatives describe what either of them does. -/
theorem Describes.alt (hp : p.Describes K) (hq : q.Describes L) :
    (alt p q).Describes fun run => K run ∨ L run := by
  intro passed text u
  rw [takes_alt, hp, hq]
  constructor
  · rintro (⟨run, rest, hText, hK, hPlace⟩ | ⟨run, rest, hText, hL, hPlace⟩)
    · exact ⟨run, rest, hText, .inl hK, hPlace⟩
    · exact ⟨run, rest, hText, .inr hL, hPlace⟩
  · rintro ⟨run, rest, hText, hK | hL, hPlace⟩
    · exact .inl ⟨run, rest, hText, hK, hPlace⟩
    · exact .inr ⟨run, rest, hText, hL, hPlace⟩

/-! ## Loops -/

/-- A pattern that may be left out. -/
def maybe (p : Pattern) : Pattern := rep p 0 (some 1) true

/-- What may be left out describes the empty run, too. -/
theorem Describes.maybe (hp : p.Describes K) : p.maybe.Describes fun run => run = [] ∨ K run := by
  intro passed text u
  -- At most one repetition is allowed, so there is none or one.
  have hCount : p.maybe.Takes (place passed text) u ↔
      u = place passed text ∨ p.Takes (place passed text) u := by
    constructor
    · rintro ⟨count, -, hMax, hTimes⟩
      have hLe : count ≤ 1 := hMax 1 rfl
      rcases Nat.le_one_iff_eq_zero_or_eq_one.mp hLe with rfl | rfl
      · exact .inl hTimes
      · obtain ⟨v, hTakes, rfl⟩ := hTimes
        exact .inr hTakes
    · rintro (rfl | hTakes)
      · exact ⟨0, Nat.le_refl _, fun _ _ => Nat.zero_le _, rfl⟩
      · refine ⟨1, Nat.zero_le _, fun limit hMax => ?_, _, hTakes, rfl⟩
        obtain rfl := Option.some.inj hMax
        exact Nat.le_refl _
  rw [hCount, hp]
  constructor
  · rintro (rfl | ⟨run, rest, hText, hK, hPlace⟩)
    · exact ⟨[], text, rfl, .inl rfl, by rw [List.append_nil]⟩
    · exact ⟨run, rest, hText, .inr hK, hPlace⟩
  · rintro ⟨run, rest, rfl, rfl | hK, rfl⟩
    · exact .inl (by rw [List.append_nil]; rfl)
    · exact .inr ⟨run, rest, rfl, hK, rfl⟩

/-- At least so many characters of a kind. -/
def RunOf (p : Char → Bool) (min : Nat) (run : List Char) : Prop :=
  min ≤ run.length ∧ ∀ c ∈ run, p c = true

/-- At least so many characters of a set, as many as there are. -/
def someOf (s : CharSet) (min : Nat) : Pattern := rep (set s) min none true

/-- A set that is repeated takes as many of its members. -/
theorem times_set {s : CharSet} {count : Nat} {passed text : List Char} {u : Trail} :
    Times (set s).Takes count (place passed text) u ↔
      ∃ run rest, text = run ++ rest ∧ run.length = count ∧ (∀ c ∈ run, s.mem c = true) ∧
        u = place (passed ++ run) rest := by
  -- Each repetition reads one character, so the count is the length of the run.
  induction count generalizing passed text with
  | zero =>
    constructor
    · rintro rfl
      exact ⟨[], text, rfl, rfl, by simp, by rw [List.append_nil]⟩
    · rintro ⟨run, rest, rfl, hLength, -, rfl⟩
      obtain rfl := List.length_eq_zero_iff.mp hLength
      simp [Times]
  | succ count ih =>
    constructor
    · rintro ⟨v, hSet, hTimes⟩
      obtain ⟨c, _, rfl, hMem, rfl⟩ := takes_set_place.mp hSet
      obtain ⟨run, rest, rfl, hLength, hRun, rfl⟩ := ih.mp hTimes
      exact ⟨c :: run, rest, rfl, congrArg (· + 1) hLength,
        List.forall_mem_cons.mpr ⟨hMem, hRun⟩, by rw [List.append_assoc]; rfl⟩
    · rintro ⟨run, rest, rfl, hLength, hRun, rfl⟩
      cases run with
      | nil => cases hLength
      | cons c run =>
        obtain ⟨hMem, hRun⟩ := List.forall_mem_cons.mp hRun
        refine ⟨_, takes_set_place.mpr ⟨c, run ++ rest, rfl, hMem, rfl⟩, ih.mpr ?_⟩
        exact ⟨run, rest, rfl, Nat.succ.inj hLength, hRun, by rw [List.append_assoc]; rfl⟩

/-- Some members of a set are a run of them, which is not shorter than asked for. -/
theorem describes_someOf (s : CharSet) (min : Nat) :
    (someOf s min).Describes (RunOf s.mem min) := by
  intro passed text u
  constructor
  · rintro ⟨count, hMin, -, hTimes⟩
    obtain ⟨run, rest, hText, rfl, hRun, hPlace⟩ := times_set.mp hTimes
    exact ⟨run, rest, hText, ⟨hMin, hRun⟩, hPlace⟩
  · rintro ⟨run, rest, hText, ⟨hMin, hRun⟩, hPlace⟩
    exact ⟨run.length, hMin, by simp, times_set.mpr ⟨run, rest, hText, rfl, hRun, hPlace⟩⟩

/-! ## What is preferred -/

theorem reach_andThen (p q : Pattern) (ts : List Trail) :
    (andThen p q).reach ts = q.reach (p.reach ts) := by
  rw [andThen, reach_seqs_append, reach_elements, reach_elements]

/-- A greedy loop stops where there is nothing more to read. -/
theorem head?_reach_someOf {s : CharSet} {t u : Trail}
    (h : ((someOf s 1).reach [t]).head? = some u) : u.read? s = none := by
  have hLoop : (someOf s 1).reach [t] = loopSet s true ([t].filterMap (Trail.read? s)) := rfl
  rw [hLoop] at h
  cases hRead : t.read? s with
  | none => simp [hRead, loopSet] at h
  | some v =>
    have hLast : (runs s 0 v.rest.length v).getLast? = some u := by
      simpa [hRead, loopSet, upToSet] using h
    exact read?_of_getLast?_runs (Nat.le_refl _) hLast

end Pattern

namespace Rule.Builtin

open Pattern

/-! ## Directives of tools -/

/-- The directives of a tool. -/
inductive ToolDirective : Tool → List Char → Prop
  | esLint {run : List Char} :
    Spells ["eslint-disable", "eslint-disable-next-line", "eslint-enable",
      "eslint-enable-next-line"] run → ToolDirective .esLint run
  | prettier {run : List Char} : Spells ["prettier-ignore"] run → ToolDirective .prettier run
  | typeScript {run : List Char} :
    Spells ["@ts-ignore", "@ts-expect-error", "@ts-nocheck"] run → ToolDirective .typeScript run
  | coverage {tool gap verb : List Char} :
    Spells ["istanbul", "c8"] tool → RunOf isBlank 1 gap → Spells ["ignore"] verb →
      ToolDirective .coverage (tool ++ (gap ++ verb))

/-- The pattern for tools. -/
def toolingPattern : Pattern := alts [
  andThen (upToCase "eslint-".toList)
    (andThen (anyOf ["disable", "enable"]) (maybe (upToCase "-next-line".toList))),
  upToCase "prettier-ignore".toList,
  andThen (upToCase "@ts-".toList) (anyOf ["ignore", "expect-error", "nocheck"]),
  andThen (anyOf ["istanbul", "c8"]) (andThen (someOf .blank 1) (upToCase "ignore".toList))]

theorem tooling_pattern : tooling.pattern = toolingPattern := by
  rw [tooling]
  apply pattern_rule
  decide +kernel

/-- What is found for tools is a directive of a tool. -/
theorem directive_of_tooling {passed text : List Char} {u : Trail}
    (h : toolingPattern.Takes (place passed text) u) :
    ∃ tool run rest, text = run ++ rest ∧ ToolDirective tool run ∧
      u = place (passed ++ run) rest := by
  have hEsLint := (describes_upToCase "eslint-").andThen
    ((describes_anyOf (List.cons_ne_nil "disable" ["enable"])).andThen
      (describes_upToCase "-next-line").maybe)
  have hTypeScript := (describes_upToCase "@ts-").andThen
    (describes_anyOf (List.cons_ne_nil "ignore" ["expect-error", "nocheck"]))
  have hCoverage := (describes_anyOf (List.cons_ne_nil "istanbul" ["c8"])).andThen
    ((describes_someOf .blank 1).andThen (describes_upToCase "ignore"))
  have hTooling := hEsLint.alt ((describes_upToCase "prettier-ignore").alt
    (hTypeScript.alt hCoverage))
  obtain ⟨run, rest, hText, hRun, hPlace⟩ := (hTooling passed text u).mp h
  suffices hTool : ∃ tool, ToolDirective tool run by
    obtain ⟨tool, hTool⟩ := hTool
    exact ⟨tool, run, rest, hText, hTool, hPlace⟩
  rcases hRun with ⟨lead, _, rfl, hLead, command, suffix, rfl, hCommand, hSuffix⟩ | hPrettier |
    ⟨lead, what, rfl, hLead, hWhat⟩ | ⟨tool, _, rfl, hTool, gap, verb, rfl, hGap, hVerb⟩
  · -- A suffix that is left out is the empty word.
    have hSuffix : Spells ["", "-next-line"] suffix := by
      rcases hSuffix with rfl | hSuffix
      · exact ⟨"", by simp, rfl⟩
      · exact hSuffix.mono (by simp)
    exact ⟨_, .esLint ((hLead.append (hCommand.append hSuffix)).mono (by decide))⟩
  · exact ⟨_, .prettier hPrettier⟩
  · exact ⟨_, .typeScript ((hLead.append hWhat).mono (by decide))⟩
  · exact ⟨_, .coverage hTool hGap hVerb⟩

/-! ## Directives of frameworks -/

/-- A character of the name of a rule. -/
def isRuleChar (c : Char) : Bool := isWord c || c == '-'

/-- A character of a name with dots. -/
def isDottedChar (c : Char) : Bool := isWord c || c == '.'

/-- The directives of a framework, with the rule that they name and the text after them. -/
inductive FrameworkDirective : Framework → Option String → List Char → List Char → Prop
  /-- The name is all that can be read as one. -/
  | svelte {lead gap name after : List Char} :
    Spells ["svelte-ignore"] lead → RunOf isBlank 1 gap → RunOf isRuleChar 1 name →
      after.head?.any isRuleChar = false →
      FrameworkDirective .svelte (some (String.ofList name)) (lead ++ gap ++ name) after
  | vue {gap word after : List Char} :
    RunOf isBlank 0 gap → Spells ["eslint-disable"] word →
      FrameworkDirective .vue none ("<!--".toList ++ (gap ++ word)) after
  | react {lead gap name after : List Char} :
    Spells ["@jsx"] lead → RunOf isBlank 1 gap → RunOf isDottedChar 1 name →
      FrameworkDirective .react none (lead ++ (gap ++ name)) after
  | typeScript {gap lead space key pad after : List Char} :
    RunOf isBlank 0 gap → Spells ["<reference"] lead → RunOf isBlank 1 space →
      Spells ["path", "types", "lib", "no-default-lib"] key → RunOf isBlank 0 pad →
      FrameworkDirective .typeScript none
        ("///".toList ++ (gap ++ (lead ++ (space ++ (key ++ (pad ++ ['='])))))) after
  | webpack {lead gap after : List Char} :
    Spells ["webpackChunkName", "webpackMode", "webpackPrefetch", "webpackPreload",
        "webpackIgnore", "webpackInclude", "webpackExclude", "webpackExports"] lead →
      RunOf isBlank 0 gap → FrameworkDirective .webpack none (lead ++ (gap ++ [':'])) after

/-- The parts of the directive that names a rule. -/
theorem FrameworkDirective.svelte_parts {rule : Option String} {run after : List Char}
    (h : FrameworkDirective .svelte rule run after) :
    ∃ lead gap name, run = lead ++ gap ++ name ∧ lead.length = "svelte-ignore".toList.length ∧
      RunOf isBlank 1 gap ∧ RunOf isRuleChar 1 name ∧ rule = some (String.ofList name) := by
  cases h with
  | svelte hLead hGap hName _ =>
    obtain ⟨w, hw, hAlike⟩ := hLead
    obtain rfl := List.mem_singleton.mp hw
    exact ⟨_, _, _, rfl, hAlike.length_eq.symm, hGap, hName, rfl⟩

theorem FrameworkDirective.rule_eq_none {which : Framework} {rule : Option String}
    {run after : List Char} (h : FrameworkDirective which rule run after)
    (hOther : which ≠ .svelte) : rule = none := by
  cases h <;> first | rfl | exact absurd rfl hOther

/-- The gap before a name is all the blanks there are. -/
theorem takeWhile_isBlank {gap name : List Char} (hGap : RunOf isBlank 1 gap)
    (hName : RunOf isRuleChar 1 name) : (gap ++ name).takeWhile isBlank = gap := by
  obtain ⟨hLength, hChars⟩ := hName
  cases name with
  | nil => cases hLength
  | cons c cs =>
    have hBlank : isBlank c = false := by
      by_contra hBlank
      have hBlank : isBlank c = true := by simpa using hBlank
      have hChar := hChars c (List.mem_cons_self ..)
      rw [isRuleChar, isWord_of_isBlank hBlank, Bool.false_or, beq_iff_eq] at hChar
      subst hChar
      cases hBlank
    rw [List.takeWhile_append_of_pos hGap.2, List.takeWhile_cons, hBlank]
    simp

/-- The rule that a directive names can be told from its text. -/
theorem FrameworkDirective.rule_unique {which : Framework} {rule rule' : Option String}
    {run after : List Char} (h : FrameworkDirective which rule run after)
    (h' : FrameworkDirective which rule' run after) : rule = rule' := by
  by_cases hSvelte : which = .svelte
  · subst hSvelte
    obtain ⟨lead, gap, name, hRun, hLead, hGap, hName, rfl⟩ := h.svelte_parts
    obtain ⟨lead', gap', name', hRun', hLead', hGap', hName', rfl⟩ := h'.svelte_parts
    have hParts : lead ++ (gap ++ name) = lead' ++ (gap' ++ name') := by
      rw [← List.append_assoc, ← List.append_assoc, ← hRun, ← hRun']
    have hRest := (List.append_inj hParts (hLead.trans hLead'.symm)).2
    -- The name starts after all the blanks.
    have hGaps : gap = gap' := by
      rw [← takeWhile_isBlank hGap hName, hRest, takeWhile_isBlank hGap' hName']
    subst hGaps
    rw [List.append_cancel_left hRest]
  · rw [h.rule_eq_none hSvelte, h'.rule_eq_none hSvelte]

/-- What the name of a rule consists of, as the set that patterns have for it: word characters
and hyphens. -/
def ruleChars : CharSet := .folded (.union .word (.single '-'))

/-- What a dotted name consists of, as a set: word characters and dots. -/
def dottedChars : CharSet := .folded (.union .word (.single '.'))

theorem mem_ruleChars : ruleChars.mem = isRuleChar := by
  funext c
  rw [ruleChars, mem_folded_word, mem_single, isRuleChar]

theorem mem_dottedChars : dottedChars.mem = isDottedChar := by
  funext c
  rw [dottedChars, mem_folded_word, mem_single, isDottedChar]

/-- The pattern for directives of Svelte, which remembers the name. -/
def sveltePattern : Pattern :=
  andThen (andThen (upToCase "svelte-ignore".toList) (someOf .blank 1))
    (group 1 (some "svelte_rule") (someOf ruleChars 1))

/-- The pattern for the other frameworks. -/
def pragmaPattern : Pattern := alts [
  andThen (chars "<!--".toList) (andThen (someOf .blank 0) (upToCase "eslint-disable".toList)),
  andThen (upToCase "@jsx".toList) (andThen (someOf .blank 1) (someOf dottedChars 1)),
  andThen (chars "///".toList) (andThen (someOf .blank 0) (andThen (upToCase "<reference".toList)
    (andThen (someOf .blank 1) (andThen (anyOf ["path", "types", "lib", "no-default-lib"])
      (andThen (someOf .blank 0) (chars ['='])))))),
  andThen (upToCase "webpack".toList)
    (andThen (anyOf ["ChunkName", "Mode", "Prefetch", "Preload", "Ignore", "Include", "Exclude",
      "Exports"]) (andThen (someOf .blank 0) (chars [':'])))]

/-- The pattern for frameworks. -/
def frameworkPattern : Pattern := alt sveltePattern pragmaPattern

theorem framework_pattern : framework.pattern = frameworkPattern := by
  rw [framework]
  apply pattern_rule
  decide +kernel

/-- What the pattern for pragmas takes is such a directive. -/
theorem directive_of_pragma {passed text : List Char} {u : Trail}
    (h : pragmaPattern.Takes (place passed text) u) :
    ∃ which run rest, text = run ++ rest ∧ FrameworkDirective which none run rest ∧
      u = place (passed ++ run) rest := by
  -- What the four alternatives describe, part by part as the pattern is put together.
  have hVue := (describes_chars "<!--".toList).andThen
    ((describes_someOf .blank 0).andThen (describes_upToCase "eslint-disable"))
  have hReact := (describes_upToCase "@jsx").andThen
    ((describes_someOf .blank 1).andThen (describes_someOf dottedChars 1))
  have hTypeScript := (describes_chars "///".toList).andThen ((describes_someOf .blank 0).andThen
    ((describes_upToCase "<reference").andThen ((describes_someOf .blank 1).andThen
      ((describes_anyOf (List.cons_ne_nil "path" ["types", "lib", "no-default-lib"])).andThen
        ((describes_someOf .blank 0).andThen (describes_chars ['=']))))))
  have hWebpack := (describes_upToCase "webpack").andThen
    ((describes_anyOf (List.cons_ne_nil "ChunkName" ["Mode", "Prefetch", "Preload", "Ignore",
      "Include", "Exclude", "Exports"])).andThen
      ((describes_someOf .blank 0).andThen (describes_chars [':'])))
  obtain ⟨run, rest, hText, hRun, hPlace⟩ :=
    (hVue.alt (hReact.alt (hTypeScript.alt hWebpack)) passed text u).mp h
  suffices hDirective : ∃ which, FrameworkDirective which none run rest by
    obtain ⟨which, hDirective⟩ := hDirective
    exact ⟨which, run, rest, hText, hDirective, hPlace⟩
  -- Each alternative gives one constructor.
  rcases hRun with ⟨_, _, rfl, rfl, gap, word, rfl, hGap, hWord⟩ |
    ⟨lead, _, rfl, hLead, gap, name, rfl, hGap, hName⟩ |
    ⟨_, _, rfl, rfl, gap, _, rfl, hGap, lead, _, rfl, hLead, space, _, rfl, hSpace, key, _, rfl,
      hKey, pad, _, rfl, hPad, rfl⟩ |
    ⟨lead, _, rfl, hLead, option, _, rfl, hOption, gap, _, rfl, hGap, rfl⟩
  · exact ⟨_, .vue hGap hWord⟩
  · rw [mem_dottedChars] at hName
    exact ⟨_, .react hLead hGap hName⟩
  · exact ⟨_, .typeScript hGap hLead hSpace hKey hPad⟩
  · have hDirective : FrameworkDirective .webpack none ((lead ++ option) ++ (gap ++ [':'])) rest :=
      .webpack ((hLead.append hOption).mono (by decide)) hGap
    rw [List.append_assoc] at hDirective
    exact ⟨_, hDirective⟩

/-- A directive for Svelte is found with its name in full, which is remembered. -/
theorem directive_of_svelte {passed text : List Char} {u : Trail}
    (h : (sveltePattern.reach [place passed text]).head? = some u) :
    ∃ front name rest, text = front ++ (name ++ rest) ∧
      FrameworkDirective .svelte (some (String.ofList name)) (front ++ name) rest ∧
      u = (place (passed ++ front ++ name) rest).remember (some "svelte_rule")
        (passed ++ front).length := by
  have hStart := (describes_upToCase "svelte-ignore").andThen (describes_someOf .blank 1)
  rw [sveltePattern, reach_andThen] at h
  obtain ⟨v, hv, hu⟩ := exists_of_head?_fromEach h
  obtain ⟨_, _, rfl, ⟨lead, gap, rfl, hLead, hGap⟩, rfl⟩ :=
    (hStart _ _ _).mp (takes_of_mem_ends hv)
  rw [List.head?_map, Option.map_eq_some_iff] at hu
  obtain ⟨w, hw, rfl⟩ := hu
  obtain ⟨name, rest, rfl, hName, rfl⟩ :=
    (describes_someOf _ _ _ _ _).mp (takes_of_mem_ends (List.mem_of_mem_head? hw))
  -- The loop is greedy, so the name ends where none of its characters follows.
  have hRest : rest.head?.any isRuleChar = false := by
    have hRead := head?_reach_someOf hw
    cases rest with
    | nil => rfl
    | cons c cs => simpa [Trail.read?, place, mem_ruleChars] using hRead
  rw [mem_ruleChars] at hName
  exact ⟨lead ++ gap, name, rest, rfl, .svelte hLead hGap hName hRest, rfl⟩

/-- What is found for frameworks is a directive of one, and for Svelte its name is remembered. -/
theorem directive_of_framework {passed text : List Char} {f : Found}
    (h : frameworkPattern.at? (place passed text) = some f) :
    ∃ which rule run rest, text = run ++ rest ∧ FrameworkDirective which rule run rest ∧
      f.start = passed.length ∧ f.stop = passed.length + run.length ∧
      (which = .svelte → (f.group? "svelte_rule" (passed ++ text)).map String.ofList = rule) := by
  obtain ⟨u, hu, rfl⟩ := Option.map_eq_some_iff.mp h
  rw [frameworkPattern, ends, head?_alt, Option.or_eq_some_iff] at hu
  rcases hu with hSvelte | ⟨-, hPragma⟩
  · obtain ⟨front, name, rest, rfl, hDirective, rfl⟩ := directive_of_svelte hSvelte
    refine ⟨_, _, front ++ name, rest, (List.append_assoc ..).symm, hDirective, rfl, ?_, ?_⟩
    · simp [place, Trail.remember]
    · intro _
      have hLength : passed.length + (front.length + name.length) -
          (passed.length + front.length) = name.length := by omega
      simp [place, Trail.remember, Found.group?, Found.between, hLength]
  · have hTakes := takes_of_mem_ends (List.mem_of_mem_head? hPragma)
    obtain ⟨which, run, rest, rfl, hDirective, rfl⟩ := directive_of_pragma hTakes
    refine ⟨which, none, run, rest, rfl, hDirective, rfl, by simp [place], ?_⟩
    rintro rfl
    cases hDirective

end Rule.Builtin

end CommentSieve
