import CommentSieve.Proofs.Directives
import CommentSieve.Proofs.Spellings

/-!
# Labels of directives

A directive is recognised by its first characters in lower case, and a keyword is noted in
upper case. Patterns compare characters by their case folding, which knows two characters more:
a long s agrees with an `s` and the sign for kelvins with a `k`. The label names the tool or
framework whose directive was found, and the keyword is one of the words looked for, unless one
of these two characters stands where it matters. Then a directive is taken for one of the tool or
framework that is last in line, and the sign for kelvins stays in the keyword.

Main results:

* `Rule.Builtin.toolOf_directive`, `Rule.Builtin.frameworkOf_directive` — what a directive is
  taken for.
* `Rule.Builtin.upper_keyword` — what a keyword becomes.
* `Rule.Builtin.labels_by_directive` — what is noted, for every text.
-/

namespace CommentSieve

open Text

namespace Rule.Builtin

/-! ## Labels by first characters -/

section Tables

variable {α : Type}

/-- The label of the first text in a table that a text starts with. -/
def labelBy (other : α) (low : List Char) : List (String × α) → α
  | [] => other
  | (start, label) :: more => if startsWith start.toList low then label else labelBy other low more

/-- Whether a text either starts with another one or cannot be completed to do so. -/
def settles (low start : List Char) : Bool := startsWith start low || !startsWith low start

theorem startsWith_cons (s c : Char) (start text : List Char) :
    startsWith (s :: start) (c :: text) = (decide (s = c) && startsWith start text) := by
  rw [startsWith, stripStart?]
  by_cases h : s = c <;> simp [h, startsWith]

/-- Where it is settled whether a text starts so, nothing after it matters. -/
theorem startsWith_append {low start : List Char} (h : settles low start = true)
    (rest : List Char) : startsWith start (low ++ rest) = startsWith start low := by
  induction start generalizing low with
  | nil => rfl
  | cons s start ih =>
    cases low with
    | nil => cases h
    | cons c low =>
      rw [List.cons_append, startsWith_cons, startsWith_cons]
      by_cases hc : s = c
      · subst hc
        rw [settles, startsWith_cons, startsWith_cons, decide_eq_true rfl, Bool.true_and,
          Bool.true_and] at h
        rw [ih h]
      · rw [decide_eq_false hc, Bool.false_and, Bool.false_and]

/-- Nothing after a text matters for its label, if all entries of the table are settled in it. -/
theorem labelBy_append {other : α} {low : List Char} {table : List (String × α)}
    (h : ∀ entry ∈ table, settles low entry.1.toList = true) (rest : List Char) :
    labelBy other (low ++ rest) table = labelBy other low table := by
  induction table with
  | nil => rfl
  | cons entry more ih =>
    obtain ⟨hEntry, hMore⟩ := List.forall_mem_cons.mp h
    rw [labelBy, labelBy, startsWith_append hEntry, ih hMore]

/-- A text that starts with one of some words gets their label, unless a long s is among its
first three characters, if that is so for all that the words can become in lower case. -/
theorem labelBy_spelling {other label : α} {table : List (String × α)} {words : List String}
    (hWords : ∀ w ∈ words, isAscii w = true ∧ ∀ low ∈ lowered w,
      (∀ entry ∈ table, settles low entry.1.toList = true) ∧ (3 ≤ low.length ∨ label = other) ∧
        labelBy other low table = if 'ſ' ∈ low.take 3 then other else label)
    {lead : List Char} (hLead : Spells words lead) (rest : List Char) :
    labelBy other ((lead ++ rest).map Char.toLower) table =
      if 'ſ' ∈ (lead ++ rest).take 3 then other else label := by
  obtain ⟨w, hw, hAlike⟩ := hLead
  obtain ⟨hAscii, hLowered⟩ := hWords w hw
  -- In lower case the word is one of few texts, each long enough to decide the label.
  obtain ⟨hSettled, hLong, hLabel⟩ := hLowered _ (map_toLower_mem_lowered hAscii hAlike)
  rw [List.map_append, labelBy_append hSettled, hLabel]
  rcases hLong with hLong | rfl
  · rw [List.length_map] at hLong
    rw [List.take_append_of_le_length hLong]
    simp only [longS_mem_take_iff]
  · rw [ite_self, ite_self]

end Tables

/-! ## Tools and frameworks -/

/-- What directives of tools start with. -/
def toolStarts : List (String × Tool) :=
  [("eslint", .esLint), ("prettier", .prettier), ("@ts-", .typeScript)]

/-- What directives of frameworks start with. -/
def frameworkStarts : List (String × Framework) :=
  [("svelte-ignore", .svelte), ("<!--", .vue), ("@jsx", .react), ("///", .typeScript)]

theorem toolOf_eq_labelBy (run : List Char) :
    toolOf run = labelBy .coverage (run.map Char.toLower) toolStarts := rfl

theorem frameworkOf_eq_labelBy (run : List Char) :
    frameworkOf run = labelBy .webpack (run.map Char.toLower) frameworkStarts := rfl

/-- A directive of a tool is taken for what it is, unless a long s is among its first three
characters. -/
theorem toolOf_directive {tool : Tool} {run : List Char} (h : ToolDirective tool run) :
    toolOf run = if 'ſ' ∈ run.take 3 then .coverage else tool := by
  rw [toolOf_eq_labelBy]
  cases h with
  | esLint hRun | prettier hRun | typeScript hRun =>
    rw [← List.append_nil run]
    exact labelBy_spelling (by decide +kernel) hRun []
  | coverage hTool _ _ => exact labelBy_spelling (by decide +kernel) hTool _

/-- A directive of a framework is taken for what it is, unless a long s is among its first three
characters. -/
theorem frameworkOf_directive {which : Framework} {rule : Option String} {run after : List Char}
    (h : FrameworkDirective which rule run after) :
    frameworkOf run = if 'ſ' ∈ run.take 3 then .webpack else which := by
  rw [frameworkOf_eq_labelBy]
  have hSymbol : ∀ w : String, Spells [w] w.toList := fun w => ⟨w, List.mem_singleton_self _, rfl⟩
  cases h with
  | svelte hLead _ _ _ =>
    rw [List.append_assoc]
    exact labelBy_spelling (by decide +kernel) hLead _
  | vue _ _ => exact labelBy_spelling (by decide +kernel) (hSymbol "<!--") _
  | react hLead _ _ => exact labelBy_spelling (by decide +kernel) hLead _
  | typeScript _ _ _ _ _ => exact labelBy_spelling (by decide +kernel) (hSymbol "///") _
  | webpack hLead _ => exact labelBy_spelling (by decide +kernel) hLead _

/-! ## Keywords -/

/-- A keyword becomes one of the words looked for, except for the sign for kelvins. -/
theorem upper_keyword {run : List Char} {w : String} (hw : w ∈ keywords)
    (h : Alike w.toList run) :
    String.ofList (upper run) = if '\u212A' ∈ run then "HAC\u212A" else w := by
  have hWords : ∀ w ∈ keywords, isAscii w = true ∧
      w.toList.all (fun c => (spellings c).all fun d =>
        decide ('\u212A' ∈ upperChar d ↔ d = '\u212A')) = true ∧
      ∀ up ∈ images upperChar w.toList,
        up = if '\u212A' ∈ up then "HAC\u212A".toList else w.toList := by
    decide +kernel
  obtain ⟨hAscii, hChars, hImages⟩ := hWords w hw
  have hUpper := hImages _ (flatMap_mem_images upperChar hAscii h)
  -- No other spelling becomes the sign for kelvins, and that one does not become anything else.
  have hOne : ∀ d ∈ run, ('\u212A' ∈ upperChar d ↔ d = '\u212A') := by
    intro d hd
    obtain ⟨c, hc, hSame⟩ := h.exists_of_mem hd
    have hChar := List.all_eq_true.mp hChars c hc
    have hSpelling := mem_spellings (toNat_lt_of_isAscii hAscii hc) hSame
    exact of_decide_eq_true (List.all_eq_true.mp hChar d hSpelling)
  have hKelvin : '\u212A' ∈ run.flatMap upperChar ↔ '\u212A' ∈ run := by
    rw [List.mem_flatMap]
    constructor
    · rintro ⟨d, hd, hMem⟩
      rwa [← (hOne d hd).mp hMem]
    · exact fun hMem => ⟨_, hMem, (hOne _ hMem).mpr rfl⟩
  rw [if_congr hKelvin rfl rfl] at hUpper
  rw [upper, hUpper]
  split <;> exact String.ofList_toList

/-! ## What is noted -/

/-- A run in a text that was found, with what is around it. -/
structure RunFound (f : Pattern.Found) (text before run after : List Char) : Prop where
  text_eq : text = before ++ (run ++ after)
  start_eq : f.start = before.length
  stop_eq : f.stop = before.length + run.length

theorem RunFound.found_text {f : Pattern.Found} {text before run after : List Char}
    (h : RunFound f text before run after) : f.text text = run := by
  rw [Pattern.Found.text, h.start_eq, h.stop_eq, h.text_eq]
  simp [Pattern.Found.between]

/-- What is found is one run at one place. -/
theorem RunFound.unique {f : Pattern.Found} {text before run after before' run' after' : List Char}
    (h : RunFound f text before run after) (h' : RunFound f text before' run' after') :
    before = before' ∧ run = run' ∧ after = after' := by
  obtain ⟨hBefore, hRest⟩ := List.append_inj (h.text_eq.symm.trans h'.text_eq)
    (h.start_eq.symm.trans h'.start_eq)
  have hRun : run = run' := h.found_text.symm.trans h'.found_text
  subst hRun
  exact ⟨hBefore, rfl, List.append_cancel_left hRest⟩

/-- The run that a rule finds in a text, with what is around it. -/
def Finds (r : Rule) (text before run after : List Char) : Prop :=
  ∃ f, r.pattern.find? text = some f ∧ RunFound f text before run after

theorem applies_iff_exists {r : Rule} {text : List Char} :
    r.applies text = true ↔ ∃ f, r.pattern.find? text = some f :=
  Option.isSome_iff_exists

theorem searcher_tooling : toolingPattern.searcher = .direct toolingPattern := by
  have hLoops : (toolingPattern.hasPlainLoops && !toolingPattern.opensWithLoop) = true := by
    decide +kernel
  rw [Pattern.searcher, if_pos hLoops]

theorem searcher_framework : frameworkPattern.searcher = .direct frameworkPattern := by
  have hLoops : (frameworkPattern.hasPlainLoops && !frameworkPattern.opensWithLoop) = true := by
    decide +kernel
  rw [Pattern.searcher, if_pos hLoops]

/-- The label is that of the tool that the run found names. -/
theorem extract_tooling (p : Pattern) (text : List Char) :
    Extractor.tooling.extract p text =
      (p.find? text).elim .nothing fun f => .tool (toolOf (f.text text)) := by
  rw [Extractor.extract]
  cases p.find? text <;> rfl

/-- The label is that of the framework, and only one of them comes with a name. -/
theorem extract_framework (p : Pattern) (text : List Char) :
    Extractor.framework.extract p text = (p.capture? text).elim .nothing fun f =>
      .framework (frameworkOf (f.text text)) (if frameworkOf (f.text text) = .svelte then
        (f.group? "svelte_rule" text).map String.ofList else none) := by
  rw [Extractor.extract]
  cases p.capture? text with
  | none => rfl
  | some f =>
    rw [Option.elim_some]
    dsimp only
    cases frameworkOf (f.text text) <;> rfl

/-- What is found for tools is a directive of a tool. -/
theorem exists_toolDirective {text : List Char} {f : Pattern.Found}
    (h : tooling.pattern.find? text = some f) :
    ∃ before run after tool, RunFound f text before run after ∧ ToolDirective tool run := by
  rw [tooling_pattern, Pattern.find?_eq_some_iff searcher_tooling] at h
  obtain ⟨before, _, rfl, hAt, -⟩ := h
  obtain ⟨u, hTakes, rfl⟩ := Pattern.takes_of_at? hAt
  obtain ⟨tool, run, after, rfl, hTool, rfl⟩ := directive_of_tooling hTakes
  exact ⟨before, run, after, tool, ⟨rfl, rfl, List.length_append⟩, hTool⟩

/-- The tool that is noted is the one whose directive is found, unless a long s is among its
first three characters. -/
theorem metadata_tooling (text : List Char) {label : Tool} :
    tooling.metadata text = .tool label ↔
      ∃ before run after tool, Finds tooling text before run after ∧ ToolDirective tool run ∧
        label = if 'ſ' ∈ run.take 3 then .coverage else tool := by
  have hMetadata : tooling.metadata text = Extractor.tooling.extract tooling.pattern text := rfl
  rw [hMetadata, extract_tooling]
  constructor
  · intro hLabel
    cases hFind : tooling.pattern.find? text with
    | none =>
      rw [hFind] at hLabel
      cases hLabel
    | some f =>
      rw [hFind] at hLabel
      obtain ⟨before, run, after, tool, hRun, hTool⟩ := exists_toolDirective hFind
      refine ⟨before, run, after, tool, ⟨f, hFind, hRun⟩, hTool, ?_⟩
      rw [← toolOf_directive hTool, ← hRun.found_text]
      exact (Metadata.tool.inj hLabel).symm
  · rintro ⟨before, run, after, tool, ⟨f, hFind, hRun⟩, hTool, rfl⟩
    rw [hFind, Option.elim_some, hRun.found_text, toolOf_directive hTool]

/-- The rule for tools applies exactly where it has a label. -/
theorem applies_tooling (text : List Char) :
    tooling.applies text = true ↔ ∃ label, tooling.metadata text = .tool label := by
  rw [applies_iff_exists]
  constructor
  · rintro ⟨f, hFind⟩
    obtain ⟨before, run, after, tool, hRun, hTool⟩ := exists_toolDirective hFind
    exact ⟨_, (metadata_tooling text).mpr
      ⟨before, run, after, tool, ⟨f, hFind, hRun⟩, hTool, rfl⟩⟩
  · rintro ⟨label, hLabel⟩
    obtain ⟨_, _, _, _, ⟨f, hFind, -⟩, -⟩ := (metadata_tooling text).mp hLabel
    exact ⟨f, hFind⟩

/-- What is found for frameworks is a directive of one, and for Svelte its name is remembered. -/
theorem exists_frameworkDirective {text : List Char} {f : Pattern.Found}
    (h : framework.pattern.find? text = some f) :
    ∃ before run after which rule, RunFound f text before run after ∧
      FrameworkDirective which rule run after ∧
      (which = .svelte → (f.group? "svelte_rule" text).map String.ofList = rule) := by
  rw [framework_pattern, Pattern.find?_eq_some_iff searcher_framework] at h
  obtain ⟨before, _, rfl, hAt, -⟩ := h
  obtain ⟨which, rule, run, after, rfl, hDirective, hStart, hStop, hName⟩ :=
    directive_of_framework hAt
  exact ⟨before, run, after, which, rule, ⟨rfl, hStart, hStop⟩, hDirective, hName⟩

/-- What is noted of a directive of a framework. -/
def frameworkNote (which : Framework) (rule : Option String) (run : List Char) :
    Framework × Option String :=
  if 'ſ' ∈ run.take 3 then (.webpack, none) else (which, rule)

/-- A run is a directive of one framework only. -/
theorem frameworkNote_unique {which which' : Framework} {rule rule' : Option String}
    {run after : List Char} (h : FrameworkDirective which rule run after)
    (h' : FrameworkDirective which' rule' run after) :
    frameworkNote which rule run = frameworkNote which' rule' run := by
  have hWhich := (frameworkOf_directive h).symm.trans (frameworkOf_directive h')
  unfold frameworkNote
  by_cases hLong : 'ſ' ∈ run.take 3
  · rw [if_pos hLong, if_pos hLong]
  · rw [if_neg hLong, if_neg hLong] at hWhich ⊢
    subst hWhich
    rw [h.rule_unique h']

/-- What the rule says is told by the run that the pattern finds. -/
theorem metadata_framework_eq (text : List Char) :
    framework.metadata text = (framework.pattern.find? text).elim .nothing fun f =>
      .framework (frameworkOf (f.text text)) (if frameworkOf (f.text text) = .svelte then
        (f.group? "svelte_rule" text).map String.ofList else none) := by
  have hMetadata : framework.metadata text =
      Extractor.framework.extract framework.pattern text := rfl
  rw [hMetadata, framework_pattern, extract_framework, Pattern.capture?_eq_find? searcher_framework]

/-- What is noted of a directive that is found, if the name in it is the one remembered. -/
theorem metadata_of_frameworkDirective {text : List Char} {f : Pattern.Found}
    {before run after : List Char} {which : Framework} {rule : Option String}
    (hFind : framework.pattern.find? text = some f) (hRun : RunFound f text before run after)
    (hDirective : FrameworkDirective which rule run after)
    (hName : which = .svelte → (f.group? "svelte_rule" text).map String.ofList = rule) :
    framework.metadata text =
      .framework (frameworkNote which rule run).1 (frameworkNote which rule run).2 := by
  rw [metadata_framework_eq, hFind, Option.elim_some, hRun.found_text,
    frameworkOf_directive hDirective, frameworkNote]
  by_cases hLong : 'ſ' ∈ run.take 3
  · rw [if_pos hLong, if_pos hLong]
    rfl
  · rw [if_neg hLong, if_neg hLong]
    by_cases hSvelte : which = .svelte
    · rw [if_pos hSvelte, hName hSvelte]
    · rw [if_neg hSvelte, hDirective.rule_eq_none hSvelte]

/-- The framework that is noted is the one whose directive is found, with the rule that it names,
unless a long s is among its first three characters. -/
theorem metadata_framework (text : List Char) {label : Framework} {name : Option String} :
    framework.metadata text = .framework label name ↔
      ∃ before run after which rule, Finds framework text before run after ∧
        FrameworkDirective which rule run after ∧
        (label, name) = if 'ſ' ∈ run.take 3 then (.webpack, none) else (which, rule) := by
  constructor
  · intro hLabel
    cases hFind : framework.pattern.find? text with
    | none =>
      rw [metadata_framework_eq, hFind] at hLabel
      cases hLabel
    | some f =>
      obtain ⟨before, run, after, which, rule, hRun, hDirective, hName⟩ :=
        exists_frameworkDirective hFind
      have hNote := metadata_of_frameworkDirective hFind hRun hDirective hName
      obtain ⟨rfl, rfl⟩ := Metadata.framework.inj (hLabel.symm.trans hNote)
      exact ⟨before, run, after, which, rule, ⟨f, hFind, hRun⟩, hDirective, rfl⟩
  · rintro ⟨before, run, after, which, rule, ⟨f, hFind, hRun⟩, hDirective, hLabel⟩
    obtain ⟨before', run', after', which', rule', hRun', hDirective', hName⟩ :=
      exists_frameworkDirective hFind
    -- The directive that is read off the text need not be the one that was found, but both
    -- are noted in the same way.
    obtain ⟨rfl, rfl, rfl⟩ := hRun.unique hRun'
    have hSame : (label, name) = frameworkNote which' rule' run :=
      hLabel.trans (frameworkNote_unique hDirective hDirective')
    rw [metadata_of_frameworkDirective hFind hRun' hDirective' hName, ← hSame]

/-- The rule for frameworks applies exactly where it has a label. -/
theorem applies_framework (text : List Char) :
    framework.applies text = true ↔
      ∃ label name, framework.metadata text = .framework label name := by
  rw [applies_iff_exists]
  constructor
  · rintro ⟨f, hFind⟩
    obtain ⟨before, run, after, which, rule, hRun, hDirective, -⟩ :=
      exists_frameworkDirective hFind
    exact ⟨_, _, (metadata_framework text).mpr
      ⟨before, run, after, which, rule, ⟨f, hFind, hRun⟩, hDirective, rfl⟩⟩
  · rintro ⟨label, name, hLabel⟩
    obtain ⟨_, _, _, _, _, ⟨f, hFind, -⟩, -⟩ := (metadata_framework text).mp hLabel
    exact ⟨f, hFind⟩

/-- The keyword that is noted is one of the words looked for, except for the sign for kelvins. -/
theorem keyword_development (text : List Char) {word : String} :
    development.metadata text = .keyword word ↔
      ∃ before run after, Finds development text before run after ∧ ∃ w ∈ keywords,
        Alike w.toList run ∧ word = if '\u212A' ∈ run then "HAC\u212A" else w := by
  rw [metadata_development]
  constructor
  · rintro ⟨before, run, after, hFirst, rfl⟩
    obtain ⟨w, hw, hAlike⟩ := hFirst.spells
    have hFind := find?_development.mpr ⟨before, run, after, hFirst, rfl⟩
    rw [← development_pattern] at hFind
    refine ⟨before, run, after, ⟨_, hFind, ?_, rfl, rfl⟩, w, hw, hAlike, upper_keyword hw hAlike⟩
    rw [hFirst.text_eq, List.append_assoc]
  · rintro ⟨before, run, after, ⟨f, hFind, hRun⟩, w, hw, hAlike, rfl⟩
    rw [development_pattern] at hFind
    obtain ⟨before', run', after', hFirst, rfl⟩ := find?_development.mp hFind
    obtain rfl : run' = run := hFirst.found_text.symm.trans hRun.found_text
    exact ⟨before', run', after', hFirst, (upper_keyword hw hAlike).symm⟩

/-- The rule for keywords applies exactly where it has a keyword. -/
theorem applies_development (text : List Char) :
    development.applies text = true ↔ ∃ word, development.metadata text = .keyword word := by
  rw [applies_iff_exists, development_pattern]
  simp only [find?_development, metadata_development]
  constructor
  · rintro ⟨_, before, run, after, hFirst, rfl⟩
    exact ⟨_, before, run, after, hFirst, rfl⟩
  · rintro ⟨_, before, run, after, hFirst, rfl⟩
    exact ⟨_, before, run, after, hFirst, rfl⟩

/-- Every text that a built-in rule matches is labelled. Tools and frameworks are named by the
directive that is found, and a keyword by the word that it spells. A long s among the first
three characters makes it a directive of the last tool or framework instead, and the sign for
kelvins stays in a keyword. -/
theorem labels_by_directive (text : List Char) :
    ((tooling.applies text = true ↔ ∃ label, tooling.metadata text = .tool label) ∧
      ∀ label, tooling.metadata text = .tool label ↔
        ∃ before run after tool, Finds tooling text before run after ∧ ToolDirective tool run ∧
          label = if 'ſ' ∈ run.take 3 then .coverage else tool) ∧
    ((framework.applies text = true ↔
        ∃ label name, framework.metadata text = .framework label name) ∧
      ∀ label name, framework.metadata text = .framework label name ↔
        ∃ before run after which rule, Finds framework text before run after ∧
          FrameworkDirective which rule run after ∧
          (label, name) = if 'ſ' ∈ run.take 3 then (.webpack, none) else (which, rule)) ∧
    (development.applies text = true ↔ ∃ word, development.metadata text = .keyword word) ∧
      ∀ word, development.metadata text = .keyword word ↔
        ∃ before run after, Finds development text before run after ∧ ∃ w ∈ keywords,
          Alike w.toList run ∧ word = if '\u212A' ∈ run then "HAC\u212A" else w := by
  exact ⟨⟨applies_tooling text, fun _ => metadata_tooling text⟩,
    ⟨applies_framework text, fun _ _ => metadata_framework text⟩,
    applies_development text, fun _ => keyword_development text⟩

/-- A directive of ESLint that is spelled with a long s is found, and noted as one of a coverage
tool. -/
theorem esLint_noted_as_coverage :
    Finds tooling "// eſlint-disable".toList "// ".toList "eſlint-disable".toList [] ∧
      ToolDirective .esLint "eſlint-disable".toList ∧
      tooling.metadata "// eſlint-disable".toList = .tool .coverage := by
  have hFind : toolingPattern.find? "// eſlint-disable".toList = some ⟨3, 17, []⟩ := by
    decide +kernel
  have hFinds : Finds tooling "// eſlint-disable".toList "// ".toList "eſlint-disable".toList [] :=
    ⟨⟨3, 17, []⟩, by rw [tooling_pattern, hFind], rfl, rfl, rfl⟩
  have hDirective : ToolDirective .esLint "eſlint-disable".toList := .esLint (by decide +kernel)
  exact ⟨hFinds, hDirective,
    (metadata_tooling _).mpr ⟨_, _, _, .esLint, hFinds, hDirective, rfl⟩⟩

end Rule.Builtin

end CommentSieve
