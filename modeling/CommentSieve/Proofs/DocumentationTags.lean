import CommentSieve.Proofs.WholeWords

/-!
# Documentation tags

A documentation tag is an `@` and the whole word after it, if that is one of the words for
tags. Neither a word character nor another `@` may stand before it. The pattern for tags reads
the character before a tag too, if there is one. No tag is missed for that reason: a run that
is found ends before a character that is not part of a word, and whatever lies inside of it
after its first character is the `@` or a word character, so that no other run starts there.

Main results:

* `at?_tagPattern` — what is found at a place is a tag there or after one more character.
* `apart_tagPattern` — runs do not overlap.
* `Rule.Builtin.documentation_finds_all_tags` — what is noted are all tags of a text, in order
  and as they are written.
-/

namespace CommentSieve

open Text

namespace Rule.Builtin

/-! ## Tags in a text -/

/-- A character after which a tag can start. -/
def allowsTag (c : Char) : Bool := !isWord c && c != '@'

/-- The tag that a text starts with: an `@` and the whole word after it, if that is one of the
words for tags and a tag can start after the character before. -/
def tagAt? (before : Option Char) : List Char → Option (List Char)
  | [] => none
  | c :: cs =>
    let word := cs.takeWhile isWord
    if c = '@' ∧ before.all allowsTag = true ∧ Spells documentationTags word then
      some ('@' :: word)
    else none

/-- The tags of a text after a character, from left to right. -/
def tagsFrom (before : Option Char) : List Char → List (List Char)
  | [] => []
  | c :: cs => (tagAt? before (c :: cs)).toList ++ tagsFrom (some c) cs

/-- The tags of a text. -/
def tagsOf (text : List Char) : List (List Char) := tagsFrom none text

theorem areWords_documentationTags : AreWords documentationTags := by decide +kernel

theorem documentationTags_ne_nil : documentationTags ≠ [] := List.cons_ne_nil _ _

/-- A tag at a place is an at sign where one is allowed and a whole word among the tags. -/
theorem tagAt?_eq_some {before : Option Char} {text tag : List Char} :
    tagAt? before text = some tag ↔
      ∃ run rest, text = '@' :: (run ++ rest) ∧ before.all allowsTag = true ∧
        Spells documentationTags run ∧ rest.head?.any isWord = false ∧ tag = '@' :: run := by
  constructor
  · intro h
    cases text with
    | nil => cases h
    | cons c cs =>
      rw [tagAt?, Option.ite_none_right_eq_some] at h
      obtain ⟨⟨rfl, hBefore, hSpells⟩, hTag⟩ := h
      refine ⟨cs.takeWhile isWord, cs.dropWhile isWord, ?_, hBefore, hSpells, ?_,
        (Option.some.inj hTag).symm⟩
      · rw [List.takeWhile_append_dropWhile]
      · have hHead := List.head?_dropWhile_not isWord cs
        cases hRest : (cs.dropWhile isWord).head? with
        | none => rfl
        | some d => simpa [hRest] using hHead
  · rintro ⟨run, rest, rfl, hBefore, hSpells, hRest, rfl⟩
    have hWord := (hSpells.isWord areWords_documentationTags).2
    rw [tagAt?, takeWhile_isWord hWord hRest, if_pos ⟨rfl, hBefore, hSpells⟩]

/-! ## The pattern -/

open Pattern

/-- What the pattern reads before a tag. -/
def beforeTag : CharSet := .compl (.folded (.union .word (.single '@')))

/-- A tag that is remembered, and the end of its word. -/
def tagged : Pattern :=
  seq (group 1 (some "tag") (seqs [chars ['@'], anyOf documentationTags])) edge

/-- A tag at the start of a text or after a character. -/
def tagPattern : Pattern := seqs [alts [look .textStart, set beforeTag], tagged]

theorem mem_beforeTag (c : Char) : beforeTag.mem c = allowsTag c := by
  rw [beforeTag, CharSet.mem, mem_folded_word, mem_single, allowsTag, Bool.not_or]
  rfl

/-- The pattern for a tag takes a whole word among the tags and remembers it with its at sign. -/
theorem takes_tagged {passed text : List Char} {u : Trail} :
    tagged.Takes (place passed text) u ↔
      ∃ run rest, text = '@' :: (run ++ rest) ∧ Spells documentationTags run ∧
        rest.head?.any isWord = false ∧
        u = (place (passed ++ '@' :: run) rest).remember (some "tag") passed.length := by
  -- The sign and the word, before the edge is asked for.
  have hInner : ∀ v, (seqs [chars ['@'], anyOf documentationTags]).Takes (place passed text) v ↔
      ∃ run rest, text = '@' :: (run ++ rest) ∧ Spells documentationTags run ∧
        v = place (passed ++ '@' :: run) rest := by
    intro v
    simp only [seqs, takes_seq, takes_chars_place]
    constructor
    · rintro ⟨_, ⟨_, rfl, rfl⟩, hWord⟩
      obtain ⟨run, rest, rfl, hSpells, rfl⟩ := (takes_anyOf documentationTags_ne_nil).mp hWord
      exact ⟨run, rest, rfl, hSpells, by rw [List.append_assoc]; rfl⟩
    · rintro ⟨run, rest, rfl, hSpells, rfl⟩
      refine ⟨_, ⟨_, rfl, rfl⟩, (takes_anyOf documentationTags_ne_nil).mpr ?_⟩
      exact ⟨run, rest, rfl, hSpells, by rw [List.append_assoc]; rfl⟩
  -- After a word there is an edge exactly where no word character follows.
  have hEdge : ∀ run rest : List Char, Spells documentationTags run →
      (((passed ++ '@' :: run).getLast?.any isWord != rest.head?.any isWord) = true ↔
        rest.head?.any isWord = false) := by
    intro run rest hSpells
    obtain ⟨hRun, hWord⟩ := hSpells.isWord areWords_documentationTags
    rw [show passed ++ '@' :: run = (passed ++ ['@']) ++ run by simp, getLast?_isWord hRun hWord]
    cases rest.head?.any isWord <;> simp
  simp only [tagged, takes_seq, takes_group, hInner, takes_edge]
  constructor
  · rintro ⟨_, ⟨_, ⟨run, rest, rfl, hSpells, rfl⟩, rfl⟩, hStop, rfl⟩
    exact ⟨run, rest, rfl, hSpells, (hEdge run rest hSpells).mp hStop, rfl⟩
  · rintro ⟨run, rest, rfl, hSpells, hStop, rfl⟩
    exact ⟨_, ⟨_, ⟨run, rest, rfl, hSpells, rfl⟩, rfl⟩, (hEdge run rest hSpells).mpr hStop, rfl⟩

/-! ## Runs of the pattern -/

/-- What is read before a tag: nothing at the start of a text, and else one character. -/
def Lead (passed gap : List Char) : Prop := (gap = [] ∧ passed = []) ∨ ∃ c, gap = [c]

/-- A tag at a place, or after one more character. -/
structure TagRun (passed text gap tag rest : List Char) : Prop where
  text_eq : text = gap ++ (tag ++ rest)
  lead : Lead passed gap
  tag : tagAt? gap.getLast? (tag ++ rest) = some tag

/-- What is found at a place is the front of the text there. -/
theorem tagAt?_append {before : Option Char} {tag rest : List Char}
    (h : tagAt? before (tag ++ rest) = some tag) :
    ∃ run, tag = '@' :: run ∧ before.all allowsTag = true ∧ Spells documentationTags run ∧
      rest.head?.any isWord = false := by
  obtain ⟨run, rest', hText, hBefore, hSpells, hRest, rfl⟩ := tagAt?_eq_some.mp h
  obtain rfl := List.append_cancel_left (List.cons.inj hText).2
  exact ⟨run, rfl, hBefore, hSpells, hRest⟩

/-- What the pattern remembers of a tag. -/
def tagFound (passed gap tag : List Char) : Found where
  start := passed.length
  stop := passed.length + gap.length + tag.length
  groups := [("tag", passed.length + gap.length, passed.length + gap.length + tag.length)]

/-- The lead takes nothing at the start of the text, or one character that allows a tag after
it. -/
theorem takes_lead {passed text : List Char} {u : Trail} :
    (alts [look .textStart, set beforeTag]).Takes (place passed text) u ↔
      ∃ gap more, text = gap ++ more ∧ Lead passed gap ∧ gap.getLast?.all allowsTag = true ∧
        u = place (passed ++ gap) more := by
  simp only [alts, takes_alt, takes_look, takes_set_place, mem_beforeTag]
  constructor
  · rintro (⟨hStart, rfl⟩ | ⟨c, rest, rfl, hBefore, rfl⟩)
    · have hStart : passed = [] := by
        simpa [Look.holds, place] using hStart
      exact ⟨[], text, rfl, .inl ⟨rfl, hStart⟩, rfl, by rw [List.append_nil]⟩
    · exact ⟨[c], rest, rfl, .inr ⟨c, rfl⟩, hBefore, rfl⟩
  · rintro ⟨_, more, rfl, ⟨rfl, rfl⟩ | ⟨c, rfl⟩, hBefore, rfl⟩
    · exact .inl ⟨rfl, rfl⟩
    · exact .inr ⟨c, more, rfl, hBefore, rfl⟩

/-- The whole pattern takes a lead and then a tag, and remembers the tag. -/
theorem takes_tagPattern {passed text : List Char} {u : Trail} :
    tagPattern.Takes (place passed text) u ↔
      ∃ gap tag rest, TagRun passed text gap tag rest ∧
        u = (place (passed ++ gap ++ tag) rest).remember (some "tag") (passed ++ gap).length := by
  simp only [tagPattern, seqs, takes_seq, takes_lead]
  constructor
  · rintro ⟨_, ⟨gap, _, rfl, hGap, hBefore, rfl⟩, hTag⟩
    obtain ⟨run, rest, rfl, hSpells, hRest, rfl⟩ := takes_tagged.mp hTag
    exact ⟨gap, '@' :: run, rest,
      ⟨rfl, hGap, tagAt?_eq_some.mpr ⟨run, rest, rfl, hBefore, hSpells, hRest, rfl⟩⟩, rfl⟩
  · rintro ⟨gap, tag, rest, ⟨rfl, hGap, hTag⟩, rfl⟩
    obtain ⟨run, rfl, hBefore, hSpells, hRest⟩ := tagAt?_append hTag
    exact ⟨_, ⟨gap, _, rfl, hGap, hBefore, rfl⟩,
      takes_tagged.mpr ⟨run, rest, rfl, hSpells, hRest, rfl⟩⟩

/-- There is one tag at a place. -/
theorem TagRun.unique {passed text gap tag rest gap' tag' rest' : List Char}
    (h : TagRun passed text gap tag rest) (h' : TagRun passed text gap' tag' rest') :
    gap = gap' ∧ tag = tag' ∧ rest = rest' := by
  obtain ⟨run, rfl, hBefore, hSpells, hRest⟩ := tagAt?_append h.tag
  obtain ⟨run', rfl, hBefore', hSpells', hRest'⟩ := tagAt?_append h'.tag
  have hText := h.text_eq.symm.trans h'.text_eq
  have hGap : gap = gap' := by
    -- A character after which a tag can start is not the `@` of one.
    rcases h.lead with ⟨rfl, -⟩ | ⟨c, rfl⟩ <;> rcases h'.lead with ⟨rfl, -⟩ | ⟨c', rfl⟩
    · rfl
    · obtain rfl : '@' = c' := (List.cons.inj hText).1
      simp [allowsTag] at hBefore'
    · obtain rfl : c = '@' := (List.cons.inj hText).1
      simp [allowsTag] at hBefore
    · rw [(List.cons.inj hText).1]
  subst hGap
  have hMore : run ++ rest = run' ++ rest' := (List.cons.inj (List.append_cancel_left hText)).2
  obtain ⟨rfl, rfl⟩ := eq_of_isWord_append (hSpells.isWord areWords_documentationTags).2 hRest
    (hSpells'.isWord areWords_documentationTags).2 hRest' hMore
  exact ⟨rfl, rfl, rfl⟩

theorem loopFree_tagPattern : tagPattern.loopFree = true := by
  simp [tagPattern, tagged, seqs, alts, edge, loopFree, loopFree_anyOf]

/-- What is found at a place is a tag there or after one more character. -/
theorem at?_tagPattern {passed text : List Char} {f : Found} :
    tagPattern.at? (place passed text) = some f ↔
      ∃ gap tag rest, TagRun passed text gap tag rest ∧ f = tagFound passed gap tag := by
  have hFound : ∀ gap tag rest : List Char, (⟨passed.length,
      ((place (passed ++ gap ++ tag) rest).remember (some "tag") (passed ++ gap).length).index,
      ((place (passed ++ gap ++ tag) rest).remember (some "tag") (passed ++ gap).length).groups⟩ :
        Found) = tagFound passed gap tag := by
    intro gap tag rest
    simp [place, Trail.remember, tagFound, Nat.add_assoc]
  constructor
  · intro hAt
    obtain ⟨u, hTakes, rfl⟩ := takes_of_at? hAt
    obtain ⟨gap, tag, rest, hTag, rfl⟩ := takes_tagPattern.mp hTakes
    exact ⟨gap, tag, rest, hTag, hFound gap tag rest⟩
  · rintro ⟨gap, tag, rest, hTag, rfl⟩
    rw [at?_eq_some loopFree_tagPattern (takes_tagPattern.mpr ⟨gap, tag, rest, hTag, rfl⟩), hFound]
    intro v hv
    obtain ⟨gap', tag', rest', hTag', rfl⟩ := takes_tagPattern.mp hv
    obtain ⟨rfl, rfl, rfl⟩ := hTag.unique hTag'
    rfl

/-- A run starts before a tag, or where one can start after the character that is read first. -/
theorem TagRun.head {passed text gap tag rest : List Char} (h : TagRun passed text gap tag rest)
    (hPassed : passed ≠ []) : text.head?.any allowsTag = true := by
  obtain ⟨run, rfl, hBefore, -⟩ := tagAt?_append h.tag
  rcases h.lead with ⟨-, hStart⟩ | ⟨c, rfl⟩
  · exact absurd hStart hPassed
  · rw [h.text_eq]
    exact hBefore

/-- No tag can start after what a run reads behind its first character. -/
theorem TagRun.inside {passed text gap tag rest : List Char} (h : TagRun passed text gap tag rest)
    {between text' : List Char} (hText : text = between ++ text') (hBetween : between ≠ [])
    (hLt : between.length < (gap ++ tag).length) : text'.head?.any allowsTag = false := by
  -- Past its first character the run has the sign and word characters, before which no tag starts.
  obtain ⟨c, span, hRead, hSpan⟩ : ∃ c span, gap ++ tag = c :: span ∧
      ∀ d ∈ span, allowsTag d = false := by
    obtain ⟨run, rfl, -, hSpells, -⟩ := tagAt?_append h.tag
    have hRun : ∀ d ∈ run, allowsTag d = false := by
      intro d hd
      simp [allowsTag, (hSpells.isWord areWords_documentationTags).2 d hd]
    rcases h.lead with ⟨rfl, -⟩ | ⟨c, rfl⟩
    · exact ⟨'@', run, rfl, hRun⟩
    · exact ⟨c, '@' :: run, rfl, List.forall_mem_cons.mpr ⟨rfl, hRun⟩⟩
  obtain ⟨d, between, rfl⟩ := List.exists_cons_of_ne_nil hBetween
  have hSame : c :: (span ++ rest) = d :: (between ++ text') := by
    rw [← List.cons_append, ← List.cons_append, ← hRead, ← hText, h.text_eq, List.append_assoc]
  have hLonger : between.length < span.length := by
    rw [hRead] at hLt
    exact Nat.lt_of_succ_lt_succ hLt
  -- What has been passed is shorter than the run, so what follows starts inside of it.
  rcases List.append_eq_append_iff.mp (List.cons.inj hSame).2 with ⟨more, rfl, -⟩ | ⟨more, rfl, rfl⟩
  · rw [List.length_append] at hLonger
    omega
  · cases more with
    | nil => simp at hLonger
    | cons e more => exact hSpan e (by simp)

/-- Runs do not overlap. -/
theorem apart_tagPattern (text : List Char) : tagPattern.Apart text := by
  intro t ht u hu f f' hf hf' hLt
  obtain ⟨passed, text, rfl, rfl⟩ := mem_places.mp ht
  obtain ⟨passed', text', hText, rfl⟩ := mem_places.mp hu
  obtain ⟨gap, tag, rest, hTag, rfl⟩ := at?_tagPattern.mp hf
  obtain ⟨_, _, _, hTag', -⟩ := at?_tagPattern.mp hf'
  -- The second run starts some characters after the first one.
  obtain ⟨between, rfl, rfl⟩ :
      ∃ between, passed' = passed ++ between ∧ text = between ++ text' := by
    rcases List.append_eq_append_iff.mp hText with ⟨more, hPassed, hMore⟩ | ⟨more, hPassed, -⟩
    · exact ⟨more, hPassed, hMore⟩
    · rw [hPassed] at hLt
      simp only [place, List.nil_append, List.length_append] at hLt
      omega
  have hBetween : between ≠ [] := by
    rintro rfl
    simp at hLt
  have hHead := hTag'.head (by simpa using fun _ => hBetween)
  refine Nat.le_of_not_lt fun hInside => ?_
  rw [hTag.inside rfl hBetween] at hHead
  · cases hHead
  · simp only [tagFound, place, List.nil_append, List.length_append] at hInside ⊢
    omega

/-! ## All tags -/

/-- The tag that a run of the pattern remembers. -/
def tagAfter? (whole : List Char) (t : Trail) : Option (List Char) :=
  (tagPattern.at? t).bind fun f => f.group? "tag" whole

/-- What is remembered from a place on is the tag after the lead there. -/
theorem tagAfter?_eq_some {whole passed text tag : List Char} (hWhole : whole = passed ++ text) :
    tagAfter? whole (place passed text) = some tag ↔
      ∃ gap rest, TagRun passed text gap tag rest := by
  have hGroup : ∀ gap tag rest, TagRun passed text gap tag rest →
      (tagFound passed gap tag).group? "tag" whole = some tag := by
    intro gap tag rest hTag
    rw [hWhole, hTag.text_eq]
    simp [tagFound, Found.group?, Found.between]
  rw [tagAfter?, Option.bind_eq_some_iff]
  constructor
  · rintro ⟨f, hAt, hTag⟩
    obtain ⟨gap, tag', rest, hRun, rfl⟩ := at?_tagPattern.mp hAt
    obtain rfl := Option.some.inj ((hGroup gap tag' rest hRun).symm.trans hTag)
    exact ⟨gap, rest, hRun⟩
  · rintro ⟨gap, rest, hRun⟩
    exact ⟨_, at?_tagPattern.mpr ⟨gap, tag, rest, hRun, rfl⟩, hGroup gap tag rest hRun⟩

/-- A lead is empty only at the start of the text. -/
theorem exists_tagRun {passed text tag : List Char} :
    (∃ gap rest, TagRun passed text gap tag rest) ↔
      (passed = [] ∧ tagAt? none text = some tag) ∨
        ∃ c cs, text = c :: cs ∧ tagAt? (some c) cs = some tag := by
  have hStart : ∀ {before : Option Char} {text : List Char}, tagAt? before text = some tag →
      ∃ rest, text = tag ++ rest := by
    intro before text h
    obtain ⟨run, rest, rfl, -, -, -, rfl⟩ := tagAt?_eq_some.mp h
    exact ⟨rest, rfl⟩
  constructor
  · rintro ⟨_, rest, rfl, ⟨rfl, rfl⟩ | ⟨c, rfl⟩, hTag⟩
    · exact .inl ⟨rfl, hTag⟩
    · exact .inr ⟨c, _, rfl, hTag⟩
  · rintro (⟨rfl, hTag⟩ | ⟨c, cs, rfl, hTag⟩)
    · obtain ⟨rest, rfl⟩ := hStart hTag
      exact ⟨[], rest, rfl, .inl ⟨rfl, rfl⟩, hTag⟩
    · obtain ⟨rest, rfl⟩ := hStart hTag
      exact ⟨[c], rest, rfl, .inr ⟨c, rfl⟩, hTag⟩

/-- Every run of the pattern remembers a tag. -/
theorem tagAfter?_eq_none {whole : List Char} {t : Trail} (ht : t ∈ places [] whole) :
    tagAfter? whole t = none ↔ tagPattern.at? t = none := by
  obtain ⟨passed, text, hWhole, rfl⟩ := mem_places.mp ht
  constructor
  · intro hNone
    rw [Option.eq_none_iff_forall_ne_some]
    intro f hAt
    obtain ⟨gap, tag, rest, hRun, -⟩ := at?_tagPattern.mp hAt
    rw [List.nil_append, (tagAfter?_eq_some hWhole).mpr ⟨gap, rest, hRun⟩] at hNone
    cases hNone
  · intro hNone
    rw [tagAfter?, hNone]
    rfl

/-- The tags that start after the first character of a text. -/
def tagsBehind : List Char → List (List Char)
  | [] => []
  | c :: cs => tagsFrom (some c) cs

theorem tagsFrom_eq (before : Option Char) (text : List Char) :
    tagsFrom before text = (tagAt? before text).toList ++ tagsBehind text := by
  cases text <;> rfl

theorem filterMap_cons_toList {α β : Type} (f : α → Option β) (a : α) (as : List α) :
    (a :: as).filterMap f = (f a).toList ++ as.filterMap f := by
  rw [List.filterMap_cons]
  cases f a <;> rfl

/-- Behind the start of a text, each place is asked for the tag after the next character. -/
theorem filterMap_tagAfter? {whole passed text : List Char} (hWhole : whole = passed ++ text)
    (hPassed : passed ≠ []) :
    (places passed text).filterMap (tagAfter? whole) = tagsBehind text := by
  induction text generalizing passed with
  | nil =>
    -- A tag here would start after one more character, and there is none.
    have hNone : tagAfter? whole (place passed []) = none := by
      rw [Option.eq_none_iff_forall_ne_some]
      intro tag hTag
      rcases exists_tagRun.mp ((tagAfter?_eq_some hWhole).mp hTag) with ⟨rfl, -⟩ | ⟨c, cs, hNil, -⟩
      · exact hPassed rfl
      · cases hNil
    rw [places, filterMap_cons_toList, hNone]
    rfl
  | cons c cs ih =>
    have hHere : tagAfter? whole (place passed (c :: cs)) = tagAt? (some c) cs := by
      ext tag
      rw [tagAfter?_eq_some hWhole, exists_tagRun]
      constructor
      · rintro (⟨rfl, -⟩ | ⟨_, _, hText, hTag⟩)
        · exact absurd rfl hPassed
        · obtain ⟨rfl, rfl⟩ := List.cons.inj hText
          exact hTag
      · exact fun hTag => .inr ⟨c, cs, rfl, hTag⟩
    rw [places, filterMap_cons_toList, hHere, ih (by simpa using hWhole) (by simp), tagsBehind,
      tagsFrom_eq]

/-- At the start of a text a tag is there or after one character. -/
theorem tagAfter?_start {text tag : List Char} :
    tagAfter? text (place [] text) = some tag ↔
      tagAt? none text = some tag ∨ ∃ c cs, text = c :: cs ∧ tagAt? (some c) cs = some tag := by
  rw [tagAfter?_eq_some (List.nil_append text).symm, exists_tagRun]
  simp

/-- At the start of a text its first two places are asked at once. A text that starts with a tag
has none that starts right after its first character. -/
theorem tagAfter?_start_cons (c : Char) (cs : List Char) :
    (tagAfter? (c :: cs) (place [] (c :: cs))).toList =
      (tagAt? none (c :: cs)).toList ++ (tagAt? (some c) cs).toList := by
  cases hFirst : tagAt? none (c :: cs) with
  | some tag =>
    have hSecond : tagAt? (some c) cs = none := by
      rw [Option.eq_none_iff_forall_ne_some]
      intro tag' hTag'
      obtain ⟨_, _, hText, -⟩ := tagAt?_eq_some.mp hFirst
      obtain ⟨_, _, -, hBefore, -⟩ := tagAt?_eq_some.mp hTag'
      obtain rfl : c = '@' := (List.cons.inj hText).1
      cases hBefore
    rw [hSecond, tagAfter?_start.mpr (.inl hFirst)]
    rfl
  | none =>
    have hSame : tagAfter? (c :: cs) (place [] (c :: cs)) = tagAt? (some c) cs := by
      ext tag
      rw [tagAfter?_start, hFirst]
      simp
    rw [hSame]
    rfl

/-- Asking all places for the tag that a run remembers yields all tags, in order. -/
theorem filterMap_tagAfter?_eq_tagsOf (text : List Char) :
    (places [] text).filterMap (tagAfter? text) = tagsOf text := by
  cases text with
  | nil =>
    have hNone : tagAfter? [] (place [] []) = none := by
      rw [Option.eq_none_iff_forall_ne_some]
      intro tag hTag
      rcases tagAfter?_start.mp hTag with hTag | ⟨c, cs, hNil, -⟩ <;> contradiction
    rw [places, filterMap_cons_toList, hNone]
    rfl
  | cons c cs =>
    have hBehind : (places [c] cs).filterMap (tagAfter? (c :: cs)) = tagsBehind cs :=
      filterMap_tagAfter? rfl (List.cons_ne_nil c [])
    calc (places [] (c :: cs)).filterMap (tagAfter? (c :: cs))
      _ = (tagAfter? (c :: cs) (place [] (c :: cs))).toList ++
            (places [c] cs).filterMap (tagAfter? (c :: cs)) := filterMap_cons_toList ..
      _ = (tagAt? none (c :: cs)).toList ++ ((tagAt? (some c) cs).toList ++ tagsBehind cs) := by
        rw [tagAfter?_start_cons, hBehind, List.append_assoc]
      _ = tagsOf (c :: cs) := by rw [← tagsFrom_eq, tagsOf, tagsFrom]

/-! ## The rule -/

/-- The characters of words that are joined as alternatives. -/
theorem toList_joined (start stop : String) (words : List String) :
    (start ++ String.intercalate "|" words ++ stop).toList =
      start.toList ++ (['|'].intercalate (words.map String.toList) ++ stop.toList) := by
  rw [String.toList_append, String.toList_append, String.toList_intercalate, List.append_assoc]
  rfl

/-- The rule for documentation tags is read as the pattern that was put together. -/
theorem documentation_pattern : documentation.pattern = tagPattern := by
  have hSource : documentationSource.toList = r"(?:^|[^\w@])(?P<tag>@(?:".toList ++
      (['|'].intercalate (documentationTags.map String.toList) ++ r"))\b".toList) :=
    toList_joined ..
  rw [documentation]
  apply pattern_rule
  rw [hSource]
  decide +kernel

/-- What is noted of documentation are all its tags, in order and as they are written, and
documentation are the texts that have one. -/
theorem documentation_finds_all_tags (text : List Char) :
    documentation.metadata text = .tags ((tagsOf text).map String.ofList) ∧
      (documentation.applies text = true ↔ tagsOf text ≠ []) := by
  have hRuns : tagPattern.findAll text = (places [] text).filterMap tagPattern.at? :=
    findAll_eq_filterMap (searcher_of_loopFree loopFree_tagPattern) rfl (apart_tagPattern text)
  constructor
  · have hMetadata : documentation.metadata text = .tags ((documentation.pattern.findAll text).filterMap
        fun found => (found.group? "tag" text).map String.ofList) := rfl
    rw [hMetadata, documentation_pattern, hRuns, ← filterMap_tagAfter?_eq_tagsOf,
      List.filterMap_filterMap, List.map_filterMap]
    congr 1
    refine List.filterMap_congr fun t _ => ?_
    rw [tagAfter?, Option.map_bind]
    rfl
  · rw [Rule.applies, documentation_pattern, occursIn,
      find?_eq_findSome? (searcher_of_loopFree loopFree_tagPattern), Option.isSome_iff_ne_none,
      ← filterMap_tagAfter?_eq_tagsOf, Ne, Ne, not_iff_not, List.findSome?_eq_none_iff,
      List.filterMap_eq_nil_iff]
    exact forall₂_congr fun t ht => (tagAfter?_eq_none ht).symm

end Rule.Builtin

end CommentSieve
